import Mathlib.Data.List.Sort
import StateHolders.Proofs.Holder.Registration

/-! The order in which names are registered. A table keeps its names in the order in which they come, and prints
nothing that depends on it: two tables of one package that have the same names agree on every name, every type
and every import, also if their imports are gathered simple name by simple name, in any order. -/

namespace StateHolders

namespace Source.ImportTable

open QualifiedName

variable {t t' : ImportTable} {n : String}

structure SameNames (t t' : ImportTable) : Prop where
  package : t.package = t'.package
  names : t.names.Perm t'.names

theorem sameNames_ofRegistrations {rs rs' : List Registration}
    (h : ∀ n, Registered rs n ↔ Registered rs' n) (package : String) :
    SameNames (ofRegistrations package rs) (ofRegistrations package rs') where
  package := by rw [package_ofRegistrations, package_ofRegistrations]
  names := by
    have hnodup := nodup_ofRegistrations package rs
    refine (List.perm_ext_iff_of_nodup hnodup (nodup_ofRegistrations package rs')).mpr fun n => ?_
    rw [mem_ofRegistrations, mem_ofRegistrations, h]

/-- What is printed with two tables is the same. -/
structure PrintsAlike (t t' : ImportTable) : Prop where
  imports : t.imports = t'.imports
  nameFor : ∀ n, t.nameFor n = t'.nameFor n
  typeName : ∀ type, t.typeName type = t'.typeName type
  symbolName : ∀ s, t.symbolName s = t'.symbolName s

namespace SameNames

theorem isAmbiguous_eq (h : SameNames t t') (simple : String) :
    t.isAmbiguous simple = t'.isAmbiguous simple := by
  have hsharing : (t.sharing simple).length = (t'.sharing simple).length :=
    (h.names.filter _).length_eq
  rw [isAmbiguous, isAmbiguous, hsharing]

theorem needsImport_eq (h : SameNames t t') (n : String) : t.needsImport n = t'.needsImport n := by
  rw [needsImport, needsImport, h.package]

theorem nameFor_eq (h : SameNames t t') : t.nameFor = t'.nameFor := by
  funext n
  rw [nameFor, nameFor, h.isAmbiguous_eq]

theorem imports_eq (h : SameNames t t') (ht : t.names.Nodup) : t.imports = t'.imports := by
  have ht' : t'.names.Nodup := h.names.nodup_iff.mp ht
  refine (imports_pairwise_lt ht).eq_of_mem_iff (imports_pairwise_lt ht') fun n => ?_
  simp only [imports, List.mem_mergeSort, List.mem_filter, h.isAmbiguous_eq, h.needsImport_eq,
    h.names.mem_iff]

theorem printsAlike (h : SameNames t t') (ht : t.names.Nodup) : PrintsAlike t t' where
  imports := h.imports_eq ht
  nameFor := congrFun h.nameFor_eq
  typeName type := by rw [ImportTable.typeName, ImportTable.typeName, h.nameFor_eq]
  symbolName s := by rw [ImportTable.symbolName, ImportTable.symbolName, h.nameFor_eq]

end SameNames

/-! Names in groups. The names that share a simple name are a group, and the groups can be met in any order. -/

structure HasKeys (t : ImportTable) (keys : List String) : Prop where
  nodup : keys.Nodup
  mem_iff : ∀ key, key ∈ keys ↔ ∃ n ∈ t.names, simpleName n = key

/-- The imports as they are met group by group: those names that are alone in their groups. -/
def gathered (t : ImportTable) (keys : List String) : List String :=
  ((keys.map t.sharing).filter (·.length = 1)).flatten.filter t.needsImport

theorem length_sharing_eq_one_iff (hn : n ∈ t.names) :
    (t.sharing (simpleName n)).length = 1 ↔ t.isAmbiguous (simpleName n) = false := by
  have hmem : n ∈ t.sharing (simpleName n) := List.mem_filter.mpr ⟨hn, by simp⟩
  have hpos := List.length_pos_of_mem hmem
  rw [isAmbiguous, decide_eq_false_iff_not]
  omega

theorem mem_gathered_iff {keys : List String} (hkeys : t.HasKeys keys) : n ∈ t.gathered keys ↔
    n ∈ t.names ∧ t.isAmbiguous (simpleName n) = false ∧ t.needsImport n = true := by
  rw [gathered, List.mem_filter, List.mem_flatten, ← and_assoc]
  refine and_congr_left fun _ => ?_
  constructor
  · rintro ⟨group, hgroup, hn⟩
    rw [List.mem_filter, List.mem_map, decide_eq_true_eq] at hgroup
    obtain ⟨⟨key, -, rfl⟩, hone⟩ := hgroup
    obtain ⟨hmem, hkey⟩ := List.mem_filter.mp hn
    obtain rfl := of_decide_eq_true hkey
    exact ⟨hmem, (length_sharing_eq_one_iff hmem).mp hone⟩
  · rintro ⟨hn, halone⟩
    have hkey := (hkeys.mem_iff (simpleName n)).mpr ⟨n, hn, rfl⟩
    have hone := (length_sharing_eq_one_iff hn).mpr halone
    exact ⟨t.sharing (simpleName n),
      List.mem_filter.mpr ⟨List.mem_map_of_mem hkey, decide_eq_true hone⟩,
      List.mem_filter.mpr ⟨hn, by simp⟩⟩

theorem nodup_gathered (ht : t.names.Nodup) {keys : List String} (hkeys : t.HasKeys keys) :
    (t.gathered keys).Nodup := by
  refine List.Nodup.filter _ (List.nodup_flatten.mpr ⟨fun group hgroup => ?_, ?_⟩)
  · obtain ⟨key, -, rfl⟩ := List.mem_map.mp (List.mem_of_mem_filter hgroup)
    exact ht.filter _
  · refine List.Pairwise.filter _ (List.pairwise_map.mpr (hkeys.nodup.imp fun hne => ?_))
    intro n hn hn'
    have hkey := of_decide_eq_true (List.mem_filter.mp hn).2
    exact hne (hkey.symm.trans (of_decide_eq_true (List.mem_filter.mp hn').2))

theorem mergeSort_gathered (ht : t.names.Nodup) {keys : List String} (hkeys : t.HasKeys keys) :
    (t.gathered keys).mergeSort = t.imports := by
  refine (pairwise_lt_mergeSort (nodup_gathered ht hkeys)).eq_of_mem_iff (imports_pairwise_lt ht)
    fun n => ?_
  rw [List.mem_mergeSort, mem_gathered_iff hkeys, imports, List.mem_mergeSort, List.mem_filter,
    Bool.and_eq_true, Bool.not_eq_true']

end Source.ImportTable

open Source
open Source.ImportTable (Registered ofRegistrations nodup_ofRegistrations sameNames_ofRegistrations PrintsAlike)

namespace ResolvedHolder

variable {c c' : ResolvedHolder}

structure SameParams (c c' : ResolvedHolder) : Prop where
  qualifiedName : c.holder.qualifiedName = c'.holder.qualifiedName
  package : c.holder.package = c'.holder.package
  mem_params_iff : ∀ pd, pd ∈ c.params ↔ pd ∈ c'.params

theorem SameParams.printsAlike (h : c.SameParams c') (library : List Registration) :
    PrintsAlike (ofRegistrations c.holder.package (c.signatureRegistrations ++ library))
      (ofRegistrations c'.holder.package (c'.signatureRegistrations ++ library)) := by
  have hregistered : ∀ n, Registered (c.signatureRegistrations ++ library) n ↔
      Registered (c'.signatureRegistrations ++ library) n := by
    simp only [Registered, signatureRegistrations, List.mem_append, List.mem_cons, List.mem_flatMap,
      h.qualifiedName, h.mem_params_iff, implies_true]
  rw [h.package]
  exact (sameNames_ofRegistrations hregistered _).printsAlike (nodup_ofRegistrations _ _)

end ResolvedHolder

/-- Two sequences of registrations that have the same names, in any order, grouped into types in any way and with
any repetitions, make tables that print alike; whatever order the simple names are met in, the imports are the
same. So the files of a class print the same names whatever order its parameters and their defaults have. -/
theorem registration_order_irrelevant :
    (∀ (package : String) (rs rs' : List Registration), (∀ n, Registered rs n ↔ Registered rs' n) →
      PrintsAlike (ofRegistrations package rs) (ofRegistrations package rs') ∧
      ∀ keys, (ofRegistrations package rs).HasKeys keys →
        ((ofRegistrations package rs).gathered keys).mergeSort = (ofRegistrations package rs').imports) ∧
    ∀ c c' : ResolvedHolder, c.SameParams c' →
      PrintsAlike (Factory.names c) (Factory.names c') ∧ PrintsAlike (Saver.names c) (Saver.names c') := by
  refine ⟨fun package rs rs' h => ?_, fun c c' h => ?_⟩
  · have hnodup := nodup_ofRegistrations package rs
    have halike := (sameNames_ofRegistrations h package).printsAlike hnodup
    refine ⟨halike, fun keys hkeys => ?_⟩
    rw [ImportTable.mergeSort_gathered hnodup hkeys, halike.imports]
  · rw [Factory.names_eq, Factory.names_eq, Saver.names_eq, Saver.names_eq]
    exact ⟨h.printsAlike _, h.printsAlike _⟩

def shelfThenItem : List Registration :=
  [.type ⟨"app.Shelf", [.named "app.Item", .named "String"], false⟩, .symbol .remember,
   .type (.named "lib.Item")]

def itemThenShelf : List Registration :=
  [.type (.named "lib.Item"), .symbol .remember,
   .type ⟨"String", [.named "*", .named "app.Shelf"], true⟩, .type (.named "app.Item"), .symbol .remember]

theorem names_shelfThenItem : (ofRegistrations "main" shelfThenItem).names =
    ["app.Shelf", "app.Item", "String", "androidx.compose.runtime.remember", "lib.Item"] := by
  decide +kernel

theorem names_itemThenShelf : (ofRegistrations "main" itemThenShelf).names =
    ["lib.Item", "androidx.compose.runtime.remember", "String", "app.Shelf", "app.Item"] := by
  decide +kernel

theorem imports_itemThenShelf : (ofRegistrations "main" itemThenShelf).imports =
    ["androidx.compose.runtime.remember", "app.Shelf"] := by
  have hsorted : ((ofRegistrations "main" itemThenShelf).names.filter fun name =>
      !(ofRegistrations "main" itemThenShelf).isAmbiguous (QualifiedName.simpleName name) &&
        (ofRegistrations "main" itemThenShelf).needsImport name) =
      ["androidx.compose.runtime.remember", "app.Shelf"] := by decide +kernel
  rw [ImportTable.imports, hsorted]
  exact List.mergeSort_of_pairwise (by decide)

theorem hasKeys_shelfThenItem :
    (ofRegistrations "main" shelfThenItem).HasKeys ["String", "remember", "Item", "Shelf"] where
  nodup := by decide
  mem_iff key := by
    have hkeys : (ofRegistrations "main" shelfThenItem).names.map QualifiedName.simpleName =
        ["Shelf", "Item", "String", "remember", "Item"] := by decide +kernel
    rw [← List.mem_map, hkeys]
    grind

def mixerReversed : ResolvedHolder where
  holder := { mixer.holder with params := mixer.holder.params.reverse }
  defaults := mixer.defaults.reverse

theorem sameParams_mixerReversed : mixer.SameParams mixerReversed where
  qualifiedName := rfl
  package := rfl
  mem_params_iff pd := by
    have hparams : mixerReversed.params = mixer.params.reverse := rfl
    rw [hparams, List.mem_reverse]

theorem registration_order_irrelevant_shelf :
    (∀ n, Registered shelfThenItem n ↔ Registered itemThenShelf n) ∧
    (ofRegistrations "main" shelfThenItem).names ≠ (ofRegistrations "main" itemThenShelf).names ∧
    (ofRegistrations "main" shelfThenItem).HasKeys ["String", "remember", "Item", "Shelf"] ∧
    (PrintsAlike (ofRegistrations "main" shelfThenItem) (ofRegistrations "main" itemThenShelf) ∧
      ((ofRegistrations "main" shelfThenItem).gathered ["String", "remember", "Item", "Shelf"]).mergeSort =
        (ofRegistrations "main" itemThenShelf).imports) ∧
    (ofRegistrations "main" itemThenShelf).imports =
      ["androidx.compose.runtime.remember", "app.Shelf"] ∧
    mixer.SameParams mixerReversed ∧
    PrintsAlike (Factory.names mixer) (Factory.names mixerReversed) ∧
      PrintsAlike (Saver.names mixer) (Saver.names mixerReversed) := by
  have hregistered : ∀ n, Registered shelfThenItem n ↔ Registered itemThenShelf n := by
    intro n
    have hmem : ∀ rs, Registered rs n ↔ n ∈ (ofRegistrations "main" rs).names :=
      fun _ => ImportTable.mem_ofRegistrations.symm
    rw [hmem, hmem, names_shelfThenItem, names_itemThenShelf]
    grind
  have hnames : (ofRegistrations "main" shelfThenItem).names ≠ (ofRegistrations "main" itemThenShelf).names := by
    rw [names_shelfThenItem, names_itemThenShelf]
    decide
  have hshelf := registration_order_irrelevant.1 "main" shelfThenItem itemThenShelf hregistered
  exact ⟨hregistered, hnames, hasKeys_shelfThenItem, ⟨hshelf.1, hshelf.2 _ hasKeys_shelfThenItem⟩,
    imports_itemThenShelf, sameParams_mixerReversed,
    registration_order_irrelevant.2 mixer mixerReversed sameParams_mixerReversed⟩

end StateHolders
