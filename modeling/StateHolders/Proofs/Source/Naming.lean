import StateHolders.Source.ImportTable
import StateHolders.Proofs.Text.ByteOrder
import StateHolders.Proofs.TypeExpr.Renaming

/-! How the names of a file resolve. What a table prints depends on one question about each name,
whether it is alone with its simple name among those registered; all the rest follows from that. -/

namespace StateHolders.Source

inductive Registration where
  | type (t : TypeExpr)
  | symbol (s : Symbol)

def Registration.names : Registration → List String
  | .type t => t.names.filter (· ≠ "*")
  | .symbol s => [s.qualifiedName]

namespace ImportTable

open QualifiedName

def register (t : ImportTable) : Registration → ImportTable
  | .type type => t.addType type
  | .symbol s => t.addSymbol s

def ofRegistrations (package : String) (rs : List Registration) : ImportTable :=
  rs.foldl register (empty package)

def Registered (rs : List Registration) (n : String) : Prop := ∃ r ∈ rs, n ∈ r.names

/-! A registration adds its names, each once, and leaves the package alone. -/

theorem mem_addName {t : ImportTable} {m n : String} :
    n ∈ (t.addName m).names ↔ n ∈ t.names ∨ n = m := by
  unfold addName
  split
  · next hm => exact ⟨.inl, fun h => h.elim id fun h => h ▸ hm⟩
  · simp

theorem nodup_addName {t : ImportTable} (ht : t.names.Nodup) (n : String) :
    (t.addName n).names.Nodup := by
  unfold addName
  split
  · exact ht
  · next hn =>
    rw [List.nodup_append]
    refine ⟨ht, by simp, ?_⟩
    rintro a ha b hb rfl
    exact hn (List.mem_singleton.mp hb ▸ ha)

theorem package_addName (t : ImportTable) (n : String) : (t.addName n).package = t.package := by
  unfold addName
  split <;> rfl

theorem mem_addNames {t : ImportTable} {ns : List String} {n : String} :
    n ∈ (t.addNames ns).names ↔ n ∈ t.names ∨ n ∈ ns := by
  unfold addNames
  induction ns generalizing t with
  | nil => simp
  | cons m ns ih => rw [List.foldl_cons, ih, mem_addName, List.mem_cons, or_assoc]

theorem nodup_addNames {t : ImportTable} (ht : t.names.Nodup) (ns : List String) :
    (t.addNames ns).names.Nodup := by
  unfold addNames
  induction ns generalizing t with
  | nil => exact ht
  | cons m ns ih => exact ih (nodup_addName ht m)

theorem package_addNames (t : ImportTable) (ns : List String) :
    (t.addNames ns).package = t.package := by
  unfold addNames
  induction ns generalizing t with
  | nil => rfl
  | cons m ns ih => rw [List.foldl_cons, ih, package_addName]

theorem register_eq_addNames (t : ImportTable) (r : Registration) :
    t.register r = t.addNames r.names := by
  cases r <;> rfl

theorem ofRegistrations_eq_addNames (package : String) (rs : List Registration) :
    ofRegistrations package rs = (empty package).addNames (rs.flatMap Registration.names) := by
  unfold ofRegistrations
  generalize empty package = t
  induction rs generalizing t with
  | nil => rfl
  | cons r rs ih =>
    rw [List.foldl_cons, ih, register_eq_addNames, List.flatMap_cons]
    simp only [addNames, List.foldl_append]

theorem mem_ofRegistrations {package : String} {rs : List Registration} {n : String} :
    n ∈ (ofRegistrations package rs).names ↔ Registered rs n := by
  rw [ofRegistrations_eq_addNames, mem_addNames]
  simp [empty, Registered]

theorem nodup_ofRegistrations (package : String) (rs : List Registration) :
    (ofRegistrations package rs).names.Nodup := by
  rw [ofRegistrations_eq_addNames]
  exact nodup_addNames List.nodup_nil _

theorem package_ofRegistrations (package : String) (rs : List Registration) :
    (ofRegistrations package rs).package = package := by
  rw [ofRegistrations_eq_addNames, package_addNames]
  rfl

/-! A simple name is ambiguous when two different names have it. -/

theorem one_lt_length_iff {l : List String} (hl : l.Nodup) :
    1 < l.length ↔ ∃ a ∈ l, ∃ b ∈ l, a ≠ b := by
  match l, hl with
  | [], _ => simp
  | [a], _ => simp
  | a :: b :: l, hl =>
    have hab : a ≠ b := fun h => (List.nodup_cons.mp hl).1 (h ▸ List.mem_cons_self)
    exact iff_of_true (by simp) ⟨a, by simp, b, by simp, hab⟩

theorem isAmbiguous_iff {t : ImportTable} (ht : t.names.Nodup) {simple : String} :
    t.isAmbiguous simple = true ↔
      ∃ a ∈ t.names, ∃ b ∈ t.names, simpleName a = simple ∧ simpleName b = simple ∧ a ≠ b := by
  have hnodup : (t.sharing simple).Nodup := ht.sublist List.filter_sublist
  rw [isAmbiguous, decide_eq_true_eq, one_lt_length_iff hnodup]
  simp only [sharing, List.mem_filter, decide_eq_true_eq]
  constructor
  · rintro ⟨a, ⟨ha, has⟩, b, ⟨hb, hbs⟩, hab⟩
    exact ⟨a, ha, b, hb, has, hbs, hab⟩
  · rintro ⟨a, ha, b, hb, has, hbs, hab⟩
    exact ⟨a, ⟨ha, has⟩, b, ⟨hb, hbs⟩, hab⟩

def Alone (t : ImportTable) (n : String) : Prop :=
  ∀ m ∈ t.names, simpleName m = simpleName n → m = n

theorem alone_iff {t : ImportTable} (ht : t.names.Nodup) {n : String} (hn : n ∈ t.names) :
    t.Alone n ↔ t.isAmbiguous (simpleName n) = false := by
  rw [← Bool.not_eq_true, isAmbiguous_iff ht]
  constructor
  · rintro halone ⟨a, ha, b, hb, has, hbs, hab⟩
    exact hab ((halone a ha has).trans (halone b hb hbs).symm)
  · intro hnone m hm hmn
    exact Decidable.byContradiction fun hne => hnone ⟨m, hm, n, hn, hmn, rfl, hne⟩

theorem isBare_iff {n : String} : isBare n = true ↔ '.' ∉ n.toList := by
  rw [isBare, decide_eq_true_eq, simpleName_eq_self_iff]

/-- A bare name and one that is alone are printed by their simple names, any other in full. -/
theorem nameFor_cases {t : ImportTable} (ht : t.names.Nodup) {n : String} (hn : n ∈ t.names) :
    (('.' ∉ n.toList ∨ t.Alone n) ∧ t.nameFor n = simpleName n) ∨
      ('.' ∈ n.toList ∧ ¬t.Alone n ∧ t.nameFor n = n) := by
  by_cases hdot : '.' ∈ n.toList
  · have hbare : isBare n = false := by
      rw [← Bool.not_eq_true, isBare_iff]
      exact fun h => h hdot
    cases hamb : t.isAmbiguous (simpleName n) with
    | false => exact .inl ⟨.inr ((alone_iff ht hn).mpr hamb), by simp [nameFor, hamb]⟩
    | true =>
      refine .inr ⟨hdot, fun halone => ?_, by simp [nameFor, hbare, hamb]⟩
      rw [alone_iff ht hn, hamb] at halone
      cases halone
  · exact .inl ⟨.inl hdot, by simp [nameFor, isBare_iff.mpr hdot]⟩

theorem nameFor_injective {t : ImportTable} (ht : t.names.Nodup) {a b : String}
    (ha : a ∈ t.names) (hb : b ∈ t.names) (h : t.nameFor a = t.nameFor b) : a = b := by
  rcases nameFor_cases ht ha with ⟨hashort, hpa⟩ | ⟨hadot, -, hpa⟩ <;>
    rcases nameFor_cases ht hb with ⟨hbshort, hpb⟩ | ⟨hbdot, -, hpb⟩ <;>
    rw [hpa, hpb] at h
  -- a short form has no dot, so it differs from every form in full
  · rcases hashort with habare | haalone
    · rcases hbshort with hbbare | hbalone
      · rwa [simpleName_of_notMem habare, simpleName_of_notMem hbbare] at h
      · exact hbalone a ha h
    · exact (haalone b hb h.symm).symm
  · exact absurd (h ▸ hbdot) (dot_notMem_simpleName a)
  · exact absurd (h ▸ hadot) (dot_notMem_simpleName b)
  · exact h

theorem mem_imports_iff {t : ImportTable} (ht : t.names.Nodup) {n : String} :
    n ∈ t.imports ↔ n ∈ t.names ∧ t.Alone n ∧ t.needsImport n = true := by
  rw [imports, List.mem_mergeSort, List.mem_filter, Bool.and_eq_true,
    Bool.not_eq_true']
  constructor
  · rintro ⟨hn, hamb, hneeds⟩
    exact ⟨hn, (alone_iff ht hn).mpr hamb, hneeds⟩
  · rintro ⟨hn, halone, hneeds⟩
    exact ⟨hn, (alone_iff ht hn).mp halone, hneeds⟩

theorem pairwise_lt_mergeSort {names : List String} (h : names.Nodup) :
    names.mergeSort.Pairwise (· < ·) := by
  have htrans : ∀ a b c : String, decide (a ≤ b) = true → decide (b ≤ c) = true →
      decide (a ≤ c) = true := by
    simpa using fun a b c : String => String.le_trans
  have htotal : ∀ a b : String, (decide (a ≤ b) || decide (b ≤ a)) = true := by
    simpa using String.le_total
  have hsorted := List.pairwise_mergeSort htrans htotal names
  have hnodup : names.mergeSort.Nodup := (List.mergeSort_perm _ _).nodup_iff.mpr h
  refine hsorted.imp₂ (fun a b hle hne => String.not_le.mp fun hge => ?_) hnodup
  exact hne (String.le_antisymm (of_decide_eq_true hle) hge)

theorem imports_pairwise_lt {t : ImportTable} (ht : t.names.Nodup) :
    t.imports.Pairwise (· < ·) :=
  pairwise_lt_mergeSort (ht.sublist List.filter_sublist)

theorem needsImport_iff {t : ImportTable} {n : String} :
    t.needsImport n = true ↔ packageName n ≠ "" ∧ packageName n ≠ t.package ∧
      isImplicitPackage (packageName n) = false := by
  simp [needsImport, and_assoc]

def fullName (t : ImportTable) (printed : String) : String :=
  (t.names.find? (t.nameFor · = printed)).getD printed

theorem fullName_nameFor {t : ImportTable} (ht : t.names.Nodup) {n : String} (hn : n ∈ t.names) :
    t.fullName (t.nameFor n) = n := by
  unfold fullName
  cases hfind : t.names.find? (t.nameFor · = t.nameFor n) with
  | none => simpa using List.find?_eq_none.mp hfind n hn
  | some m =>
    have hm : t.nameFor m = t.nameFor n := by simpa using List.find?_some hfind
    exact nameFor_injective ht (List.mem_of_find?_eq_some hfind) hn hm

theorem isName_nameFor (t : ImportTable) {n : String} (hname : TypeExpr.IsName n.toList)
    (hstar : n ≠ "*") : TypeExpr.IsName (t.nameFor n).toList ∧ t.nameFor n ≠ "*" := by
  unfold nameFor
  split
  · exact TypeExpr.isName_simpleName hname hstar
  · exact ⟨hname, hstar⟩

theorem grammatical_rename_nameFor (t : ImportTable) {type : TypeExpr} (h : type.Grammatical) :
    (type.rename t.nameFor).Grammatical :=
  TypeExpr.grammatical_rename h fun n hn hstar => (isName_nameFor t (h n hn) hstar).1

def Covers (t : ImportTable) (type : TypeExpr) : Prop := ∀ n ∈ type.names, n ≠ "*" → n ∈ t.names

theorem parse_typeName (t : ImportTable) {type : TypeExpr} (hgram : type.Grammatical) :
    TypeExpr.parse (t.typeName type) = .ok (type.rename t.nameFor) :=
  TypeExpr.parse_print (t.grammatical_rename_nameFor hgram)

theorem rename_fullName {t : ImportTable} (ht : t.names.Nodup) {type : TypeExpr}
    (hcover : t.Covers type) (hgram : type.Grammatical) :
    (type.rename t.nameFor).rename t.fullName = type := by
  apply TypeExpr.rename_rename_eq_self
  intro n hn
  by_cases hstar : n = "*"
  · simp [TypeExpr.renamed, hstar]
  · have hmem := hcover n hn hstar
    have hprinted := (isName_nameFor t (hgram n hn) hstar).2
    rw [TypeExpr.renamed, TypeExpr.renamed, if_neg hstar, if_neg hprinted, fullName_nameFor ht hmem]

/-- What the table of a file in `package` promises after the registrations `rs`. -/
structure Resolves (package : String) (rs : List Registration) (t : ImportTable) : Prop where
  printed_apart : ∀ a b, Registered rs a → Registered rs b → t.nameFor a = t.nameFor b → a = b
  visible : ∀ n, Registered rs n → t.nameFor n = simpleName n →
    n ∈ t.imports ∨ packageName n = package ∨ isImplicitPackage (packageName n) = true ∨
      packageName n = ""
  full_not_imported : ∀ n, Registered rs n → t.nameFor n = n → n ∉ t.imports
  imports_apart : ∀ a ∈ t.imports, ∀ b ∈ t.imports, simpleName a = simpleName b → a = b
  /-- No import captures another name of the file. -/
  imports_capture_none : ∀ a ∈ t.imports, ∀ n, Registered rs n →
    simpleName n = simpleName a → n = a
  imports_increasing : t.imports.Pairwise fun a b => Text.utf8Bytes a < Text.utf8Bytes b
  imports_registered : ∀ n ∈ t.imports, Registered rs n
  covers_registered : ∀ type, .type type ∈ rs → t.Covers type
  types_read_back : ∀ type, t.Covers type → type.Grammatical →
    TypeExpr.parse (t.typeName type) = .ok (type.rename t.nameFor) ∧
      (type.rename t.nameFor).rename t.fullName = type

theorem covers_of_mem {package : String} {rs : List Registration} {type : TypeExpr}
    (h : .type type ∈ rs) : (ofRegistrations package rs).Covers type := by
  intro n hn hstar
  exact mem_ofRegistrations.mpr ⟨.type type, h, List.mem_filter.mpr ⟨hn, by simpa using hstar⟩⟩

theorem not_mem_imports_of_nameFor_eq {t : ImportTable} (ht : t.names.Nodup) {n : String}
    (h : t.nameFor n = n) : n ∉ t.imports := by
  intro himp
  obtain ⟨hn, halone, hneeds⟩ := (mem_imports_iff ht).mp himp
  have hdot : '.' ∈ n.toList :=
    Decidable.byContradiction fun hbare =>
      (needsImport_iff.mp hneeds).1 (packageName_of_notMem hbare)
  rcases nameFor_cases ht hn with ⟨-, hp⟩ | ⟨-, hnot, -⟩
  · exact simpleName_eq_self_iff.mp (hp.symm.trans h) hdot
  · exact hnot halone

theorem mem_imports_or_visible {t : ImportTable} (ht : t.names.Nodup) {n : String}
    (hn : n ∈ t.names) (h : t.nameFor n = simpleName n) :
    n ∈ t.imports ∨ packageName n = t.package ∨ isImplicitPackage (packageName n) = true ∨
      packageName n = "" := by
  by_cases hneeds : t.needsImport n = true
  · rcases nameFor_cases ht hn with ⟨hbare | halone, -⟩ | ⟨hdot, -, hp⟩
    · exact absurd (packageName_of_notMem hbare) (needsImport_iff.mp hneeds).1
    · exact .inl ((mem_imports_iff ht).mpr ⟨hn, halone, hneeds⟩)
    · exact absurd hdot (simpleName_eq_self_iff.mp (h.symm.trans hp))
  · refine .inr ?_
    rw [needsImport_iff] at hneeds
    by_cases hempty : packageName n = ""
    · exact .inr (.inr hempty)
    · by_cases hown : packageName n = t.package
      · exact .inl hown
      · exact .inr (.inl (by simpa [hempty, hown] using hneeds))

/-- Names in a generated file resolve to the names that were registered for it, whatever was
registered and in whatever order. -/
theorem ofRegistrations_resolves (package : String) (rs : List Registration) :
    Resolves package rs (ofRegistrations package rs) := by
  have ht := nodup_ofRegistrations package rs
  have hpackage := package_ofRegistrations package rs
  have hmem : ∀ {n}, Registered rs n → n ∈ (ofRegistrations package rs).names :=
    mem_ofRegistrations.mpr
  exact {
    printed_apart := fun a b ha hb => nameFor_injective ht (hmem ha) (hmem hb)
    visible := fun n hn h => by
      have hvisible := mem_imports_or_visible ht (hmem hn) h
      rwa [hpackage] at hvisible
    full_not_imported := fun n _ => not_mem_imports_of_nameFor_eq ht
    imports_apart := fun a ha b hb h =>
      ((mem_imports_iff ht).mp hb).2.1 a ((mem_imports_iff ht).mp ha).1 h
    imports_capture_none := fun a ha n hn h => ((mem_imports_iff ht).mp ha).2.1 n (hmem hn) h
    imports_increasing := (imports_pairwise_lt ht).imp Text.utf8Bytes_lt_of_lt
    imports_registered := fun n hn => mem_ofRegistrations.mp ((mem_imports_iff ht).mp hn).1
    covers_registered := fun type => covers_of_mem
    types_read_back := fun type hcover hgram =>
      ⟨parse_typeName _ hgram, rename_fullName ht hcover hgram⟩ }

end ImportTable
end StateHolders.Source
