import StateHolders.Proofs.Holder.Extraction
import StateHolders.Proofs.Saver.RoundTrip

/-! When the map that a saver builds is unambiguous. Checked holders may repeat a saveable key as long as both
sides repeat it alike; the map then holds the value that was saved last, for all parameters with the key. -/

namespace StateHolders

universe u

variable {α : Type u}

def Declaration.paramKeys (d : Declaration) : List String :=
  d.params.flatMap fun p => p.markers.filterMap Marker.persistedKey?

theorem DeclaredParam.filterMap_persistedKey? (p : DeclaredParam) :
    p.markers.filterMap Marker.persistedKey? = p.sources.filterMap Marker.persistedKey? := by
  rw [sources, List.filterMap_filter]
  refine List.filterMap_congr fun m _ => ?_
  cases m <;> rfl

theorem DeclaredParam.Keeps.toList_saveableKey {p : DeclaredParam} {q : Param} (hp : ¬p.Offends)
    (h : p.Keeps q) : p.markers.filterMap Marker.persistedKey? = q.saveableKey.toList := by
  have hkey := h.saveableKey
  rw [p.filterMap_persistedKey?]
  match hsources : p.sources with
  | [] =>
    have hnone : q.saveableKey = none := Option.eq_none_iff_forall_ne_some.mpr (by simp [hkey, hsources])
    rw [hnone]
    rfl
  | [m] =>
    have hsome : q.saveableKey = m.persistedKey? := Option.ext fun key => by
      rw [hkey, hsources, Marker.persistedKey?_eq_some_iff, List.singleton_inj]
    rw [hsome, List.filterMap_cons]
    cases m.persistedKey? <;> rfl
  | _ :: _ :: _ => exact absurd (.inl (by simp [hsources])) hp

theorem Holder.paramKeys_ofDeclaration {d : Declaration} {h : Holder}
    (hd : Holder.ofDeclaration d = .ok h) : h.paramKeys = d.paramKeys := by
  obtain ⟨hnone, rfl⟩ := Declaration.ofDeclaration_eq_ok_iff.mp hd
  have hkept : ∀ p ∈ d.params, ¬p.Offends := (Declaration.problems_eq_nil_iff.mp hnone).1
  have hparams := (List.forall₂_and_left _ _).mpr ⟨hkept, (Declaration.keeps_holder hnone).params⟩
  have hkeys := map_eq_map_of_forall₂ hparams fun _ _ hpq => hpq.2.toList_saveableKey hpq.1
  rw [paramKeys, List.filterMap_eq_flatMap_toList, List.flatMap_def, ← hkeys, ← List.flatMap_def,
    Declaration.paramKeys]

namespace Saver.Plan

theorem saved_ofHolder (h : Holder) (property : String → α) (key : String) :
    (ofHolder h).saved property key =
      ((h.savedProperties.filter (·.key = key)).getLast?).map (property ·.name) := by
  rw [saved_eq]
  simp only [ofHolder, List.filter_map, List.getLast?_map, Option.map_map]
  rfl

/-- Nothing that is saved is lost, and no two parameters are restored from one value. -/
structure IsUnambiguous (α : Type u) (h : Holder) : Prop where
  writtenOnce : (ofHolder h).writtenKeys.Nodup
  readOnce : (ofHolder h).readKeys.Nodup
  kept : ∀ (property : String → α), ∀ e ∈ (ofHolder h).save,
    (ofHolder h).saved property e.key = some (property e.property)
  restored : ∀ (args own : List (String × α)) (property : String → α), Holds h args property →
    ∀ p ∈ h.params, p.saveableKey.isSome = true →
      restoredValue? ((ofHolder h).saved property) own (RestoreArg.ofParam p) = args.lookup p.name

theorem isUnambiguous_of_nodup {h : Holder} (hperm : h.paramKeys.Perm h.propertyKeys)
    (hkeys : h.paramKeys.Nodup) : IsUnambiguous α h := by
  have hwritten : h.propertyKeys.Nodup := hperm.nodup_iff.mp hkeys
  exact {
    writtenOnce := by rwa [writtenKeys_ofHolder]
    readOnce := by rwa [readKeys_ofHolder]
    kept := fun property e he => saved_of_mem (by rwa [writtenKeys_ofHolder]) property he
    restored := by
      intro args own property hholds p hp hsome
      obtain ⟨key, hkey⟩ := Option.isSome_iff_exists.mp hsome
      have hread : key ∈ h.paramKeys := List.mem_filterMap.mpr ⟨p, hp, hkey⟩
      obtain ⟨s, hs, rfl⟩ := List.mem_map.mp (hperm.mem_iff.mp hread)
      rw [restoredValue?_of_saveableKey hkey, saved_of_mem_savedProperties hwritten property hs, hholds s hs p hp hkey] }

/-- What a declaration that is accepted in persistent mode makes of its saveable keys: each is written as
often as it is read; the map is unambiguous exactly if no two parameters are marked with the same key; and
in any case a parameter is restored from the last property that has its key. -/
theorem save_map_unambiguous_iff {d : Declaration} {h : Holder} {run : InjectionMode}
    (hd : Holder.ofDeclaration d = .ok h) (hok : h.problem? run = none)
    (hmode : d.mode = .persistent) :
    (∀ key, (ofHolder h).writtenKeys.count key = (ofHolder h).readKeys.count key) ∧
    (IsUnambiguous α h ↔ d.paramKeys.Nodup) ∧
    ∀ p ∈ h.params, ∀ key, p.saveableKey = some key →
      ∃ s, (h.savedProperties.filter (·.key = key)).getLast? = some s ∧
        ∀ (property : String → α) (own : List (String × α)),
          restoredValue? ((ofHolder h).saved property) own (RestoreArg.ofParam p) =
            some (property s.name) := by
  have hperm : h.paramKeys.Perm h.propertyKeys :=
    Holder.paramKeys_perm_propertyKeys ((Holder.mode_ofDeclaration hd).trans hmode) hok
  refine ⟨fun key => ?_, ⟨fun hplan => ?_, fun hkeys => ?_⟩, fun p hp key hkey => ?_⟩
  · rw [writtenKeys_ofHolder, readKeys_ofHolder, hperm.count_eq]
  · rw [← Holder.paramKeys_ofDeclaration hd, ← readKeys_ofHolder]
    exact hplan.readOnce
  · rw [← Holder.paramKeys_ofDeclaration hd] at hkeys
    exact isUnambiguous_of_nodup hperm hkeys
  · have hread : key ∈ h.paramKeys := List.mem_filterMap.mpr ⟨p, hp, hkey⟩
    obtain ⟨s, hs, hskey⟩ := List.mem_map.mp (hperm.mem_iff.mp hread)
    have hne : h.savedProperties.filter (·.key = key) ≠ [] :=
      List.ne_nil_of_mem (List.mem_filter.mpr ⟨hs, decide_eq_true hskey⟩)
    refine ⟨_, List.getLast?_eq_some_getLast hne, fun property own => ?_⟩
    rw [restoredValue?_of_saveableKey hkey, saved_ofHolder, List.getLast?_eq_some_getLast hne]
    rfl

theorem save_map_unambiguous_iff_counter : Holder.ofDeclaration counter = .ok counterHolder ∧
    counterHolder.problem? .none = none ∧ counter.mode = .persistent ∧
    counter.paramKeys = ["n", "t"] ∧ IsUnambiguous Nat counterHolder := by
  have hd : Holder.ofDeclaration counter = .ok counterHolder := by rfl
  have hok : counterHolder.problem? .none = none := by decide
  have hmode : counter.mode = .persistent := by decide
  have hkeys : counter.paramKeys = ["n", "t"] := by rfl
  have hdistinct : counter.paramKeys.Nodup := by
    rw [hkeys]
    decide
  exact ⟨hd, hok, hmode, hkeys, (save_map_unambiguous_iff hd hok hmode).2.1.mpr hdistinct⟩

def twins : Declaration where
  qualifiedName := "app.Twins"
  givenPackage := none
  params := [⟨"left", .named "Int", [.persistedKey "k"]⟩, ⟨"right", .named "Int", [.persistedKey "k"]⟩]
  properties := [⟨"left", [.persistedKey "k"]⟩, ⟨"right", [.persistedKey "k"]⟩]
  markers := [.rememberSaveable]

def twinsHolder : Holder where
  qualifiedName := "app.Twins"
  package := "app"
  params := [⟨"left", .named "Int", .required, false, some "k"⟩,
    ⟨"right", .named "Int", .required, false, some "k"⟩]
  savedProperties := [⟨"left", "k"⟩, ⟨"right", "k"⟩]
  injector := none
  mode := .persistent
  injectionMode := none

def twinsProperty (name : String) : Nat := if name = "left" then 1 else 2

/-- Keys that balance are accepted even if they are repeated: what `left` had is overwritten when the map is
saved, and both parameters get back what `right` had. -/
theorem twins_overwrite :
    Holder.ofDeclaration twins = .ok twinsHolder ∧ twinsHolder.problem? .none = none ∧
    twins.mode = .persistent ∧
    ¬(ofHolder twinsHolder).writtenKeys.Nodup ∧ ¬(ofHolder twinsHolder).readKeys.Nodup ∧
    (ofHolder twinsHolder).saved twinsProperty "k" ≠ some (twinsProperty "left") ∧
    (ofHolder twinsHolder).restored? ((ofHolder twinsHolder).saved twinsProperty) [] =
      some [("left", twinsProperty "right"), ("right", twinsProperty "right")] := by
  refine ⟨by rfl, by decide, by decide, by decide, by decide, by decide, by decide⟩

end Saver.Plan
end StateHolders
