import StateHolders.Saver.Plan
import StateHolders.Proofs.Holder.SaveableKeys
import StateHolders.Proofs.Lookup

/-! What a saver's plan does when it is carried out: the entries are stored in a map one after the
other, and each constructor argument is read from the map or passed on from the saver's own
parameters. A holder that passes its checks gets every argument back. -/

namespace StateHolders.Saver

universe u

variable {α : Type u}

def RestoreSource.key? : RestoreSource → Option String
  | .map key => some key
  | .forward => none

namespace Plan

def readKeys (p : Plan) : List String := p.restore.filterMap (·.source.key?)

def writtenKeys (p : Plan) : List String := p.save.map SaveEntry.key

def put (property : String → α) (map : String → Option α) (e : SaveEntry) : String → Option α :=
  fun key => if key = e.key then some (property e.property) else map key

def saved (p : Plan) (property : String → α) : String → Option α :=
  p.save.foldl (put property) fun _ => none

/-- Of the named constructor arguments, those that the caller hands to the saver. -/
def supplied (p : Plan) (args : List (String × α)) : List (String × α) :=
  args.filter fun arg => arg.1 ∈ p.carried

def restoredValue? (map : String → Option α) (own : List (String × α)) (a : RestoreArg) :
    Option α :=
  match a.source with
  | .map key => map key
  | .forward => own.lookup a.param

def restored? (p : Plan) (map : String → Option α) (own : List (String × α)) :
    Option (List (String × α)) :=
  p.restore.mapM fun a => (restoredValue? map own a).map (a.param, ·)

theorem readKeys_ofHolder (h : Holder) : (ofHolder h).readKeys = h.paramKeys := by
  rw [readKeys, ofHolder, List.filterMap_map, Holder.paramKeys]
  congr 1
  funext p
  cases hkey : p.saveableKey <;> simp [RestoreArg.ofParam, RestoreSource.key?, hkey]

theorem writtenKeys_ofHolder (h : Holder) : (ofHolder h).writtenKeys = h.propertyKeys := by
  simp [writtenKeys, ofHolder, Holder.propertyKeys, Function.comp_def]

theorem mem_carried {h : Holder} {p : Param} (hp : p ∈ h.params) (hkey : p.saveableKey = none) :
    p.name ∈ (ofHolder h).carried := by
  refine List.mem_map.mpr ⟨RestoreArg.ofParam p, List.mem_filter.mpr ⟨?_, ?_⟩, rfl⟩
  · exact List.mem_map.mpr ⟨p, hp, rfl⟩
  · simp [RestoreArg.ofParam, hkey]

/-! The map after saving holds, under each written key, the value of the last entry that has the key. -/

theorem foldl_put_eq {property : String → α} {entries : List SaveEntry} {map : String → Option α}
    {key : String} : entries.foldl (put property) map key =
      (((entries.filter (·.key = key)).getLast?).map (property ·.property)).or (map key) := by
  induction entries generalizing map with
  | nil => rfl
  | cons e entries ih =>
    rw [List.foldl_cons, ih, put]
    by_cases hkey : key = e.key
    · rw [List.filter_cons_of_pos (by simp [hkey]), List.getLast?_cons, if_pos hkey]
      cases (entries.filter (·.key = key)).getLast? <;> rfl
    · rw [List.filter_cons_of_neg (by simpa using Ne.symm hkey), if_neg hkey]

theorem saved_eq (p : Plan) (property : String → α) (key : String) :
    p.saved property key = ((p.save.filter (·.key = key)).getLast?).map (property ·.property) := by
  rw [saved, foldl_put_eq, Option.or_none]

theorem isSome_saved_iff {p : Plan} {property : String → α} {key : String} :
    (p.saved property key).isSome = true ↔ key ∈ p.writtenKeys := by
  rw [saved_eq, Option.isSome_map, List.getLast?_isSome, ne_eq, List.filter_eq_nil_iff, writtenKeys,
    List.mem_map]
  simp

theorem saved_of_mem {p : Plan} (hkeys : p.writtenKeys.Nodup) (property : String → α) {e : SaveEntry}
    (he : e ∈ p.save) : p.saved property e.key = some (property e.property) := by
  have hmem : e ∈ p.save.filter (·.key = e.key) := List.mem_filter.mpr ⟨he, decide_eq_true rfl⟩
  have hlast := List.getLast_mem (List.ne_nil_of_mem hmem)
  obtain ⟨hsave, hkey⟩ := List.mem_filter.mp hlast
  have hsame := List.inj_on_of_nodup_map hkeys hsave he (of_decide_eq_true hkey)
  rw [saved_eq, List.getLast?_eq_some_getLast (List.ne_nil_of_mem hmem), hsame]
  rfl

/-! Arguments under different names are found by their names. -/

theorem mapM_eq_some {params : List Param} {args : List (String × α)}
    {f : Param → Option (String × α)} (hnames : args.map Prod.fst = params.map Param.name)
    (h : ∀ p ∈ params, ∀ v, (p.name, v) ∈ args → f p = some (p.name, v)) :
    params.mapM f = some args := by
  induction params generalizing args with
  | nil =>
    obtain rfl : args = [] := List.map_eq_nil_iff.mp hnames
    rfl
  | cons p params ih =>
    obtain ⟨arg, args, rfl⟩ : ∃ arg as, args = arg :: as :=
      List.exists_cons_of_ne_nil (by rintro rfl; cases hnames)
    obtain ⟨hname, hnames⟩ := List.cons.inj hnames
    have hhead : f p = some arg := by
      rw [h p List.mem_cons_self arg.2 (by simp [← hname])]
      simp [← hname]
    have htail := ih hnames fun p hp v hv =>
      h p (List.mem_cons_of_mem _ hp) v (List.mem_cons_of_mem _ hv)
    simp [hhead, htail]

/-- In the instance, a saved property has the value of the parameter that carries its key. -/
def Holds (h : Holder) (args : List (String × α)) (property : String → α) : Prop :=
  ∀ s ∈ h.savedProperties, ∀ p ∈ h.params, p.saveableKey = some s.key →
    args.lookup p.name = some (property s.name)

theorem saved_of_mem_savedProperties {h : Holder} (hkeys : h.propertyKeys.Nodup)
    (property : String → α) {s : SavedProperty} (hs : s ∈ h.savedProperties) :
    (ofHolder h).saved property s.key = some (property s.name) := by
  have he : ⟨s.key, s.name⟩ ∈ (ofHolder h).save := List.mem_map.mpr ⟨s, hs, rfl⟩
  have hwritten : (ofHolder h).writtenKeys.Nodup := by rwa [writtenKeys_ofHolder]
  exact saved_of_mem hwritten property he

theorem restoredValue?_of_saveableKey {map : String → Option α} {own : List (String × α)} {p : Param}
    {key : String} (hkey : p.saveableKey = some key) :
    restoredValue? map own (RestoreArg.ofParam p) = map key := by
  simp [restoredValue?, RestoreArg.ofParam, hkey]

theorem restoredValue?_ofParam {h : Holder} {args : List (String × α)} {property : String → α}
    (hperm : h.paramKeys.Perm h.propertyKeys) (hkeys : h.paramKeys.Nodup)
    (hnames : (args.map Prod.fst).Nodup) (hholds : Holds h args property)
    {p : Param} (hp : p ∈ h.params) {v : α} (hv : (p.name, v) ∈ args) :
    restoredValue? ((ofHolder h).saved property) ((ofHolder h).supplied args)
      (RestoreArg.ofParam p) = some v := by
  cases hkey : p.saveableKey with
  | none =>
    have hown : (p.name, v) ∈ (ofHolder h).supplied args :=
      List.mem_filter.mpr ⟨hv, by simpa using mem_carried hp hkey⟩
    have hsub : (((ofHolder h).supplied args).map Prod.fst).Sublist (args.map Prod.fst) :=
      List.filter_sublist.map Prod.fst
    simpa [restoredValue?, RestoreArg.ofParam, hkey] using lookup_of_mem (hnames.sublist hsub) hown
  | some key =>
    have hmem : key ∈ h.paramKeys := List.mem_filterMap.mpr ⟨p, hp, hkey⟩
    obtain ⟨s, hs, rfl⟩ := List.mem_map.mp (hperm.mem_iff.mp hmem)
    -- the property `s` writes this key, and no other does
    have hlookup := hholds s hs p hp hkey
    rw [lookup_of_mem hnames hv] at hlookup
    obtain rfl := Option.some.inj hlookup
    rw [restoredValue?_of_saveableKey hkey,
      saved_of_mem_savedProperties (hperm.nodup_iff.mp hkeys) property hs]

theorem restored?_ofHolder {h : Holder} {args : List (String × α)} {property : String → α}
    (hperm : h.paramKeys.Perm h.propertyKeys) (hkeys : h.paramKeys.Nodup)
    (hparams : (h.params.map Param.name).Nodup)
    (hargs : args.map Prod.fst = h.params.map Param.name) (hholds : Holds h args property) :
    (ofHolder h).restored? ((ofHolder h).saved property) ((ofHolder h).supplied args) =
      some args := by
  have hrestore : (ofHolder h).restore = h.params.map RestoreArg.ofParam := rfl
  rw [restored?, hrestore, List.mapM_map]
  refine mapM_eq_some hargs fun p hp v hv => ?_
  have hvalue := restoredValue?_ofParam hperm hkeys (hargs ▸ hparams) hholds hp hv
  rw [Function.comp_apply, hvalue]
  rfl

/-- A declaration that is accepted in persistent mode reads back exactly the keys that it writes.
If its parameters differ in their names and in their keys, saving an instance and restoring it gives
back the constructor's arguments, all of them and in order. -/
theorem saver_round_trip {d : Declaration} {h : Holder} {run : InjectionMode}
    (hd : Holder.ofDeclaration d = .ok h) (hok : h.problem? run = none)
    (hmode : d.mode = .persistent) :
    (∀ key, key ∈ (ofHolder h).readKeys ↔ key ∈ (ofHolder h).writtenKeys) ∧
    (∀ (property : String → α) (key : String),
      ((ofHolder h).saved property key).isSome = true ↔ key ∈ (ofHolder h).readKeys) ∧
    ((h.params.map Param.name).Nodup → h.paramKeys.Nodup →
      ∀ (args : List (String × α)) (property : String → α),
        args.map Prod.fst = h.params.map Param.name → Holds h args property →
        (ofHolder h).restored? ((ofHolder h).saved property) ((ofHolder h).supplied args) =
          some args) := by
  have hperm : h.paramKeys.Perm h.propertyKeys :=
    Holder.paramKeys_perm_propertyKeys ((Holder.mode_ofDeclaration hd).trans hmode) hok
  have hkeys : ∀ key, key ∈ (ofHolder h).readKeys ↔ key ∈ (ofHolder h).writtenKeys := by
    intro key
    rw [readKeys_ofHolder, writtenKeys_ofHolder]
    exact hperm.mem_iff
  refine ⟨hkeys, fun property key => ?_, fun hparams hdistinct args property hargs hholds => ?_⟩
  · rw [isSome_saved_iff, hkeys]
  · exact restored?_ofHolder hperm hdistinct hparams hargs hholds

def counter : Declaration where
  qualifiedName := "app.Counter"
  givenPackage := none
  params := [⟨"start", .named "Int", [.persistedKey "n"]⟩,
    ⟨"scope", .named "kotlinx.coroutines.CoroutineScope", []⟩,
    ⟨"label", .named "String", [.invalidationKey, .persistedKey "t"]⟩]
  properties := [⟨"text", [.persistedKey "t"]⟩, ⟨"count", [.persistedKey "n"]⟩]
  markers := [.rememberSaveable]

def counterHolder : Holder where
  qualifiedName := "app.Counter"
  package := "app"
  params := [⟨"start", .named "Int", .required, false, some "n"⟩,
    ⟨"scope", .named "kotlinx.coroutines.CoroutineScope", .ambientScope, false, none⟩,
    ⟨"label", .named "String", .required, true, some "t"⟩]
  savedProperties := [⟨"text", "t"⟩, ⟨"count", "n"⟩]
  injector := none
  mode := .persistent
  injectionMode := none

def counterArgs : List (String × Nat) := [("start", 3), ("scope", 5), ("label", 7)]

def counterProperty (name : String) : Nat := if name = "text" then 7 else 3

theorem saver_round_trip_counter :
    Holder.ofDeclaration counter = .ok counterHolder ∧ counterHolder.problem? .none = none ∧
    counter.mode = .persistent ∧ Holds counterHolder counterArgs counterProperty ∧
    (ofHolder counterHolder).restored? ((ofHolder counterHolder).saved counterProperty)
      ((ofHolder counterHolder).supplied counterArgs) = some counterArgs := by
  have hd : Holder.ofDeclaration counter = .ok counterHolder := by rfl
  have hok : counterHolder.problem? .none = none := by decide
  have hmode : counter.mode = .persistent := by decide
  have hparams : (counterHolder.params.map Param.name).Nodup := by decide
  have hkeys : counterHolder.paramKeys.Nodup := by decide
  have hargs : counterArgs.map Prod.fst = counterHolder.params.map Param.name := by decide
  have hholds : Holds counterHolder counterArgs counterProperty := by
    unfold Holds
    decide
  exact ⟨hd, hok, hmode, hholds, (saver_round_trip hd hok hmode).2.2 hparams hkeys counterArgs
    counterProperty hargs hholds⟩

end Plan
end StateHolders.Saver
