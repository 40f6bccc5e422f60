import Mathlib.Data.List.Basic
import StateHolders.Proofs.Config.Changes

/-! Options that are refused. Whether an option is refused, and why, is between its key and its value alone,
and a refused option changes nothing, so after any options the configuration is what the accepted ones made it. -/

namespace StateHolders.Config

variable {c c' : Config} {option : String × String} {options : List (String × String)} {e : ConfigError}

/-- Applies options in turn, those after a refused one too: what each is refused for, and the configuration
that is there in the end. -/
def updateEach (c : Config) : List (String × String) → List (Option ConfigError) × Config
  | [] => ([], c)
  | option :: options =>
    match (update option.1 option.2).run c with
    | .ok _ c' => (none :: (updateEach c' options).1, (updateEach c' options).2)
    | .error e c' => (some e :: (updateEach c' options).1, (updateEach c' options).2)

def asked? (option : String × String) : Option Change := change? option.1 option.2

def refusal? (option : String × String) : Option ConfigError :=
  match asked? option with
  | some _ => none
  | none => some (refusal option.1 option.2)

theorem refusal?_eq_none_iff : refusal? option = none ↔ (asked? option).isSome = true := by
  unfold refusal?
  cases asked? option <;> simp

theorem eq_of_run_update_eq_error {key value : String} (h : (update key value).run c = .error e c') :
    c' = c := by
  rw [run_update] at h
  cases hch : change? key value with
  | none =>
    rw [hch] at h
    cases h
    rfl
  | some ch =>
    rw [hch] at h
    cases h

/-- What an option is answered depends on no option before it, and the refused ones leave no trace. -/
theorem updateEach_eq (c : Config) (options : List (String × String)) :
    updateEach c options = (options.map refusal?, (options.filterMap asked?).foldl change c) := by
  induction options generalizing c with
  | nil => rfl
  | cons option options ih =>
    rw [updateEach, run_update, List.map_cons, refusal?, asked?]
    cases hch : change? option.1 option.2 with
    | none => simp only [ih, List.filterMap_cons_none (show asked? option = none from hch)]
    | some ch =>
      simp only [ih, List.filterMap_cons_some (show asked? option = some ch from hch), List.foldl_cons]

theorem filterMap_asked?_filter (options : List (String × String)) :
    (options.filter (refusal? · = none)).filterMap asked? = options.filterMap asked? := by
  rw [List.filterMap_filter]
  refine List.filterMap_congr fun option _ => ?_
  simp only [refusal?_eq_none_iff, decide_eq_true_eq]
  cases asked? option <;> rfl

/-! Options that are accepted together or not at all. -/

theorem apply_eq_error_iff : c.apply option.1 option.2 = .error e ↔ refusal? option = some e := by
  rw [apply, run_update, refusal?, asked?]
  cases change? option.1 option.2 with
  | none => simp
  | some ch => simp

theorem applyAll_eq_ok_iff : c.applyAll options = .ok c' ↔
    (∀ option ∈ options, refusal? option = none) ∧ c' = (updateEach c options).2 := by
  simp only [refusal?_eq_none_iff, updateEach_eq]
  exact foldlM_eq_ok_iff _ asked? fun _ _ _ => apply_eq_ok_iff

theorem applyAll_cons : c.applyAll (option :: options) =
    c.apply option.1 option.2 >>= (·.applyAll options) := List.foldlM_cons

theorem applyAll_eq_error_iff :
    c.applyAll options = .error e ↔ options.findSome? refusal? = some e := by
  induction options generalizing c with
  | nil => exact iff_of_false nofun nofun
  | cons option options ih =>
    rw [applyAll_cons, List.findSome?_cons]
    cases hfirst : c.apply option.1 option.2 with
    | error e' =>
      rw [apply_eq_error_iff.mp hfirst]
      simp [bind, Except.bind]
    | ok mid =>
      have haccepted : refusal? option = none := by
        rw [Option.eq_none_iff_forall_ne_some]
        intro e' he'
        rw [apply_eq_error_iff.mpr he'] at hfirst
        cases hfirst
      rw [haccepted]
      exact ih

/-! What is left in the end. -/

def valuesFor {α : Type} (new? : Change → Option α) (options : List (String × String)) : List α :=
  (options.filterMap asked?).filterMap new?

/-- Each setting has the value that the last accepted option for it gives, or else the one that it had. -/
structure SetByLast (c : Config) (options : List (String × String)) (c' : Config) : Prop where
  injectionMode :
    c'.injectionMode = (valuesFor Change.injectionMode? options).getLast?.getD c.injectionMode
  parallel : c'.parallel = (valuesFor Change.parallel? options).getLast?.getD c.parallel
  timestamp : c'.timestamp = (valuesFor Change.timestamp? options).getLast?.getD c.timestamp

theorem setByLast_updateEach (c : Config) (options : List (String × String)) :
    SetByLast c options (updateEach c options).2 := by
  rw [updateEach_eq, foldl_change_eq]
  exact ⟨rfl, rfl, rfl⟩

/-- A refused option leaves the whole configuration as it was, and no option has a part in whether a later one
is refused. Going on after refusals comes to the accepted options alone, of which the last for each setting
counts. Options that are accepted together or not at all fail by the first of them that is refused. -/
theorem refused_options_change_nothing (c : Config) (options : List (String × String)) :
    (∀ key value d e d', (update key value).run d = .error e d' → d' = d) ∧
    (updateEach c options).1 = options.map refusal? ∧
    c.applyAll (options.filter (refusal? · = none)) = .ok (updateEach c options).2 ∧
    SetByLast c options (updateEach c options).2 ∧
    (∀ d, ofOptions options = .ok d ↔
      (∀ option ∈ options, refusal? option = none) ∧ d = (updateEach default options).2) ∧
    ∀ e, ofOptions options = .error e ↔ options.findSome? refusal? = some e := by
  have hanswers : (updateEach c options).1 = options.map refusal? :=
    congrArg Prod.fst (updateEach_eq c options)
  have haccepted :
      c.applyAll (options.filter (refusal? · = none)) = .ok (updateEach c options).2 := by
    rw [applyAll_eq_ok_iff, updateEach_eq, updateEach_eq, filterMap_asked?_filter]
    exact ⟨fun option hoption => by simpa using (List.mem_filter.mp hoption).2, rfl⟩
  exact ⟨fun _ _ _ _ _ => eq_of_run_update_eq_error, hanswers, haccepted,
    setByLast_updateEach c options, fun _ => applyAll_eq_ok_iff, fun _ => applyAll_eq_error_iff⟩

def mixedOptions : List (String × String) :=
  [("rmbr.parallel", "false"), ("genrmbr.injectionType", "koin"), ("rmbr.parallel", "no"),
    ("rmbr.injectionType", "guice"), ("rmbr.colour", "red"), ("rmbr.timestamp", "true")]

theorem refused_options_change_nothing_mixed :
    (∃ d', (update "rmbr.parallel" "no").run ⟨.framework, false, false⟩ =
        .error (.invalidValue "rmbr.parallel" "no" .boolean) d' ∧ d' = ⟨.framework, false, false⟩) ∧
    updateEach default mixedOptions =
      ([none, none, some (.invalidValue "rmbr.parallel" "no" .boolean),
        some (.invalidValue "rmbr.injectionType" "guice" .injectionMode),
        some (.unknownOption "rmbr.colour"), none], ⟨.framework, false, true⟩) ∧
    ofOptions mixedOptions = .error (.invalidValue "rmbr.parallel" "no" .boolean) := by
  obtain ⟨hkept, -, -, -, -, hfails⟩ := refused_options_change_nothing default mixedOptions
  obtain ⟨d', hrefused⟩ : ∃ d', (update "rmbr.parallel" "no").run ⟨.framework, false, false⟩ =
      .error (.invalidValue "rmbr.parallel" "no" .boolean) d' := ⟨_, rfl⟩
  exact ⟨⟨d', hrefused, hkept _ _ _ _ _ hrefused⟩, by decide +kernel,
    (hfails _).mpr (by decide +kernel)⟩

end StateHolders.Config
