import StateHolders.CommandLine.Arguments
import StateHolders.Proofs.Except

/-! Changes of a configuration. An option or flag that is accepted asks for one change of one setting, and
after any number of changes every setting is what the last change of it made it. -/

namespace StateHolders

namespace Config

inductive Change where
  | injectionMode (mode : InjectionMode)
  | parallel (on : Bool)
  | timestamp (on : Bool)
deriving DecidableEq, Repr

namespace Change

def injectionMode? : Change → Option InjectionMode
  | .injectionMode mode => some mode
  | _ => none

def parallel? : Change → Option Bool
  | .parallel on => some on
  | _ => none

def timestamp? : Change → Option Bool
  | .timestamp on => some on
  | _ => none

end Change

def change (c : Config) : Change → Config
  | .injectionMode mode => { c with injectionMode := mode }
  | .parallel on => { c with parallel := on }
  | .timestamp on => { c with timestamp := on }

/-! What is asked for. -/

/-- The change that a key and a value ask for. The older key of the injection mode counts as the newer. -/
def change? (key value : String) : Option Change :=
  if key = "rmbr.injectionType" ∨ key = "genrmbr.injectionType" then
    (InjectionMode.ofName? value).map .injectionMode
  else if key = "rmbr.parallel" then (boolean? value).map .parallel
  else if key = "rmbr.timestamp" then (boolean? value).map .timestamp
  else none

def refusal (key value : String) : ConfigError :=
  if key = "rmbr.injectionType" ∨ key = "genrmbr.injectionType" then
    .invalidValue key value .injectionMode
  else if key = "rmbr.parallel" ∨ key = "rmbr.timestamp" then .invalidValue key value .boolean
  else .unknownOption key

theorem run_assign {α : Type} {set : α → Config → Config} (ask : α → Change)
    (hset : ∀ value c, set value c = c.change (ask value)) (key text : String) (kind : ValueKind)
    (read? : String → Option α) (c : Config) : (assign key text kind read? set).run c =
      match (read? text).map ask with
      | some ch => .ok () (c.change ch)
      | none => .error (.invalidValue key text kind) c := by
  unfold assign
  cases read? text with
  | none => rfl
  | some value => exact congrArg (EStateM.Result.ok ()) (hset value c)

/-- An option does the change that it asks for. One that asks for none is refused and does nothing. -/
theorem run_update (key value : String) (c : Config) : (update key value).run c =
    match change? key value with
    | some ch => .ok () (c.change ch)
    | none => .error (refusal key value) c := by
  unfold update
  fun_cases setting? key with
  | case1 => exact run_assign .injectionMode (fun _ _ => rfl) _ value _ _ c
  | case2 => exact run_assign .injectionMode (fun _ _ => rfl) _ value _ _ c
  | case3 => exact run_assign .parallel (fun _ _ => rfl) _ value _ _ c
  | case4 => exact run_assign .timestamp (fun _ _ => rfl) _ value _ _ c
  | case5 hnew hold hparallel htimestamp =>
    have hnone : change? key value = none := by simp_all [change?]
    have hrefusal : refusal key value = .unknownOption key := by simp_all [refusal]
    rw [hnone, hrefusal]
    rfl

theorem apply_eq_ok_iff {c c' : Config} {key value : String} :
    c.apply key value = .ok c' ↔ ∃ ch, change? key value = some ch ∧ c' = c.change ch := by
  rw [apply, run_update]
  cases change? key value with
  | none => exact iff_of_false nofun fun ⟨_, h, _⟩ => nomatch h
  | some ch => simp [eq_comm]

def optionChange? (pair : String) : Option Change :=
  (parseOption pair).toOption.bind fun (key, value) => change? key value

theorem applyOption_eq_ok_iff {c c' : Config} {pair : String} :
    (parseOption pair >>= fun option => c.apply option.1 option.2) = .ok c' ↔
      ∃ ch, optionChange? pair = some ch ∧ c' = c.change ch := by
  unfold optionChange?
  cases parseOption pair with
  | error e => exact iff_of_false nofun fun ⟨_, h, _⟩ => nomatch h
  | ok option => exact apply_eq_ok_iff

end Config

def Flag.change? : Flag → Option Config.Change
  | .sequential => some (.parallel false)
  | .timestamp => some (.timestamp true)
  | .injection mode => (InjectionMode.ofName? mode).map .injectionMode

theorem Flag.apply_eq_ok_iff {c c' : Config} {f : Flag} :
    f.apply c = .ok c' ↔ ∃ ch, f.change? = some ch ∧ c' = c.change ch := by
  cases f with
  | sequential => simp [apply, change?, Config.change, eq_comm]
  | timestamp => simp [apply, change?, Config.change, eq_comm]
  | injection mode =>
    rw [apply, change?, map_eq_ok_iff]
    cases InjectionMode.ofName? mode <;> simp [valueOr, Config.change]

namespace Config

/-! What changes come to. -/

theorem field_foldl_change {α : Type} (field : Config → α) (new? : Change → Option α)
    (hfield : ∀ c ch, field (c.change ch) = (new? ch).getD (field c)) (c : Config)
    (changes : List Change) :
    field (changes.foldl change c) = (changes.filterMap new?).getLast?.getD (field c) := by
  induction changes generalizing c with
  | nil => rfl
  | cons ch changes ih =>
    rw [List.foldl_cons, ih, hfield]
    cases hnew : new? ch with
    | none => rw [List.filterMap_cons_none hnew, Option.getD_none]
    | some value =>
      rw [List.filterMap_cons_some hnew, List.getLast?_cons, Option.getD_some, Option.getD_some]

theorem foldl_change_eq (c : Config) (changes : List Change) : changes.foldl change c =
    { injectionMode := (changes.filterMap Change.injectionMode?).getLast?.getD c.injectionMode
      parallel := (changes.filterMap Change.parallel?).getLast?.getD c.parallel
      timestamp := (changes.filterMap Change.timestamp?).getLast?.getD c.timestamp } := by
  have hmode := field_foldl_change Config.injectionMode Change.injectionMode?
    (fun c ch => by cases ch <;> rfl) c changes
  have hparallel := field_foldl_change Config.parallel Change.parallel?
    (fun c ch => by cases ch <;> rfl) c changes
  have htimestamp := field_foldl_change Config.timestamp Change.timestamp?
    (fun c ch => by cases ch <;> rfl) c changes
  rw [← hmode, ← hparallel, ← htimestamp]

theorem foldlM_eq_ok_iff {α : Type} (request : Config → α → Except ConfigError Config)
    (ask : α → Option Change)
    (hrequest : ∀ c a c', request c a = .ok c' ↔ ∃ ch, ask a = some ch ∧ c' = c.change ch)
    {c c' : Config} {as : List α} : as.foldlM request c = .ok c' ↔
      (∀ a ∈ as, (ask a).isSome = true) ∧ c' = (as.filterMap ask).foldl change c := by
  induction as generalizing c with
  | nil =>
    constructor
    · intro h
      exact ⟨by simp, (Except.ok.inj h).symm⟩
    · rintro ⟨-, rfl⟩
      rfl
  | cons a as ih =>
    rw [List.foldlM_cons, List.forall_mem_cons]
    cases hstep : request c a with
    | error e =>
      -- a request that asks for a change is accepted
      have hnone : ask a = none := by
        rw [Option.eq_none_iff_forall_ne_some]
        intro ch hch
        rw [(hrequest c a _).mpr ⟨ch, hch, rfl⟩] at hstep
        cases hstep
      exact iff_of_false nofun fun h => by simp [hnone] at h
    | ok mid =>
      obtain ⟨ch, hch, rfl⟩ := (hrequest c a mid).mp hstep
      rw [List.filterMap_cons_some hch, List.foldl_cons, hch, Option.isSome_some,
        and_iff_right rfl]
      exact ih

end Config
end StateHolders
