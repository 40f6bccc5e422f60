import StateHolders.Proofs.Config.Changes
import StateHolders.Proofs.Except
import StateHolders.Proofs.Text.Cut

/-! Units of a command line: a word with the word that is its value, if it takes one. Each unit that is
accepted writes one argument, and it writes the same one wherever it stands. -/

namespace StateHolders.Argument

def takesValue (word : String) : Bool := word = "-o" || word = "--output" || word = "--option"

/-- A word that takes a value but comes last is left alone. -/
def units : List String → List (List String)
  | [] => []
  | word :: words =>
    if takesValue word then
      match words with
      | [] => [[word]]
      | value :: rest => [word, value] :: units rest
    else [word] :: units words

theorem units_lone {word : String} (h : takesValue word = false) (words : List String) :
    units (word :: words) = [word] :: units words := by
  cases words <;> simp [units, h]

theorem units_pair {word : String} (h : takesValue word = true) (value : String)
    (words : List String) : units (word :: value :: words) = [word, value] :: units words := by
  simp [units, h]

inductive Spells : List String → Argument → Prop
  | shortOutput (directory : String) : Spells ["-o", directory] (.output directory)
  | longOutput (directory : String) : Spells ["--output", directory] (.output directory)
  | joinedOutput (directory : String) : Spells ["--output=" ++ directory] (.output directory)
  | option (pair : String) : Spells ["--option", pair] (.option pair)
  | joinedOption (pair : String) : Spells ["--option=" ++ pair] (.option pair)
  | check : Spells ["--check"] .check
  | sequential : Spells ["--no-parallel"] (.flag .sequential)
  | timestamp : Spells ["--timestamp"] (.flag .timestamp)
  | injection (mode : String) : Spells ["--injection=" ++ mode] (.flag (.injection mode))
  | color {text : String} {mode : ColorMode} (h : ColorMode.ofName? text = some mode) :
      Spells ["--color=" ++ text] (.color mode)
  | input {path : String} (h : path.toList.head? ≠ some '-') : Spells [path] (.input path)

/-! One word. -/

theorem valueAfter?_eq_some_iff {name word value : String} :
    valueAfter? name word = some value ↔ word = name ++ value := by
  unfold valueAfter?
  rw [Option.map_eq_some_iff]
  constructor
  · rintro ⟨rest, hrest, rfl⟩
    exact String.toList_inj.mp (by simpa using Text.eq_append_of_afterPrefix? hrest)
  · rintro rfl
    exact ⟨value.toList, by rw [String.toList_append, Text.afterPrefix?_append], by simp⟩

theorem valueAfter?_append (name value : String) : valueAfter? name (name ++ value) = some value :=
  valueAfter?_eq_some_iff.mpr rfl

def fixedWords : List String :=
  ["--check", "--no-parallel", "--timestamp", "-o", "--output", "--option"]

def joinedNames : List String := ["--option=", "--output=", "--color=", "--injection="]

theorem head?_of_mem_fixedWords {word : String} (h : word ∈ fixedWords) :
    word.toList.head? = some '-' := by
  have hall : ∀ word ∈ fixedWords, word.toList.head? = some '-' := by decide
  exact hall word h

theorem append_ne_of_mem_fixedWords {name word : String} (hname : name ∈ joinedNames)
    (hword : word ∈ fixedWords) (value : String) : name ++ value ≠ word := by
  have hdisjoint : ∀ name ∈ joinedNames, ∀ word ∈ fixedWords, ¬name.toList <+: word.toList := by
    decide
  rintro rfl
  refine hdisjoint name hname _ hword ?_
  rw [String.toList_append]
  exact List.prefix_append _ _

theorem valueAfter?_append_eq_none {name name' : String} (hname : name ∈ joinedNames)
    (hname' : name' ∈ joinedNames) (hne : name ≠ name') (value : String) :
    valueAfter? name (name' ++ value) = none := by
  have hdisjoint : ∀ name ∈ joinedNames, ∀ name' ∈ joinedNames, name ≠ name' →
      ¬name.toList <+: name'.toList := by decide
  rw [Option.eq_none_iff_forall_ne_some]
  intro other hother
  have hprefix : name.toList <+: name'.toList ++ value.toList := by
    rw [← String.toList_append, valueAfter?_eq_some_iff.mp hother, String.toList_append]
    exact List.prefix_append _ _
  rcases List.prefix_or_prefix_of_prefix hprefix (List.prefix_append _ _) with h | h
  · exact hdisjoint name hname name' hname' hne h
  · exact hdisjoint name' hname' name hname hne.symm h

theorem spells_of_ofWord {hasInput : Bool} {word : String} {a : Argument}
    (h : ofWord hasInput word = .ok a) : Spells [word] a ∧ (a.isInput = true → hasInput = false) := by
  unfold ofWord at h
  split at h
  · next hword =>
    cases h
    exact ⟨hword ▸ .check, nofun⟩
  split at h
  · next hword =>
    cases h
    exact ⟨hword ▸ .sequential, nofun⟩
  split at h
  · next hword =>
    cases h
    exact ⟨hword ▸ .timestamp, nofun⟩
  split at h
  · next pair hpair =>
    cases h
    exact ⟨valueAfter?_eq_some_iff.mp hpair ▸ .joinedOption pair, nofun⟩
  split at h
  · next directory hdirectory =>
    cases h
    exact ⟨valueAfter?_eq_some_iff.mp hdirectory ▸ .joinedOutput directory, nofun⟩
  split at h
  · next text htext =>
    cases hmode : ColorMode.ofName? text with
    | none =>
      rw [hmode] at h
      cases h
    | some mode =>
      rw [hmode] at h
      cases h
      exact ⟨valueAfter?_eq_some_iff.mp htext ▸ .color hmode, nofun⟩
  split at h
  · next mode hmode =>
    cases h
    exact ⟨valueAfter?_eq_some_iff.mp hmode ▸ .injection mode, nofun⟩
  split at h
  · cases h
  · next hplain =>
    cases h
    rw [Bool.or_eq_true, decide_eq_true_eq, not_or, Bool.not_eq_true] at hplain
    exact ⟨.input hplain.1, fun _ => hplain.2⟩

theorem valueAfter?_of_plain {path : String} (h : path.toList.head? ≠ some '-') {name : String}
    (hname : name ∈ joinedNames) : valueAfter? name path = none := by
  have hhyphen : ∀ name ∈ joinedNames, name.toList.head? = some '-' := by decide
  rw [Option.eq_none_iff_forall_ne_some]
  intro value hvalue
  apply h
  rw [valueAfter?_eq_some_iff.mp hvalue, String.toList_append, List.head?_append,
    hhyphen name hname]
  rfl

theorem ofWord_of_plain {path : String} (h : path.toList.head? ≠ some '-') :
    ofWord false path = .ok (.input path) := by
  have hne : ∀ word ∈ fixedWords, path ≠ word := by
    rintro word hword rfl
    exact h (head?_of_mem_fixedWords hword)
  simp (disch := decide) [ofWord, hne, valueAfter?_of_plain h, h]

theorem ofWord_of_spells {hasInput : Bool} {word : String} {a : Argument} (h : Spells [word] a)
    (hinput : a.isInput = true → hasInput = false) : ofWord hasInput word = .ok a := by
  cases h with
  | joinedOutput directory =>
    simp (disch := decide) [ofWord, append_ne_of_mem_fixedWords, valueAfter?_append_eq_none,
      valueAfter?_append]
  | joinedOption pair =>
    simp (disch := decide) [ofWord, append_ne_of_mem_fixedWords, valueAfter?_append]
  | check => rfl
  | sequential => rfl
  | timestamp => rfl
  | injection mode =>
    simp (disch := decide) [ofWord, append_ne_of_mem_fixedWords, valueAfter?_append_eq_none,
      valueAfter?_append]
  | color h =>
    simp (disch := decide) [ofWord, append_ne_of_mem_fixedWords, valueAfter?_append_eq_none,
      valueAfter?_append, h, valueOr, Except.map]
  | input h =>
    rw [hinput rfl]
    exact ofWord_of_plain h

/-! All words. Reading them in turn is reading their units, and no more than one of these is an input. -/

theorem not_spells_of_takesValue {word : String} (h : takesValue word = true) (a : Argument) :
    ¬Spells [word] a := by
  have hmem : word ∈ fixedWords := by
    rcases (by simpa [takesValue, or_assoc] using h :
      word = "-o" ∨ word = "--output" ∨ word = "--option") with rfl | rfl | rfl <;> decide
  intro hspells
  cases hspells with
  | joinedOutput directory => exact append_ne_of_mem_fixedWords (by decide) hmem directory rfl
  | joinedOption pair => exact append_ne_of_mem_fixedWords (by decide) hmem pair rfl
  | check => exact absurd h (by decide)
  | sequential => exact absurd h (by decide)
  | timestamp => exact absurd h (by decide)
  | injection mode => exact append_ne_of_mem_fixedWords (by decide) hmem mode rfl
  | color _ => exact append_ne_of_mem_fixedWords (by decide) hmem _ rfl
  | input hplain => exact hplain (head?_of_mem_fixedWords hmem)

theorem not_forall₂_spells_of_takesValue {word : String} (h : takesValue word = true)
    {us : List (List String)} {args : List Argument} : ¬List.Forall₂ Spells ([word] :: us) args := by
  intro hall
  obtain ⟨a, -, ha, -, -⟩ := List.forall₂_cons_left_iff.mp hall
  exact not_spells_of_takesValue h a ha

theorem spells_pair_iff {word value : String} {a : Argument} : Spells [word, value] a ↔
    (word = "-o" ∨ word = "--output") ∧ a = .output value ∨ word = "--option" ∧ a = .option value := by
  constructor
  · intro h
    cases h with
    | shortOutput => exact .inl ⟨.inl rfl, rfl⟩
    | longOutput => exact .inl ⟨.inr rfl, rfl⟩
    | option => exact .inr ⟨rfl, rfl⟩
  · rintro (⟨rfl | rfl, rfl⟩ | ⟨rfl, rfl⟩)
    · exact .shortOutput value
    · exact .longOutput value
    · exact .option value

theorem Spells.unique {u : List String} {a b : Argument} (ha : Spells u a) (hb : Spells u b) :
    a = b := by
  match u, ha, hb with
  | [word], ha, hb =>
    have hok : ofWord false word = .ok a := ofWord_of_spells ha fun _ => rfl
    rw [ofWord_of_spells hb fun _ => rfl] at hok
    exact (Except.ok.inj hok).symm
  | [word, value], ha, hb =>
    rcases spells_pair_iff.mp ha with ⟨rfl | rfl, rfl⟩ | ⟨rfl, rfl⟩ <;>
      simpa [eq_comm] using spells_pair_iff.mp hb

theorem Spells.rightUnique : Relator.RightUnique Spells := fun _ _ _ => Spells.unique

theorem forall₂_spells_cons_iff {u : List String} {us : List (List String)} {a : Argument}
    {args : List Argument} (ha : Spells u a) : List.Forall₂ Spells (u :: us) args ↔
      ∃ rest, List.Forall₂ Spells us rest ∧ args = a :: rest := by
  constructor
  · intro h
    obtain ⟨b, rest, hb, hrest, rfl⟩ := List.forall₂_cons_left_iff.mp h
    exact ⟨rest, hrest, by rw [ha.unique hb]⟩
  · rintro ⟨rest, hrest, rfl⟩
    exact .cons ha hrest

/-- One unit more. Whether there has been an input counts with the arguments that follow. -/
theorem map_cons_eq_ok_iff_spells {u : List String} {us : List (List String)} {a : Argument}
    {x : Except ConfigError (List Argument)} {hasInput hasInput' : Bool}
    (hrest : ∀ {rest}, x = .ok rest ↔
      List.Forall₂ Spells us rest ∧ rest.countP isInput + hasInput'.toNat ≤ 1)
    (ha : Spells u a) (hcount : (if a.isInput then 1 else 0) + hasInput.toNat = hasInput'.toNat)
    {args : List Argument} : x.map (a :: ·) = .ok args ↔
      List.Forall₂ Spells (u :: us) args ∧ args.countP isInput + hasInput.toNat ≤ 1 := by
  rw [map_eq_ok_iff, forall₂_spells_cons_iff ha]
  constructor
  · rintro ⟨rest, hok, rfl⟩
    obtain ⟨hall, hle⟩ := hrest.mp hok
    exact ⟨⟨rest, hall, rfl⟩, by rw [List.countP_cons]; omega⟩
  · rintro ⟨⟨rest, hall, rfl⟩, hle⟩
    rw [List.countP_cons] at hle
    exact ⟨rest, hrest.mpr ⟨hall, by omega⟩, rfl⟩

theorem ofWords_eq_ok_iff {hasInput : Bool} {words : List String} {args : List Argument} :
    ofWords hasInput words = .ok args ↔ List.Forall₂ Spells (units words) args ∧
      args.countP isInput + hasInput.toNat ≤ 1 := by
  -- a word that takes a value is without one in cases 2 and 4 and has it in cases 3 and 5; any other
  -- word is refused in case 6 and read in case 7
  fun_induction ofWords hasInput words generalizing args with
  | case1 hasInput =>
    rw [units, List.forall₂_nil_left_iff]
    constructor
    · intro h
      cases h
      exact ⟨rfl, by simpa using Bool.toNat_le hasInput⟩
    · rintro ⟨rfl, -⟩
      rfl
  | case2 hasInput word hword =>
    have htakes : takesValue word = true := by simp_all [takesValue]
    rw [units, if_pos htakes]
    exact iff_of_false nofun fun ⟨h, _⟩ => not_forall₂_spells_of_takesValue htakes h
  | case3 hasInput word hword directory rest ih =>
    have htakes : takesValue word = true := by simp_all [takesValue]
    rw [units_pair htakes]
    exact map_cons_eq_ok_iff_spells ih (spells_pair_iff.mpr (.inl ⟨by simpa using hword, rfl⟩))
      (Nat.zero_add _)
  | case4 hasInput _ =>
    have htakes : takesValue "--option" = true := rfl
    rw [units, if_pos htakes]
    exact iff_of_false nofun fun ⟨h, _⟩ => not_forall₂_spells_of_takesValue htakes h
  | case5 hasInput pair rest _ ih =>
    have htakes : takesValue "--option" = true := rfl
    rw [units_pair htakes]
    exact map_cons_eq_ok_iff_spells ih (.option pair) (Nat.zero_add _)
  | case6 hasInput word rest houtput hoption e hword =>
    have htakes : takesValue word = false := by simp_all [takesValue]
    rw [units_lone htakes]
    refine iff_of_false nofun fun ⟨h, hle⟩ => ?_
    obtain ⟨a, args, ha, -, rfl⟩ := List.forall₂_cons_left_iff.mp h
    have hinput : a.isInput = true → hasInput = false := by
      intro ha
      rw [List.countP_cons_of_pos ha] at hle
      simpa using (by omega : hasInput.toNat = 0)
    rw [ofWord_of_spells ha hinput] at hword
    cases hword
  | case7 hasInput word rest houtput hoption a hword ih =>
    have htakes : takesValue word = false := by simp_all [takesValue]
    obtain ⟨ha, hinput⟩ := spells_of_ofWord hword
    have hcount : (if a.isInput then 1 else 0) + hasInput.toNat = (hasInput || a.isInput).toNat := by
      cases hasInput <;> cases h : a.isInput <;> simp_all
    rw [units_lone htakes]
    exact map_cons_eq_ok_iff_spells ih ha hcount

end StateHolders.Argument
