import Mathlib.Data.List.Perm.Basic
import StateHolders.Proofs.CommandLine.Units

/-! What wins on a command line. Options are applied before flags, so only the order of the options among
themselves, and that of all other units among themselves, has a part in what is read. -/

namespace StateHolders

/-- A rearrangement that moves members that `p` holds of past others, and neither kind past its own. -/
structure SameOrders {α : Type} (p : α → Bool) (as as' : List α) : Prop where
  chosen : as'.filter p = as.filter p
  others : as'.filter (!p ·) = as.filter (!p ·)

namespace SameOrders

variable {α β γ : Type} {p : α → Bool} {as as' : List α}

theorem perm (h : SameOrders p as as') : as'.Perm as := by
  have hfilters := List.filter_append_perm p as'
  rw [h.chosen, h.others] at hfilters
  exact hfilters.symm.trans (List.filter_append_perm p as)

theorem filterMap_chosen {g : α → Option γ} (h : SameOrders p as as')
    (hg : ∀ a, p a = false → g a = none) : as'.filterMap g = as.filterMap g := by
  have hfilter : ∀ bs : List α, (bs.filter p).filterMap g = bs.filterMap g := by
    intro bs
    rw [List.filterMap_filter]
    refine List.filterMap_congr fun a _ => ?_
    split
    · rfl
    · next hp => rw [hg a (by simpa using hp)]
  rw [← hfilter as', h.chosen, hfilter]

theorem not (h : SameOrders p as as') : SameOrders (!p ·) as as' := ⟨h.others, by simpa using h.chosen⟩

theorem filterMap_others {g : α → Option γ} (h : SameOrders p as as')
    (hg : ∀ a, p a = true → g a = none) : as'.filterMap g = as.filterMap g :=
  h.not.filterMap_chosen fun a ha => hg a (by simpa using ha)

theorem forall₂ {R : α → β → Prop} {q : β → Bool} (h : SameOrders p as as')
    (hunique : Relator.RightUnique R) (hR : ∀ a b, R a b → p a = q b) {bs : List β}
    (hbs : List.Forall₂ R as bs) : ∃ bs', List.Forall₂ R as' bs' ∧ SameOrders q bs bs' := by
  obtain ⟨bs', hbs', -⟩ := List.perm_comp_forall₂ h.perm hbs
  have hchosen : ∀ {as bs}, List.Forall₂ R as bs → List.Forall₂ R (as.filter p) (bs.filter q) :=
    fun hall => List.rel_filter (fun a b hab => iff_of_eq (congrArg (· = true) (hR a b hab))) hall
  have hothers : ∀ {as bs}, List.Forall₂ R as bs →
      List.Forall₂ R (as.filter (!p ·)) (bs.filter (!q ·)) :=
    fun hall => List.rel_filter (fun a b hab => iff_of_eq (by simp only [hR a b hab])) hall
  exact ⟨bs', hbs', hunique.forall₂ (h.chosen ▸ hchosen hbs') (hchosen hbs),
    hunique.forall₂ (h.others ▸ hothers hbs') (hothers hbs)⟩

end SameOrders

theorem Arguments.configOf_eq_ok_iff {args : List Argument} {c : Config} :
    configOf args = .ok c ↔ ∃ options,
      (args.filterMap Argument.option?).foldlM
        (fun c pair => Config.parseOption pair >>= fun option => c.apply option.1 option.2)
        Config.default = .ok options ∧
      (args.filterMap Argument.flag?).foldlM Flag.apply options = .ok c := by
  change (((args.filterMap Argument.option?).foldlM
    (fun c pair => Config.parseOption pair >>= fun option => c.apply option.1 option.2)
    Config.default) >>= (args.filterMap Argument.flag?).foldlM Flag.apply) = .ok c ↔ _
  cases (args.filterMap Argument.option?).foldlM
      (fun c pair => Config.parseOption pair >>= fun option => c.apply option.1 option.2)
      Config.default with
  | error e => exact iff_of_false nofun fun ⟨_, h, _⟩ => nomatch h
  | ok options => simp [bind, Except.bind]

namespace Argument

open Config (Change optionChange?)

/-! Cutting and putting together. -/

theorem flatten_units (words : List String) : (units words).flatten = words := by
  fun_induction units words with
  | case1 => rfl
  | case2 word => rfl
  | case3 word htakes value rest ih => simp [ih]
  | case4 word words htakes ih => simp [ih]

theorem units_flatten {us : List (List String)} {args : List Argument}
    (h : List.Forall₂ Spells us args) : units us.flatten = us := by
  induction h with
  | nil => rfl
  | @cons u a us args ha _ ih =>
    rw [List.flatten_cons]
    match u, ha with
    | [word], ha =>
      have htakes : takesValue word = false := by
        rw [← Bool.not_eq_true]
        exact fun htakes => not_spells_of_takesValue htakes a ha
      rw [List.singleton_append, units_lone htakes, ih]
    | [word, value], ha =>
      have htakes : takesValue word = true := by
        rcases spells_pair_iff.mp ha with ⟨rfl | rfl, -⟩ | ⟨rfl, -⟩ <;> rfl
      rw [List.cons_append, List.singleton_append, units_pair htakes, ih]

def isOption : List String → Bool
  | [word] => (valueAfter? "--option=" word).isSome
  | [word, _] => word = "--option"
  | _ => false

theorem isOption_of_spells {u : List String} {a : Argument} (h : Spells u a) :
    isOption u = a.option?.isSome := by
  cases h with
  | shortOutput => rfl
  | longOutput => rfl
  | joinedOutput directory =>
    simp (disch := decide) [isOption, valueAfter?_append_eq_none, option?]
  | option => rfl
  | joinedOption pair => simp [isOption, valueAfter?_append, option?]
  | check => rfl
  | sequential => rfl
  | timestamp => rfl
  | injection mode => simp (disch := decide) [isOption, valueAfter?_append_eq_none, option?]
  | color h => simp (disch := decide) [isOption, valueAfter?_append_eq_none, option?]
  | input h => simp (disch := decide) [isOption, valueAfter?_of_plain h, option?]

/-! What is read from arguments. -/

theorem length_filterMap_input? (args : List Argument) :
    (args.filterMap input?).length = args.countP isInput := by
  rw [List.length_filterMap_eq_countP]
  refine List.countP_congr fun a _ => ?_
  cases a <;> simp [input?, isInput]

structure Tells (args : List Argument) (a : Arguments) : Prop where
  input : args.filterMap input? = [a.input]
  config : Arguments.configOf args = .ok a.config
  output : a.output = (args.filterMap output?).getLast?
  color : a.color = (args.filterMap color?).getLast?.getD .auto
  check : a.checkOnly = true ↔ .check ∈ args

theorem parse_of_ofWords {words : List String} {args : List Argument} {a : Arguments}
    (h : ofWords false words = .ok args) : Arguments.parse words = .ok a ↔ Tells args a := by
  have hlength : (args.filterMap input?).length ≤ 1 := by
    rw [length_filterMap_input?]
    exact (ofWords_eq_ok_iff.mp h).2
  cases hconfig : Arguments.configOf args with
  | error e =>
    simp only [Arguments.parse, h, hconfig, bind, Except.bind]
    refine iff_of_false nofun fun htells => ?_
    rw [htells.config] at hconfig
    cases hconfig
  | ok config =>
    simp only [Arguments.parse, h, hconfig, bind, Except.bind, ← List.head?_filterMap]
    match hinput : args.filterMap input? with
    | [] =>
      refine iff_of_false nofun fun htells => ?_
      rw [htells.input] at hinput
      cases hinput
    | [path] =>
      constructor
      · intro hok
        cases hok
        exact ⟨hinput, hconfig, rfl, rfl, decide_eq_true_iff⟩
      · rintro ⟨hinput', hconfig', houtput, hcolor, hcheck⟩
        obtain ⟨path', directory, config', checkOnly, mode⟩ := a
        obtain rfl : path = path' := List.singleton_inj.mp (hinput.symm.trans hinput')
        obtain rfl : config = config' := Except.ok.inj (hconfig.symm.trans hconfig')
        have hcheckOnly : decide (check ∈ args) = checkOnly := by
          rw [Bool.eq_iff_iff, decide_eq_true_iff, hcheck]
        simp only [List.head?_cons, hcheckOnly, pure, Except.pure, ← houtput, ← hcolor]
    -- a second input has been refused with the words
    | _ :: _ :: _ => simp [hinput] at hlength

theorem parse_eq_ok_iff {words : List String} {a : Arguments} : Arguments.parse words = .ok a ↔
    ∃ args, List.Forall₂ Spells (units words) args ∧ Tells args a := by
  constructor
  · intro h
    cases hwords : ofWords false words with
    | error e =>
      rw [Arguments.parse, hwords] at h
      cases h
    | ok args => exact ⟨args, (ofWords_eq_ok_iff.mp hwords).1, (parse_of_ofWords hwords).mp h⟩
  · rintro ⟨args, hall, htells⟩
    have hwords : ofWords false words = .ok args := by
      rw [ofWords_eq_ok_iff, ← length_filterMap_input?, htells.input]
      exact ⟨hall, Nat.le_refl _⟩
    exact (parse_of_ofWords hwords).mpr htells

theorem Tells.rearranged {args args' : List Argument} {a : Arguments} (h : Tells args a)
    (hargs : SameOrders (·.option?.isSome) args args') : Tells args' a := by
  have hoption : args'.filterMap option? = args.filterMap option? :=
    hargs.filterMap_chosen fun a ha => by simpa using ha
  have hflag : args'.filterMap flag? = args.filterMap flag? :=
    hargs.filterMap_others fun a ha => by cases a <;> simp_all [option?, flag?]
  have hinput : args'.filterMap input? = args.filterMap input? :=
    hargs.filterMap_others fun a ha => by cases a <;> simp_all [option?, input?]
  have houtput : args'.filterMap output? = args.filterMap output? :=
    hargs.filterMap_others fun a ha => by cases a <;> simp_all [option?, output?]
  have hcolor : args'.filterMap color? = args.filterMap color? :=
    hargs.filterMap_others fun a ha => by cases a <;> simp_all [option?, color?]
  refine ⟨hinput.trans h.input, ?_, houtput ▸ h.output, hcolor ▸ h.color,
    h.check.trans hargs.perm.mem_iff.symm⟩
  rw [Arguments.configOf, hoption, hflag]
  exact h.config

def optionChanges (args : List Argument) : List Change :=
  (args.filterMap option?).filterMap optionChange?

def flagChanges (args : List Argument) : List Change := (args.filterMap flag?).filterMap Flag.change?

theorem configOf_eq_ok {args : List Argument} {c : Config} (h : Arguments.configOf args = .ok c) :
    c = (optionChanges args ++ flagChanges args).foldl Config.change Config.default := by
  obtain ⟨options, hoptions, hflags⟩ := Arguments.configOf_eq_ok_iff.mp h
  have hoptions := (Config.foldlM_eq_ok_iff _ optionChange? fun _ _ _ =>
    Config.applyOption_eq_ok_iff).mp hoptions
  have hflags := (Config.foldlM_eq_ok_iff Flag.apply Flag.change? fun _ _ _ =>
    Flag.apply_eq_ok_iff).mp hflags
  rw [List.foldl_append, optionChanges, flagChanges, ← hoptions.2, ← hflags.2]

/-- The value that arguments give a setting: the last flag's that sets it, or else the last option's. -/
def decided? {α : Type} (new? : Change → Option α) (args : List Argument) : Option α :=
  ((flagChanges args).filterMap new?).getLast?.or ((optionChanges args).filterMap new?).getLast?

/-- Each setting on its own: one input, the last of the arguments that set something, and the default
where none does. -/
structure Summarizes (args : List Argument) (a : Arguments) : Prop where
  input : args.filterMap input? = [a.input]
  output : a.output = (args.filterMap output?).getLast?
  color : a.color = (args.filterMap color?).getLast?.getD .auto
  check : a.checkOnly = true ↔ .check ∈ args
  injectionMode : a.config.injectionMode = (decided? Change.injectionMode? args).getD .none
  parallel : a.config.parallel = (decided? Change.parallel? args).getD true
  timestamp : a.config.timestamp = (decided? Change.timestamp? args).getD false

theorem Tells.summarizes {args : List Argument} {a : Arguments} (h : Tells args a) :
    Summarizes args a := by
  have hconfig := configOf_eq_ok h.config
  rw [Config.foldl_change_eq] at hconfig
  simp only [List.filterMap_append, List.getLast?_append] at hconfig
  exact ⟨h.input, h.output, h.color, h.check, congrArg Config.injectionMode hconfig,
    congrArg Config.parallel hconfig, congrArg Config.timestamp hconfig⟩

end Argument

open Argument (units Spells isOption Summarizes)

/-- Options may stand anywhere between the other arguments of an accepted command line. What is read from it
is the one input and, for everything else, what was set last, by a flag rather than by an option. -/
theorem flags_beat_options {words : List String} {a : Arguments} (h : Arguments.parse words = .ok a) :
    (units words).flatten = words ∧
    (∀ us, SameOrders isOption (units words) us → Arguments.parse us.flatten = .ok a) ∧
    ∃ args, List.Forall₂ Spells (units words) args ∧ Summarizes args a := by
  obtain ⟨args, hall, htells⟩ := Argument.parse_eq_ok_iff.mp h
  refine ⟨Argument.flatten_units words, fun us hus => ?_, args, hall, htells.summarizes⟩
  obtain ⟨args', hall', hargs⟩ := hus.forall₂ Spells.rightUnique
    (fun _ _ => Argument.isOption_of_spells) hall
  rw [Argument.parse_eq_ok_iff, Argument.units_flatten hall']
  exact ⟨args', hall', htells.rearranged hargs⟩

def mixedWords : List String :=
  ["--injection=none", "decls", "--option", "genrmbr.injectionType=koin", "-o", "--check",
    "--option=rmbr.parallel=false"]

def optionsFirst : List (List String) :=
  [["--option", "genrmbr.injectionType=koin"], ["--option=rmbr.parallel=false"],
    ["--injection=none"], ["decls"], ["-o", "--check"]]

theorem flags_beat_options_mixed :
    Arguments.parse mixedWords =
      .ok ⟨⟨"decls"⟩, some ⟨"--check"⟩, ⟨.none, false, false⟩, false, .auto⟩ ∧
    SameOrders isOption (units mixedWords) optionsFirst ∧
    Arguments.parse optionsFirst.flatten =
      .ok ⟨⟨"decls"⟩, some ⟨"--check"⟩, ⟨.none, false, false⟩, false, .auto⟩ := by
  have hunits : units mixedWords = [["--injection=none"], ["decls"],
      ["--option", "genrmbr.injectionType=koin"], ["-o", "--check"],
      ["--option=rmbr.parallel=false"]] := by decide
  have hspells : List.Forall₂ Spells (units mixedWords)
      [.flag (.injection "none"), .input "decls", .option "genrmbr.injectionType=koin",
        .output "--check", .option "rmbr.parallel=false"] := by
    rw [hunits]
    exact .cons (.injection "none") (.cons (.input (by decide)) (.cons (.option _)
      (.cons (.shortOutput _) (.cons (.joinedOption "rmbr.parallel=false") .nil))))
  have hconfig : Arguments.configOf
      [.flag (.injection "none"), .input "decls", .option "genrmbr.injectionType=koin",
        .output "--check", .option "rmbr.parallel=false"] = .ok ⟨.none, false, false⟩ := rfl
  have hparse : Arguments.parse mixedWords =
      .ok ⟨⟨"decls"⟩, some ⟨"--check"⟩, ⟨.none, false, false⟩, false, .auto⟩ :=
    Argument.parse_eq_ok_iff.mpr
      ⟨_, hspells, by decide, hconfig, by decide, by decide, by decide⟩
  have horders : SameOrders isOption (units mixedWords) optionsFirst := ⟨by decide, by decide⟩
  exact ⟨hparse, horders, (flags_beat_options hparse).2.1 optionsFirst horders⟩

end StateHolders
