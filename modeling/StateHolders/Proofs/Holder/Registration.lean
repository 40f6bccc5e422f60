import StateHolders.Proofs.Factory.Reading
import StateHolders.Proofs.Saver.Reading
import StateHolders.Proofs.Source.PrintedNames

/-! The names that a file registers and the names that it prints. Both come from the class, the types of its
parameters, its defaults and the library functions that the file calls; so they are the same, and no import
is idle. -/

namespace StateHolders

open Source
open Source.ImportTable (Registered mem_ofRegistrations)

namespace Source

namespace Fragment

variable {f : Fragment} {fs fs' : List Fragment} {n : String}

theorem mem_namesOf : n ∈ namesOf fs ↔ ∃ f ∈ fs, n ∈ f.names := List.mem_flatMap

theorem mem_namesOf_append : n ∈ namesOf (fs ++ fs') ↔ n ∈ namesOf fs ∨ n ∈ namesOf fs' := by
  rw [namesOf, List.flatMap_append, List.mem_append]
  rfl

theorem mem_namesOf_cons : n ∈ namesOf (f :: fs) ↔ n ∈ f.names ∨ n ∈ namesOf fs := by
  rw [namesOf, List.flatMap_cons, List.mem_append]
  rfl

theorem mem_namesOf_text (s : String) : n ∈ namesOf (.text s :: fs) ↔ n ∈ namesOf fs := by
  rw [mem_namesOf_cons, names]
  exact or_iff_right List.not_mem_nil

theorem notMem_namesOf_nil : n ∉ namesOf [] := List.not_mem_nil

theorem notMem_namesOf_text (s : String) : n ∉ namesOf [.text s] :=
  (mem_namesOf_text s).not.mpr notMem_namesOf_nil

end Fragment

namespace Line

variable {level : Nat} {opening closing value : List Fragment} {name n : String}

theorem mem_namesOf_singleton {l : Line} : n ∈ namesOf [l] ↔ n ∈ l.names := by
  rw [mem_namesOf_cons]
  exact or_iff_left notMem_namesOf_nil

theorem notMem_names_text (level : Nat) (s : String) : n ∉ (⟨level, [.text s]⟩ : Line).names :=
  Fragment.notMem_namesOf_text s

theorem notMem_namesOf_text (level : Nat) (s : String) : n ∉ namesOf [⟨level, [.text s]⟩] :=
  mem_namesOf_singleton.not.mpr (notMem_names_text level s)

theorem mem_names_namedArg : n ∈ (namedArg level name value).names ↔ n ∈ Fragment.namesOf value := by
  rw [names, namedArg, List.cons_append, List.cons_append, Fragment.mem_namesOf_text,
    Fragment.mem_namesOf_text, Fragment.mem_namesOf_append]
  exact or_iff_left (Fragment.notMem_namesOf_text ",")

theorem mem_namesOf_ite {isEmpty : Bool} {one first last : Line} {rows : List Line}
    (hrows : isEmpty = true → rows = []) (hone : n ∈ one.names ↔ n ∈ first.names ∨ n ∈ last.names) :
    n ∈ namesOf (if isEmpty then [one] else first :: rows ++ [last]) ↔
      n ∈ first.names ∨ n ∈ namesOf rows ∨ n ∈ last.names := by
  split
  · next hempty =>
    rw [mem_namesOf_singleton, hone, hrows hempty]
    exact or_congr_right (or_iff_right notMem_namesOf_nil).symm
  · rw [List.cons_append, mem_namesOf_cons, mem_namesOf_append, mem_namesOf_singleton]

theorem mem_namesOf_bracketed {rows : List Line} {tail : List Fragment} :
    n ∈ namesOf (bracketed level opening rows tail) ↔
      n ∈ Fragment.namesOf opening ∨ n ∈ namesOf rows ∨ n ∈ Fragment.namesOf tail := by
  rw [bracketed, mem_namesOf_ite List.isEmpty_iff.mp Fragment.mem_namesOf_append]
  simp only [names, Fragment.mem_namesOf_text]

theorem mem_namesOf_namedArgs {args : List (String × List Fragment)} :
    n ∈ namesOf (namedArgs level opening args closing) ↔ n ∈ Fragment.namesOf opening ∨
      (∃ arg ∈ args, n ∈ Fragment.namesOf arg.2) ∨ n ∈ Fragment.namesOf closing := by
  have hrows : args.isEmpty = true →
      args.map (fun arg => namedArg (level + 1) arg.1 arg.2) = [] := by simp
  rw [namedArgs, mem_namesOf_ite hrows Fragment.mem_namesOf_append, mem_namesOf_map]
  simp only [mem_names_namedArg]
  rfl

theorem notMem_names_forwarded {ns : List String} :
    ¬∃ arg ∈ forwarded ns, n ∈ Fragment.namesOf arg.2 := by
  rintro ⟨arg, harg, hn⟩
  obtain ⟨name, -, rfl⟩ := List.mem_map.mp harg
  exact Fragment.notMem_namesOf_text _ hn

end Line
end Source

theorem DefaultExpr.mem_namesOf_fragments {e : DefaultExpr} {n : String} :
    n ∈ Fragment.namesOf e.fragments ↔
      (∃ t ∈ e.typeArg?, n ∈ t.ownNames) ∨ ∃ s ∈ e.symbols, n = s.qualifiedName := by
  rw [Fragment.mem_namesOf]
  constructor
  · rintro ⟨f, hf, hn⟩
    cases f with
    | text s => cases hn
    | type t => exact .inl ⟨t, type_mem_fragments.mp hf, hn⟩
    | symbol s => exact .inr ⟨s, symbol_mem_fragments.mp hf, List.mem_singleton.mp hn⟩
  · rintro (⟨t, ht, hn⟩ | ⟨s, hs, hn⟩)
    · exact ⟨.type t, type_mem_fragments.mpr ht, hn⟩
    · exact ⟨.symbol s, symbol_mem_fragments.mpr hs, List.mem_singleton.mpr hn⟩

namespace ResolvedHolder

variable {c : ResolvedHolder} {library : List Symbol} {n : String}

/-- A file of the class has to name `n`; `library` lists the functions and types that the file itself
calls. -/
inductive Mentions (c : ResolvedHolder) (library : List Symbol) (n : String) : Prop where
  | ofClass : n ∈ (TypeExpr.named c.holder.qualifiedName).ownNames → Mentions c library n
  | ofParam {p : Param} : p ∈ c.holder.params → n ∈ p.type.ownNames → Mentions c library n
  | ofTypeArg {e : DefaultExpr} {t : TypeExpr} : some e ∈ c.defaults → t ∈ e.typeArg? →
      n ∈ t.ownNames → Mentions c library n
  | ofSymbol {e : DefaultExpr} {s : Symbol} : some e ∈ c.defaults → s ∈ e.symbols →
      n = s.qualifiedName → Mentions c library n
  | ofLibrary {s : Symbol} : s ∈ library → n = s.qualifiedName → Mentions c library n

theorem exists_params_of_mem (haligned : c.defaults.length = c.holder.params.length) {p : Param}
    (hp : p ∈ c.holder.params) : ∃ pd ∈ c.params, pd.1 = p := by
  rw [← map_fst_params haligned] at hp
  exact List.mem_map.mp hp

theorem exists_params_of_mem_defaults (haligned : c.defaults.length = c.holder.params.length)
    {d : Option DefaultExpr} (hd : d ∈ c.defaults) : ∃ pd ∈ c.params, pd.2 = d := by
  rw [← map_snd_params haligned] at hd
  exact List.mem_map.mp hd

theorem snd_mem_of_mem_params {pd : Param × Option DefaultExpr} (h : pd ∈ c.params) :
    pd.2 ∈ c.defaults := (List.of_mem_zip h).2

def ParamMentions (pd : Param × Option DefaultExpr) (n : String) : Prop :=
  n ∈ pd.1.type.ownNames ∨ ∃ e ∈ pd.2, (∃ t ∈ e.typeArg?, n ∈ t.ownNames) ∨
    ∃ s ∈ e.symbols, n = s.qualifiedName

theorem mentions_iff (haligned : c.defaults.length = c.holder.params.length) :
    c.Mentions library n ↔ n ∈ (TypeExpr.named c.holder.qualifiedName).ownNames ∨
      (∃ pd ∈ c.params, ParamMentions pd n) ∨ ∃ s ∈ library, n = s.qualifiedName := by
  constructor
  · intro h
    cases h with
    | ofClass hn => exact .inl hn
    | ofParam hp hn =>
      obtain ⟨pd, hpd, rfl⟩ := exists_params_of_mem haligned hp
      exact .inr (.inl ⟨pd, hpd, .inl hn⟩)
    | ofTypeArg he ht hn =>
      obtain ⟨pd, hpd, hdefault⟩ := exists_params_of_mem_defaults haligned he
      exact .inr (.inl ⟨pd, hpd, .inr ⟨_, hdefault, .inl ⟨_, ht, hn⟩⟩⟩)
    | ofSymbol he hs hn =>
      obtain ⟨pd, hpd, hdefault⟩ := exists_params_of_mem_defaults haligned he
      exact .inr (.inl ⟨pd, hpd, .inr ⟨_, hdefault, .inr ⟨_, hs, hn⟩⟩⟩)
    | ofLibrary hs hn => exact .inr (.inr ⟨_, hs, hn⟩)
  · rintro (hn | ⟨pd, hpd, hn | ⟨e, he, ⟨t, ht, hn⟩ | ⟨s, hs, hn⟩⟩⟩ | ⟨s, hs, hn⟩)
    · exact .ofClass hn
    · exact .ofParam (fst_mem_of_mem_params hpd) hn
    · have hdefault : some e ∈ c.defaults := he ▸ snd_mem_of_mem_params hpd
      exact .ofTypeArg hdefault ht hn
    · have hdefault : some e ∈ c.defaults := he ▸ snd_mem_of_mem_params hpd
      exact .ofSymbol hdefault hs hn
    · exact .ofLibrary hs hn

/-! What is registered. -/

theorem registered_paramRegistrations {pd : Param × Option DefaultExpr} :
    Registered (paramRegistrations pd) n ↔ ParamMentions pd n := by
  obtain ⟨p, d⟩ := pd
  cases d with
  | none => simp [Registered, paramRegistrations, ParamMentions, Registration.names, TypeExpr.ownNames]
  | some e =>
    simp [Registered, paramRegistrations, ParamMentions, Registration.names, TypeExpr.ownNames, or_and_right,
      exists_or]

theorem registered_append {rs rs' : List Registration} :
    Registered (rs ++ rs') n ↔ Registered rs n ∨ Registered rs' n := by
  simp only [Registered, List.mem_append, or_and_right, exists_or]

theorem registered_cons {r : Registration} {rs : List Registration} :
    Registered (r :: rs) n ↔ n ∈ r.names ∨ Registered rs n := by
  simp only [Registered, List.mem_cons, or_and_right, exists_or, exists_eq_left]

theorem registered_symbols {symbols : List Symbol} :
    Registered (symbols.map .symbol) n ↔ ∃ s ∈ symbols, n = s.qualifiedName := by
  simp [Registered, Registration.names]

theorem registered_iff_mentions (haligned : c.defaults.length = c.holder.params.length) :
    Registered (c.signatureRegistrations ++ library.map .symbol) n ↔
      c.Mentions (.composable :: library) n := by
  have hparams : Registered (c.params.flatMap paramRegistrations) n ↔
      ∃ pd ∈ c.params, ParamMentions pd n := by
    simp only [← registered_paramRegistrations]
    simp only [Registered, List.mem_flatMap]
    constructor
    · rintro ⟨r, ⟨pd, hpd, hr⟩, hn⟩
      exact ⟨pd, hpd, r, hr, hn⟩
    · rintro ⟨pd, hpd, r, hr, hn⟩
      exact ⟨r, ⟨pd, hpd, hr⟩, hn⟩
  have hcomposable : n ∈ (Registration.symbol .composable).names ↔ n = Symbol.composable.qualifiedName :=
    List.mem_singleton
  have hclass : n ∈ (Registration.type (.named c.holder.qualifiedName)).names ↔
      n ∈ (TypeExpr.named c.holder.qualifiedName).ownNames := Iff.rfl
  rw [mentions_iff haligned, registered_append, registered_symbols, signatureRegistrations, registered_cons,
    registered_cons, hparams, hcomposable, hclass]
  simp only [List.mem_cons, exists_eq_or_imp]
  grind

/-! What is printed. -/

theorem mem_names_signatureParam {pd : Param × Option DefaultExpr} :
    n ∈ (signatureParam pd).names ↔ ParamMentions pd n := by
  obtain ⟨p, d⟩ := pd
  have hdefault : n ∈ Fragment.namesOf (defaultClause d) ↔
      ∃ e ∈ d, (∃ t ∈ e.typeArg?, n ∈ t.ownNames) ∨ ∃ s ∈ e.symbols, n = s.qualifiedName := by
    cases d with
    | none => simp [defaultClause, Fragment.namesOf]
    | some e =>
      rw [defaultClause, Fragment.mem_namesOf_text, DefaultExpr.mem_namesOf_fragments]
      simp
  rw [Line.names, signatureParam, List.cons_append, List.cons_append, List.cons_append,
    Fragment.mem_namesOf_text, Fragment.mem_namesOf_text, Fragment.mem_namesOf_cons,
    Fragment.mem_namesOf_append, hdefault, ParamMentions]
  exact or_congr_right (or_iff_left (Fragment.notMem_namesOf_text ","))

theorem mem_namesOf_signature {name : String} {tail : List Fragment} :
    n ∈ Line.namesOf (c.signature name tail) ↔ n = Symbol.composable.qualifiedName ∨
      (∃ pd ∈ c.params, ParamMentions pd n) ∨ n ∈ Fragment.namesOf tail := by
  have hmarker : n ∈ (⟨0, ["@", .symbol .composable]⟩ : Line).names ↔
      n = Symbol.composable.qualifiedName := by
    simp [Line.names, Fragment.namesOf, Fragment.names]
  have hrows : c.holder.params.isEmpty = true → c.params.map signatureParam = [] := by
    intro hempty
    rw [params, List.isEmpty_iff.mp hempty, List.zip_nil_left, List.map_nil]
  have hopening : n ∉ (⟨0, [.text s!"internal fun {name}("]⟩ : Line).names := Line.notMem_names_text _ _
  have hone : n ∈ (⟨0, .text s!"internal fun {name}()" :: tail⟩ : Line).names ↔
      n ∈ (⟨0, [.text s!"internal fun {name}("]⟩ : Line).names ∨ n ∈ (⟨0, ")" :: tail⟩ : Line).names := by
    rw [or_iff_right hopening, Line.names, Line.names, Fragment.mem_namesOf_text,
      Fragment.mem_namesOf_text]
  rw [signature, Line.mem_namesOf_cons, hmarker, Line.mem_namesOf_ite hrows hone, or_iff_right hopening,
    Line.mem_namesOf_map, Line.names, Fragment.mem_namesOf_text]
  simp only [mem_names_signatureParam]

theorem mem_namesOf_opening : n ∈ Fragment.namesOf [c.classType, "("] ↔
    n ∈ (TypeExpr.named c.holder.qualifiedName).ownNames := by
  simp [Fragment.namesOf, Fragment.names, classType]

theorem mem_namesOf_construction :
    n ∈ Line.namesOf c.construction ↔ n ∈ (TypeExpr.named c.holder.qualifiedName).ownNames := by
  rw [construction, Line.mem_namesOf_namedArgs, mem_namesOf_opening,
    or_iff_right Line.notMem_names_forwarded]
  exact or_iff_left (Fragment.notMem_namesOf_text ")")

end ResolvedHolder

namespace Factory

variable {c : ResolvedHolder} {n : String}

theorem names_eq (c : ResolvedHolder) : names c = ImportTable.ofRegistrations c.holder.package
    (c.signatureRegistrations ++ [Symbol.remember].map .symbol) := by
  rw [names, ResolvedHolder.signatureNames_eq, ImportTable.ofRegistrations,
    ImportTable.ofRegistrations, List.foldl_append]
  rfl

theorem mem_namesOf_body (haligned : c.defaults.length = c.holder.params.length) :
    n ∈ Line.namesOf (body c) ↔ c.Mentions [.composable, .remember] n := by
  have htail : n ∈ Fragment.namesOf (tail c) ↔
      n ∈ (TypeExpr.named c.holder.qualifiedName).ownNames ∨ n = Symbol.remember.qualifiedName := by
    simp [tail, Fragment.namesOf, Fragment.names, ResolvedHolder.classType]
  have hclosing : n ∉ Line.namesOf [closingLine] := Line.notMem_namesOf_text _ _
  rw [body_eq, Line.mem_namesOf_append, or_iff_left hclosing, Line.mem_namesOf_append,
    ResolvedHolder.mem_namesOf_signature, ResolvedHolder.mem_namesOf_construction, htail,
    ResolvedHolder.mentions_iff haligned]
  simp only [List.mem_cons, exists_eq_or_imp, List.not_mem_nil, or_false, exists_eq_left]
  grind

end Factory

namespace Saver

variable {c : ResolvedHolder} {n : String}

theorem mem_namesOf_header : n ∈ Line.namesOf (header c) ↔
    (∃ p ∈ c.holder.carriedParams, n ∈ p.type.ownNames) ∨ n ∈ Fragment.namesOf (headerTail c) := by
  have hrow : ∀ p : Param, n ∈ (carriedParam p).names ↔ n ∈ p.type.ownNames := by
    simp [Line.names, carriedParam, Fragment.namesOf, Fragment.names]
  rw [header_eq, Line.mem_namesOf_bracketed, or_iff_right (Fragment.notMem_namesOf_text _),
    Line.mem_namesOf_map]
  simp only [hrow]

theorem notMem_namesOf_saveLambda {h : Holder} {plan : Plan} : n ∉ Line.namesOf (saveLambda h plan) := by
  unfold saveLambda
  split <;> simp [Line.namesOf, Line.names, Fragment.namesOf, Fragment.names, saveEntry]

theorem mem_namesOf_lambda {label param : String} {call : List Line} :
    n ∈ Line.namesOf (lambda label param call) ↔ n ∈ Line.namesOf call := by
  rw [lambda, List.cons_append, Line.mem_namesOf_cons, or_iff_right (Line.notMem_names_text _ _),
    Line.mem_namesOf_append]
  exact or_iff_left (Line.notMem_namesOf_text 1 "\x7d,")

theorem mem_names_restoreRow {map : String} {p : Param} :
    n ∈ (restoreRow map p).names ↔ p.saveableKey.isSome ∧ n ∈ p.type.ownNames := by
  rw [restoreRow, Line.mem_names_namedArg]
  cases hkey : p.saveableKey with
  | none => simp [restoreValue, RestoreArg.ofParam, hkey, Fragment.namesOf, Fragment.names]
  | some key => simp [restoreValue, RestoreArg.ofParam, hkey, Fragment.namesOf, Fragment.names]

theorem mem_namesOf_restoreLambda : n ∈ Line.namesOf (restoreLambda c (Plan.ofHolder c.holder)) ↔
    n ∈ (TypeExpr.named c.holder.qualifiedName).ownNames ∨
      ∃ p ∈ c.holder.persistedParams, n ∈ p.type.ownNames := by
  rw [restoreLambda_eq, mem_namesOf_lambda, Line.mem_namesOf_bracketed,
    ResolvedHolder.mem_namesOf_opening, Line.mem_namesOf_map, or_iff_left Fragment.notMem_namesOf_nil]
  simp only [mem_names_restoreRow, Holder.persistedParams, List.mem_filter, and_assoc]

theorem mem_namesOf_saver : n ∈ Line.namesOf (saver c (Plan.ofHolder c.holder)) ↔
    n ∈ (TypeExpr.named c.holder.qualifiedName).ownNames ∨
      (∃ p ∈ c.holder.params, n ∈ p.type.ownNames) ∨
        n = Symbol.saver.qualifiedName ∨ n = Symbol.mapSaver.qualifiedName := by
  have htail : n ∈ Fragment.namesOf (headerTail c) ↔ n = Symbol.saver.qualifiedName ∨
      n ∈ (TypeExpr.named c.holder.qualifiedName).ownNames ∨ n = Symbol.mapSaver.qualifiedName := by
    simp [headerTail, Fragment.namesOf, Fragment.names, ResolvedHolder.classType]
  have hclosing : n ∉ Line.namesOf [⟨0, [")"]⟩] := Line.notMem_namesOf_text _ _
  have hparams : (∃ p ∈ c.holder.params, n ∈ p.type.ownNames) ↔
      (∃ p ∈ c.holder.carriedParams, n ∈ p.type.ownNames) ∨
        ∃ p ∈ c.holder.persistedParams, n ∈ p.type.ownNames := by
    simp only [Holder.carriedParams, Holder.persistedParams, List.mem_filter]
    constructor
    · rintro ⟨p, hp, hn⟩
      cases hkey : p.saveableKey with
      | none => exact .inl ⟨p, ⟨hp, by rw [hkey]; rfl⟩, hn⟩
      | some key => exact .inr ⟨p, ⟨hp, by rw [hkey]; rfl⟩, hn⟩
    · rintro (⟨p, ⟨hp, -⟩, hn⟩ | ⟨p, ⟨hp, -⟩, hn⟩)
      · exact ⟨p, hp, hn⟩
      · exact ⟨p, hp, hn⟩
  rw [saver, Line.mem_namesOf_append, or_iff_left hclosing, Line.mem_namesOf_append,
    Line.mem_namesOf_append, or_iff_left notMem_namesOf_saveLambda, mem_namesOf_header, htail,
    mem_namesOf_restoreLambda, hparams]
  grind

theorem mem_namesOf_persistentFactory :
    n ∈ Line.namesOf (persistentFactory c (Plan.ofHolder c.holder)) ↔
      n = Symbol.composable.qualifiedName ∨
        (∃ pd ∈ c.params, ResolvedHolder.ParamMentions pd n) ∨
          n ∈ (TypeExpr.named c.holder.qualifiedName).ownNames ∨
            n = Symbol.rememberSaveable.qualifiedName := by
  have htail : n ∈ Fragment.namesOf (factoryTail c) ↔
      n ∈ (TypeExpr.named c.holder.qualifiedName).ownNames ∨
        n = Symbol.rememberSaveable.qualifiedName := by
    simp [factoryTail, Fragment.namesOf, Fragment.names, ResolvedHolder.classType]
  have hkeys : n ∉ Line.namesOf (c.holder.invalidationKeys.map invalidationKey) := by
    simp [Line.namesOf, Line.names, invalidationKey, Fragment.namesOf, Fragment.names]
  have hcall : n ∉ Line.namesOf (call c) := by
    rw [call, Line.mem_namesOf_namedArgs, or_iff_right Line.notMem_names_forwarded]
    simp [Fragment.namesOf, Fragment.names]
  have hopening : n ∉ Line.namesOf [⟨0, [") \x7b"]⟩] := Line.notMem_namesOf_text _ _
  have hclosing : n ∉ Line.namesOf [closingLine] := Line.notMem_namesOf_text _ _
  rw [persistentFactory_eq]
  simp only [Line.mem_namesOf_append, hkeys, hcall, hopening, hclosing, or_false,
    ResolvedHolder.mem_namesOf_signature, ResolvedHolder.mem_namesOf_construction, htail]
  grind

theorem mem_namesOf_body (haligned : c.defaults.length = c.holder.params.length) :
    n ∈ Line.namesOf (body c) ↔
      c.Mentions [.composable, .saver, .mapSaver, .rememberSaveable] n := by
  have hblank : n ∉ Line.namesOf [Line.blank] := by
    simp [Line.namesOf, Line.names, Line.blank, Fragment.namesOf]
  -- the saver names nothing of a parameter that the factory's signature does not name too
  have hparams : (∃ p ∈ c.holder.params, n ∈ p.type.ownNames) →
      ∃ pd ∈ c.params, ResolvedHolder.ParamMentions pd n := by
    rintro ⟨p, hp, hn⟩
    obtain ⟨pd, hpd, rfl⟩ := ResolvedHolder.exists_params_of_mem haligned hp
    exact ⟨pd, hpd, .inl hn⟩
  rw [body, Line.mem_namesOf_append, Line.mem_namesOf_append, or_iff_left hblank, mem_namesOf_saver,
    mem_namesOf_persistentFactory, ResolvedHolder.mentions_iff haligned]
  simp only [List.mem_cons, exists_eq_or_imp, List.not_mem_nil, or_false, exists_eq_left]
  by_cases hsaver : ∃ p ∈ c.holder.params, n ∈ p.type.ownNames
  · simp only [hparams hsaver, hsaver, true_or, or_true]
  · simp only [hsaver, false_or]
    grind

end Saver

/-- What the table of a file and the lines under its imports have to do with each other; `library` lists
the functions and types that the lines themselves call. -/
structure RegistersWhatItPrints (c : ResolvedHolder) (library : List Symbol) (t : ImportTable)
    (body : List Line) : Prop where
  registered_iff_printed : ∀ n, n ∈ t.names ↔ n ∈ Line.namesOf body
  printed_iff_mentioned : ∀ n, n ∈ Line.namesOf body ↔ c.Mentions library n
  depends_only : ∀ t' t'' : ImportTable, (∀ n ∈ t.names, t'.nameFor n = t''.nameFor n) →
    Line.renderAll t'.naming body = Line.renderAll t''.naming body
  depends_on_each : ∀ n ∈ t.names, ∃ printed,
    Line.renderAll (.ofNames (Function.update t.nameFor n printed)) body ≠ Line.renderAll t.naming body
  imports_printed : ∀ n ∈ t.imports, n ∈ Line.namesOf body ∧ t.nameFor n = QualifiedName.simpleName n

theorem registersWhatItPrints_of_mentions {c : ResolvedHolder} {library : List Symbol}
    {rs : List Registration} {body : List Line} (hregistered : ∀ n, Registered rs n ↔ c.Mentions library n)
    (hprinted : ∀ n, n ∈ Line.namesOf body ↔ c.Mentions library n) :
    RegistersWhatItPrints c library (ImportTable.ofRegistrations c.holder.package rs) body := by
  have hnodup := ImportTable.nodup_ofRegistrations c.holder.package rs
  have hnames : ∀ n, n ∈ (ImportTable.ofRegistrations c.holder.package rs).names ↔
      n ∈ Line.namesOf body := by
    intro n
    rw [mem_ofRegistrations, hregistered, hprinted]
  exact {
    registered_iff_printed := hnames
    printed_iff_mentioned := hprinted
    depends_only := fun t' t'' hagree =>
      Line.renderAll_congr fun n hn => hagree n ((hnames n).mpr hn)
    depends_on_each := fun n hn => Line.exists_renderAll_update_ne _ ((hnames n).mp hn)
    imports_printed := by
      intro n hn
      obtain ⟨hmem, halone, -⟩ := (ImportTable.mem_imports_iff hnodup).mp hn
      refine ⟨(hnames n).mp hmem, ?_⟩
      rcases ImportTable.nameFor_cases hnodup hmem with ⟨-, hshort⟩ | ⟨-, hshared, -⟩
      · exact hshort
      · exact absurd halone hshared }

section

variable {c : ResolvedHolder} (haligned : c.defaults.length = c.holder.params.length)
include haligned

theorem Factory.registersWhatItPrints :
    RegistersWhatItPrints c [.composable, .remember] (names c) (body c) := by
  rw [names_eq]
  exact registersWhatItPrints_of_mentions (fun n => ResolvedHolder.registered_iff_mentions haligned)
    fun n => mem_namesOf_body haligned

theorem Saver.registersWhatItPrints :
    RegistersWhatItPrints c [.composable, .saver, .mapSaver, .rememberSaveable] (names c) (body c) := by
  have hnames : names c = ImportTable.ofRegistrations c.holder.package
      (c.signatureRegistrations ++ [Symbol.saver, .mapSaver, .rememberSaveable].map .symbol) := names_eq c
  rw [hnames]
  exact registersWhatItPrints_of_mentions (fun n => ResolvedHolder.registered_iff_mentions haligned)
    fun n => mem_namesOf_body haligned

end

/-- Both files of a class register the names that they print and no others; and the lists that a default
keeps of its symbols and types are those that printing it asks for, however names are printed. -/
theorem registration_covers_printing {c : ResolvedHolder}
    (haligned : c.defaults.length = c.holder.params.length) :
    RegistersWhatItPrints c [.composable, .remember] (Factory.names c) (Factory.body c) ∧
      RegistersWhatItPrints c [.composable, .saver, .mapSaver, .rememberSaveable] (Saver.names c)
        (Saver.body c) ∧
      ∀ e : DefaultExpr, e.ListsWhatItAsks :=
  ⟨Factory.registersWhatItPrints haligned, Saver.registersWhatItPrints haligned, DefaultExpr.listsWhatItAsks⟩

def mixer : ResolvedHolder where
  holder := {
    qualifiedName := "app.ui.Mixer"
    package := "app.ui"
    params := [⟨"deck", ⟨"app.Deck", [.named "Int", .named "*"], true⟩, .required, true, some "deck"⟩,
      ⟨"other", .named "lib.Deck", .namedInject [], false, none⟩,
      ⟨"sink", .named "lib.Sink", .frameworkInject ["id"], false, none⟩,
      ⟨"scope", .named "kotlinx.coroutines.CoroutineScope", .ambientScope, false, none⟩]
    savedProperties := [⟨"deck", "deck"⟩]
    injector := some "inject"
    mode := .persistent
    injectionMode := none }
  defaults := [none, some (.injectorCall "inject" (.named "lib.Deck") []), some (.frameworkCall ["id"]),
    some .ambientScope]

theorem registration_covers_printing_mixer :
    mixer.defaults.length = mixer.holder.params.length ∧
      (RegistersWhatItPrints mixer [.composable, .remember] (Factory.names mixer) (Factory.body mixer) ∧
        RegistersWhatItPrints mixer [.composable, .saver, .mapSaver, .rememberSaveable]
          (Saver.names mixer) (Saver.body mixer) ∧
        ∀ e : DefaultExpr, e.ListsWhatItAsks) ∧
      (Saver.names mixer).names = ["androidx.compose.runtime.Composable", "app.ui.Mixer", "app.Deck", "Int",
        "lib.Deck", "lib.Sink", "org.koin.compose.koinInject", "org.koin.core.parameter.parametersOf",
        "kotlinx.coroutines.CoroutineScope", "androidx.compose.runtime.rememberCoroutineScope",
        "androidx.compose.runtime.saveable.Saver", "androidx.compose.runtime.saveable.mapSaver",
        "androidx.compose.runtime.saveable.rememberSaveable"] := by
  have haligned : mixer.defaults.length = mixer.holder.params.length := rfl
  exact ⟨haligned, registration_covers_printing haligned, by decide +kernel⟩

end StateHolders
