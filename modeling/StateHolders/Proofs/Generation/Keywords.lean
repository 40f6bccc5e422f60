import StateHolders.Proofs.Generation.Run
import StateHolders.Proofs.Holder.Marked
import StateHolders.Proofs.Holder.Registration
import StateHolders.Proofs.Holder.Resolution

/-! Keywords among the names of a declaration. Parameters and properties are printed between backquotes where
they are keywords; packages, imports and types are not, so a keyword in one of those stands bare. -/

namespace StateHolders

open Source Source.Piece
open QualifiedName (parts)

/-! What an accepted declaration hands on to its files. -/

namespace Holder

theorem params_of_ofDeclaration {d : Declaration} {h : Holder} (hd : ofDeclaration d = .ok h) :
    h.params.map Param.name = d.params.map DeclaredParam.name ∧
      h.params.map Param.type = d.params.map DeclaredParam.type ∧
      h.savedProperties = d.savedProperties := by
  obtain ⟨hnone, rfl⟩ := Declaration.ofDeclaration_eq_ok_iff.mp hd
  have hparams := (Declaration.keeps_holder hnone).params
  have hnames := map_eq_map_of_forall₂ hparams fun _ _ hp => hp.name.symm
  have htypes := map_eq_map_of_forall₂ hparams fun _ _ hp => hp.type.symm
  exact ⟨hnames.symm, htypes.symm, rfl⟩

variable {h : Holder} {run : InjectionMode} {c : ResolvedHolder}

theorem exists_param_of_mem_defaults (hc : h.resolve run = .ok c) {d : Option DefaultExpr}
    (hd : d ∈ c.defaults) : ∃ p ∈ h.params, p.default? (h.defaultContext run) = .ok d := by
  have hdefaults := mapM_eq_ok_iff.mp (resolve_eq_ok_iff.mp hc).2
  obtain ⟨i, hi, rfl⟩ := List.getElem_of_mem hd
  have hlength := hdefaults.length_eq
  exact ⟨h.params[i], List.getElem_mem _, (List.forall₂_iff_get.mp hdefaults).2 i (hlength ▸ hi) hi⟩

theorem type_of_mem_typeArg? {ctx : DefaultContext} {p : Param} {e : DefaultExpr} {t : TypeExpr}
    (h : p.default? ctx = .ok (some e)) (ht : t ∈ e.typeArg?) : t = p.type := by
  cases e with
  | injectorCall injector type args =>
    obtain rfl : type = t := Option.some.inj ht
    -- the fourth branch alone calls the injector
    unfold Param.default? at h
    dsimp only at h
    split at h
    · cases h
    · cases h
    · split at h <;> cases h
    · split at h
      · cases h
        rfl
      · split at h <;> cases h
    · split at h <;> cases h
    · cases h
  | _ => cases ht

end Holder

/-! No library name has a keyword in it. -/

theorem Source.Symbol.notMem_hardKeywords (s : Symbol) (t : ImportTable) :
    ∀ part ∈ parts (t.nameFor s.qualifiedName), part ∉ hardKeywords := by
  have hsimple : ∀ part ∈ parts (QualifiedName.simpleName s.qualifiedName), part ∉ hardKeywords := by
    cases s <;> decide +kernel
  have hfull : ∀ part ∈ parts s.qualifiedName, part ∉ hardKeywords := by
    cases s <;> decide +kernel
  unfold ImportTable.nameFor
  split
  · exact hsimple
  · exact hfull

/-- How the names of a declaration stand in the pieces of one of its files. -/
structure PrintsNames (d : Declaration) (t : ImportTable) (parameters properties : List String)
    (pieces : List Piece) (text : String) : Prop where
  printed : printAll pieces = text
  quoted_iff : ∀ role name isQuoted, .identifier role name isQuoted ∈ pieces →
    (isQuoted = true ↔ name ∈ hardKeywords ∧ (role = .parameter ∨ role = .property))
  package : pieces.filterMap (name? .package) = if d.package = "" then [] else parts d.package
  imported : pieces.filterMap (name? .imported) = t.imports.flatMap parts
  reference_iff : ∀ name, name ∈ pieces.filterMap (name? .reference) ↔
    ∃ n ∈ t.names, name ∈ parts (t.nameFor n)
  parameters : pieces.filterMap (name? .parameter) = parameters
  properties : pieces.filterMap (name? .property) = properties
  bare_keyword_iff : (∃ p ∈ pieces, p.IsBareKeyword) ↔ ∃ keyword ∈ hardKeywords,
    keyword ∈ parts d.package ∨ (∃ n ∈ t.imports, keyword ∈ parts n) ∨
      ∃ type ∈ .named d.qualifiedName :: d.params.map DeclaredParam.type, ∃ n ∈ type.ownNames,
        keyword ∈ parts (t.nameFor n)

namespace Factory

def pieces (c : ResolvedHolder) (stampedAt : Option Nat) : List Piece :=
  filePieces (names c) (marked c) stampedAt

def parameterNames (c : ResolvedHolder) : List String :=
  c.holder.params.map Param.name ++ c.holder.invalidationKeys.map Param.name ++
    c.holder.params.flatMap fun p => [p.name, p.name]

end Factory

namespace Saver

def pieces (c : ResolvedHolder) (stampedAt : Option Nat) : List Piece :=
  filePieces (names c) (marked c) stampedAt

def parameterNames (c : ResolvedHolder) : List String :=
  c.holder.carriedParams.map Param.name ++ c.holder.params.flatMap restoredNames ++
    c.holder.params.map Param.name ++ c.holder.invalidationKeys.map Param.name ++
    (c.holder.carriedParams.flatMap fun p => [p.name, p.name]) ++
    c.holder.params.flatMap fun p => [p.name, p.name]

end Saver

section

variable {d : Declaration} {run : InjectionMode} {c : ResolvedHolder} {library : List Symbol} {t : ImportTable}
  {body : List Line}

theorem keyword_reference_iff (hd : d.analyze run = .ok c)
    (hprints : RegistersWhatItPrints c library t body) {keyword : String} (hkeyword : keyword ∈ hardKeywords) :
    (∃ n ∈ t.names, keyword ∈ parts (t.nameFor n)) ↔
      ∃ type ∈ .named d.qualifiedName :: d.params.map DeclaredParam.type, ∃ n ∈ type.ownNames,
        keyword ∈ parts (t.nameFor n) := by
  obtain ⟨h, hh, -, hresolve⟩ := Declaration.analyze_eq_ok hd
  obtain ⟨rfl, -⟩ := Holder.resolve_eq_ok_iff.mp hresolve
  have hname := (Holder.eq_of_ofDeclaration hh).1
  have htypes := (Holder.params_of_ofDeclaration hh).2.1
  have hmentioned : ∀ n, n ∈ t.names ↔ c.Mentions library n := fun n =>
    (hprints.registered_iff_printed n).trans (hprints.printed_iff_mentioned n)
  rw [← hname, ← htypes]
  simp only [hmentioned]
  constructor
  · rintro ⟨n, hn, hpart⟩
    cases hn with
    | ofClass hn => exact ⟨_, List.mem_cons_self, n, hn, hpart⟩
    | ofParam hp hn => exact ⟨_, List.mem_cons_of_mem _ (List.mem_map_of_mem hp), n, hn, hpart⟩
    | ofTypeArg he ht hn =>
      obtain ⟨p, hp, hdefault⟩ := Holder.exists_param_of_mem_defaults hresolve he
      obtain rfl := Holder.type_of_mem_typeArg? hdefault ht
      exact ⟨_, List.mem_cons_of_mem _ (List.mem_map_of_mem hp), n, hn, hpart⟩
    | ofSymbol he hs hn => exact absurd hkeyword (Symbol.notMem_hardKeywords _ t keyword (hn ▸ hpart))
    | ofLibrary hs hn => exact absurd hkeyword (Symbol.notMem_hardKeywords _ t keyword (hn ▸ hpart))
  · rintro ⟨type, htype, n, hn, hpart⟩
    rcases List.mem_cons.mp htype with rfl | htype
    · exact ⟨n, .ofClass hn, hpart⟩
    · obtain ⟨p, hp, rfl⟩ := List.mem_map.mp htype
      exact ⟨n, .ofParam hp hn, hpart⟩

theorem keyword_package_iff (package : String) {keyword : String} (hkeyword : keyword ∈ hardKeywords) :
    keyword ∈ (if package = "" then [] else parts package) ↔ keyword ∈ parts package := by
  split
  · next hempty =>
    have hparts : parts package = [""] := by
      rw [hempty]
      decide +kernel
    rw [hparts, List.mem_singleton]
    refine iff_of_false List.not_mem_nil fun heq => ?_
    rw [heq] at hkeyword
    revert hkeyword
    decide
  · rfl

theorem printsNames_of_members (hd : d.analyze run = .ok c)
    (hprints : RegistersWhatItPrints c library t body) (hpackage : t.package = d.package) {ls : List MarkedLine}
    (hbody : ls.map MarkedLine.toLine = body) (stampedAt : Option Nat) :
    PrintsNames d t (MarkedLine.members ls .parameter) (MarkedLine.members ls .property)
      (filePieces t ls stampedAt) (frame t body stampedAt) := by
  have hfile := prints_filePieces t ls stampedAt
  rw [hbody, hpackage] at hfile
  -- packages, imports and references come from the table alone, parameters and properties from the lines alone
  have hother : ∀ role : Role, role ≠ .parameter ∧ role ≠ .property → MarkedLine.members ls role = [] :=
    fun role hrole => MarkedLine.members_eq_nil hrole ls
  have hnamed : (filePieces t ls stampedAt).filterMap (name? .package) =
      (if d.package = "" then [] else parts d.package) := by
    rw [hfile.named, hother .package (by decide)]
    simp [only]
  have himported : (filePieces t ls stampedAt).filterMap (name? .imported) = t.imports.flatMap parts := by
    rw [hfile.named, hother .imported (by decide)]
    simp [only]
  have hreference : ∀ name, name ∈ (filePieces t ls stampedAt).filterMap (name? .reference) ↔
      ∃ n ∈ t.names, name ∈ parts (t.nameFor n) := by
    intro name
    have hnames : (filePieces t ls stampedAt).filterMap (name? .reference) = MarkedLine.references t ls := by
      rw [hfile.named, hother .reference (by decide)]
      simp [only]
    rw [hnames, MarkedLine.references, hbody, List.mem_flatMap]
    simp only [hprints.registered_iff_printed]
  exact {
    printed := hfile.printed
    quoted_iff := fun role name isQuoted hp => hfile.follows _ hp
    package := hnamed
    imported := himported
    reference_iff := hreference
    parameters := by
      rw [hfile.named]
      simp [only]
    properties := by
      rw [hfile.named]
      simp [only]
    bare_keyword_iff := by
      rw [exists_isBareKeyword_iff hfile.follows]
      refine exists_congr fun keyword => and_congr_right fun hkeyword => ?_
      rw [exists_role_iff, ← keyword_reference_iff hd hprints hkeyword, ← hreference,
        ← keyword_package_iff d.package hkeyword, ← hnamed, ← List.mem_flatMap, ← himported] }

end

/-- In both files of an accepted declaration, parameters and properties are printed between backquotes
exactly where they are keywords, wherever they stand; a keyword stands bare exactly where it is a segment of
the package, of an import, or of a type's printed name. -/
theorem keywords_bare_iff {d : Declaration} {run : InjectionMode} {c : ResolvedHolder}
    (hd : d.analyze run = .ok c) (stampedAt : Option Nat) :
    PrintsNames d (Factory.names c) (Factory.parameterNames c) [] (Factory.pieces c stampedAt)
        (Factory.file c stampedAt).text ∧
      PrintsNames d (Saver.names c) (Saver.parameterNames c) (d.savedProperties.map SavedProperty.name)
        (Saver.pieces c stampedAt) (Saver.file c stampedAt).text := by
  obtain ⟨h, hh, -, hresolve⟩ := Declaration.analyze_eq_ok hd
  obtain ⟨rfl, -⟩ := Holder.resolve_eq_ok_iff.mp hresolve
  have haligned : c.defaults.length = c.holder.params.length := (Holder.defaults_aligned hresolve).length_eq.symm
  have hparams : c.params.map (fun p => p.1.name) = c.holder.params.map Param.name := by
    rw [← ResolvedHolder.map_fst_params haligned, List.map_map]
    rfl
  have hpackage := (Holder.eq_of_ofDeclaration hh).2.1
  have hproperties := (Holder.params_of_ofDeclaration hh).2.2
  constructor
  · have htable : (Factory.names c).package = d.package := by
      rw [Factory.names_eq, ImportTable.package_ofRegistrations, hpackage]
    have hfile := printsNames_of_members hd (Factory.registersWhatItPrints haligned) htable
      (Factory.map_toLine_marked c) stampedAt
    rw [Factory.members_marked, Factory.members_marked, hparams] at hfile
    exact hfile
  · have htable : (Saver.names c).package = d.package := by
      rw [Saver.names_eq, ImportTable.package_ofRegistrations, hpackage]
    have hfile := printsNames_of_members hd (Saver.registersWhatItPrints haligned) htable
      (Saver.map_toLine_marked c) stampedAt
    have hparameters : MarkedLine.members (Saver.marked c) .parameter = Saver.parameterNames c := by
      rw [Saver.members_marked, hparams, Saver.parameterNames]
      simp [only]
    have hprops : MarkedLine.members (Saver.marked c) .property =
        d.savedProperties.map SavedProperty.name := by
      rw [Saver.members_marked, hproperties]
      simp [only]
    rw [hparameters, hprops] at hfile
    exact hfile

def inbox : Declaration where
  qualifiedName := "com.in.Counter"
  givenPackage := none
  params := []
  properties := []
  markers := [.remember]

def inboxHolder : ResolvedHolder where
  holder := {
    qualifiedName := "com.in.Counter"
    package := "com.in"
    params := []
    savedProperties := []
    injector := none
    mode := .plain
    injectionMode := none }
  defaults := []

/-- The first line of code is `package com.in`, and its keyword is a bare piece of the text. -/
theorem inbox_package_bare :
    QualifiedName.IsDotted inbox.qualifiedName ∧ inbox.analyze .none = .ok inboxHolder ∧
    (inboxHolder.files none).map File.text = [header ++ "\n\npackage com.in\n\n" ++
      "import androidx.compose.runtime.Composable\nimport androidx.compose.runtime.remember\n\n" ++
      "@Composable\ninternal fun rememberCounter(): Counter = remember \x7b\n    Counter()\n\x7d\n"] ∧
    printAll (Factory.pieces inboxHolder none) = (Factory.file inboxHolder none).text ∧
    .identifier .package "in" false ∈ Factory.pieces inboxHolder none ∧ "in" ∈ hardKeywords := by
  have himports : (Factory.names inboxHolder).imports =
      ["androidx.compose.runtime.Composable", "androidx.compose.runtime.remember"] := by
    have hlisted : (Factory.names inboxHolder).names.filter (fun name =>
        !(Factory.names inboxHolder).isAmbiguous (QualifiedName.simpleName name) &&
          (Factory.names inboxHolder).needsImport name) =
        ["androidx.compose.runtime.Composable", "androidx.compose.runtime.remember"] := by decide +kernel
    rw [ImportTable.imports, hlisted]
    exact List.mergeSort_of_pairwise (by decide +kernel)
  have hfile := prints_filePieces (Factory.names inboxHolder) (Factory.marked inboxHolder) none
  rw [Factory.map_toLine_marked] at hfile
  refine ⟨by decide +kernel, by decide +kernel, ?_, hfile.printed, ?_, by decide⟩
  · show [frame (Factory.names inboxHolder) (Factory.body inboxHolder) none] = _
    rw [frame, himports]
    decide +kernel
  · rw [Factory.pieces, filePieces, himports]
    decide +kernel

def outbox : Declaration where
  qualifiedName := "com.in.Outbox"
  givenPackage := none
  params := [⟨"when", ⟨"List", [.named "app.is.Entry", .named "lib.Entry"], true⟩,
    [.invalidationKey, .persistedKey "k"]⟩]
  properties := [⟨"object", [.persistedKey "k"]⟩]
  markers := [.rememberSaveable]

def outboxHolder : ResolvedHolder where
  holder := {
    qualifiedName := "com.in.Outbox"
    package := "com.in"
    params := [⟨"when", ⟨"List", [.named "app.is.Entry", .named "lib.Entry"], true⟩, .required, true, some "k"⟩]
    savedProperties := [⟨"object", "k"⟩]
    injector := none
    mode := .persistent
    injectionMode := none }
  defaults := [none]

theorem keywords_bare_iff_outbox : outbox.analyze .none = .ok outboxHolder ∧
    (PrintsNames outbox (Factory.names outboxHolder) (Factory.parameterNames outboxHolder) []
        (Factory.pieces outboxHolder none) (Factory.file outboxHolder none).text ∧
      PrintsNames outbox (Saver.names outboxHolder) (Saver.parameterNames outboxHolder) ["object"]
        (Saver.pieces outboxHolder none) (Saver.file outboxHolder none).text) ∧
    Saver.parameterNames outboxHolder = ["when", "when", "when", "when", "when"] ∧
    .identifier .property "object" true ∈ Saver.pieces outboxHolder none ∧
    .identifier .reference "is" false ∈ Saver.pieces outboxHolder none := by
  have hd : outbox.analyze .none = .ok outboxHolder := by decide +kernel
  have hpieces : ∀ p ∈ (Saver.marked outboxHolder).flatMap (MarkedLine.pieces (Saver.names outboxHolder)),
      p ∈ Saver.pieces outboxHolder none := by
    intro p hp
    exact List.mem_cons_of_mem _ (List.mem_append_left _ (List.mem_append_right _ hp))
  exact ⟨hd, keywords_bare_iff hd none, by decide +kernel, hpieces _ (by decide +kernel),
    hpieces _ (by decide +kernel)⟩

end StateHolders
