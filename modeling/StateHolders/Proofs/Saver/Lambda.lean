import StateHolders.Saver.Source
import StateHolders.Proofs.Holder.Constructor
import StateHolders.Proofs.Saver.FreshName
import StateHolders.Proofs.Source.Quoted

/-! The lambdas of a saver. Each makes one call, with a row for every entry that is saved or for every
argument that is restored; a row is read back together with the names that the lambda uses in it. -/

namespace StateHolders.Saver

open QualifiedName (IsIdentifier)
open Source

/-! Reading the rows. -/

structure ReadEntry where
  receiver : String
  entry : SaveEntry
deriving DecidableEq, Repr

/-- A row is `"key" to receiver.property,`. -/
def readEntry? : List Char → Option ReadEntry
  | '"' :: literal => do
    let (key, rest) ← readLiteral? literal
    let access ← Text.afterPrefix? " to ".toList rest
    let (receiver, property) ← Text.cutFirst? '.' access
    some ⟨word receiver, String.ofList key, word property⟩
  | _ => none

inductive ReadValue where
  | map (receiver key type : String)
  | forward (name : String)
deriving DecidableEq, Repr

def readCast? (receiver : List Char) : List Char → Option ReadValue
  | '"' :: literal => do
    let (key, rest) ← readLiteral? literal
    let type ← Text.afterPrefix? "] as ".toList rest
    some (.map (word receiver) (String.ofList key) (String.ofList type.dropLast))
  | _ => none

/-- A value that looks nothing up is a name. -/
def readValue? (value : List Char) : Option ReadValue :=
  match Text.cutFirst? '[' value with
  | some (receiver, rest) => readCast? receiver rest
  | none => some (.forward (word value))

def readRestoreArg? (row : List Char) : Option (String × ReadValue) := do
  let (name, value) ← Text.cutFirst? '=' row
  let value ← readValue? value
  some (word name, value)

theorem readEntry?_append {receiver property : String} (key : String)
    (hreceiver : IsIdentifier receiver.toList) (hproperty : IsIdentifier property.toList) :
    readEntry? ((quoted key).toList ++ (" to ".toList ++
      (receiver.toList ++ '.' :: ((identifier property).toList ++ [','])))) =
      some ⟨receiver, key, property⟩ := by
  have hdot : '.' ∉ receiver.toList := hreceiver.notMem (by decide +kernel) (by decide)
  rw [toList_quoted, List.cons_append, List.append_assoc, List.singleton_append, readEntry?]
  simp only [readLiteral?_flatMap_escapeChar, Option.bind_eq_bind, Option.bind_some, Text.afterPrefix?_append,
    Text.cutFirst?_append hdot, word_toList hreceiver, word_identifier_comma hproperty,
    String.ofList_toList]

theorem readValue?_map {receiver : String} (hreceiver : IsIdentifier receiver.toList)
    (key type : String) :
    readValue? (' ' :: (receiver.toList ++ '[' :: ((quoted key).toList ++
      ("] as ".toList ++ (type.toList ++ [',']))))) = some (.map receiver key type) := by
  have hbracket : '[' ∉ ' ' :: receiver.toList := by
    have h : '[' ∉ receiver.toList := hreceiver.notMem (by decide +kernel) (by decide)
    simpa using h
  rw [← List.cons_append, readValue?, Text.cutFirst?_append hbracket, toList_quoted,
    List.cons_append, List.append_assoc, List.singleton_append]
  simp only [readCast?, readLiteral?_flatMap_escapeChar, Option.bind_eq_bind, Option.bind_some,
    Text.afterPrefix?_append, word_blank_cons, word_toList hreceiver, List.dropLast_concat,
    String.ofList_toList]

theorem readValue?_forward {name : String} (hname : IsIdentifier name.toList) :
    readValue? (' ' :: ((identifier name).toList ++ [','])) = some (.forward name) := by
  have hbracket : '[' ∉ ' ' :: ((identifier name).toList ++ [',']) := by
    have h : '[' ∉ (identifier name).toList :=
      notMem_identifier_of_mark hname (by decide +kernel) (by decide) (by decide)
    simpa using h
  rw [readValue?, Text.cutFirst?_of_notMem hbracket]
  simp only [word_blank_cons, word_identifier_comma hname]

theorem readRestoreArg?_append {name : String} (hname : IsIdentifier name.toList)
    {value : List Char} {v : ReadValue} (hvalue : readValue? value = some v) :
    readRestoreArg? ((identifier name).toList ++ ' ' :: '=' :: value) = some (name, v) := by
  simp only [readRestoreArg?, cutFirst?_identifier hname, Option.bind_eq_bind, Option.bind_some,
    hvalue, word_identifier_blank hname]

section

variable {n : Naming}

theorem isRow_saveEntry {inst : String} (hinst : IsIdentifier inst.toList) {e : SaveEntry}
    (hproperty : IsIdentifier e.property.toList) :
    IsRow readEntry? ((saveEntry inst e).printed n) ⟨inst, e⟩ := by
  have hcontent : (Fragment.renderAll n (saveEntry inst e).content).toList =
      (quoted e.key).toList ++ (" to ".toList ++
        (inst.toList ++ '.' :: ((identifier e.property).toList ++ [',']))) := by
    simp [saveEntry, Fragment.renderAll, Fragment.render]
  have hhead : (Fragment.renderAll n (saveEntry inst e).content).toList.head? = some '"' := by
    rw [hcontent, toList_quoted]
    rfl
  rw [IsRow, Line.dropWhile_printed (by rw [hhead]; decide), hhead, hcontent]
  exact ⟨by decide, readEntry?_append e.key hinst hproperty⟩

theorem isWhole_saveEntry {inst : String} (hinst : IsIdentifier inst.toList) {e : SaveEntry}
    (hproperty : IsIdentifier e.property.toList) : (saveEntry inst e).IsWhole n := by
  have hinst : '\n' ∉ inst.toList := hinst.notMem (by decide +kernel) (by decide)
  simp only [Line.IsWhole, saveEntry, List.forall_mem_cons]
  exact ⟨Fragment.isWhole_text (lineBreak_notMem_quoted e.key), Fragment.isWhole_text (by decide),
    Fragment.isWhole_text hinst, Fragment.isWhole_text (by decide),
    Fragment.isWhole_identifier hproperty, Fragment.isWhole_text (by decide), by simp⟩

variable (t : ImportTable)

def readValue (map : String) (p : Param) : ReadValue :=
  match p.saveableKey with
  | some key => .map map key (t.typeName p.type)
  | none => .forward p.name

variable {t} {map : String} {p : Param}

theorem readValue?_restoreValue (hmap : IsIdentifier map.toList) (hname : IsIdentifier p.name.toList) :
    readValue? (' ' :: ((Fragment.renderAll t.naming
      (restoreValue map (RestoreArg.ofParam p) p.type)).toList ++ [','])) = some (readValue t map p) := by
  cases hkey : p.saveableKey with
  | none =>
    have hvalue := readValue?_forward hname
    simpa [restoreValue, RestoreArg.ofParam, readValue, hkey, Fragment.renderAll, Fragment.render]
      using hvalue
  | some key =>
    have hvalue := readValue?_map hmap key (t.typeName p.type)
    simpa [restoreValue, RestoreArg.ofParam, readValue, hkey, Fragment.renderAll, Fragment.render,
      ImportTable.naming] using hvalue

def restoreRow (map : String) (p : Param) : Line :=
  namedArg 3 (identifier p.name) (restoreValue map (RestoreArg.ofParam p) p.type)

theorem isRow_restoreRow (hmap : IsIdentifier map.toList) (hname : IsIdentifier p.name.toList) :
    IsRow readRestoreArg? ((restoreRow map p).printed t.naming) (p.name, readValue t map p) := by
  refine isRow_of_identifier hname ?_
    (readRestoreArg?_append hname (readValue?_restoreValue hmap hname))
  simp [restoreRow, namedArg, Fragment.renderAll, Fragment.render, Fragment.renderAll_append]

theorem isWhole_restoreRow (hmap : IsIdentifier map.toList) (hname : IsIdentifier p.name.toList)
    (htype : p.type.Grammatical) : (restoreRow map p).IsWhole t.naming := by
  have hmap : '\n' ∉ map.toList := hmap.notMem (by decide +kernel) (by decide)
  have hidentifier := Fragment.isWhole_identifier (n := t.naming) hname
  have hvalue : ∀ f ∈ restoreValue map (RestoreArg.ofParam p) p.type, f.IsWhole t.naming := by
    unfold restoreValue
    split
    · next key _ =>
      simp only [List.forall_mem_cons]
      exact ⟨Fragment.isWhole_text hmap, Fragment.isWhole_text (by decide),
        Fragment.isWhole_text (lineBreak_notMem_quoted key), Fragment.isWhole_text (by decide),
        Fragment.isWhole_type t htype, by simp⟩
    · exact List.forall_mem_singleton.mpr hidentifier
  simp only [Line.IsWhole, restoreRow, namedArg, List.cons_append, List.forall_mem_cons,
    List.forall_mem_append]
  exact ⟨hidentifier, Fragment.isWhole_text (by decide), hvalue, Fragment.isWhole_text (by decide),
    by simp⟩

end

/-! Reading a lambda. -/

structure ReadLambda (α : Type) where
  param : String
  items : List α
  below : List (List Char)

def readOpening? (line : List Char) : Option (String × List Char) := do
  let (_, lambda) ← Text.cutFirst? '\x7b' line
  let (param, value) ← Text.cutFirst? '>' lambda
  some (word param, value)

def emptyMap : List Char := " emptyMap() \x7d,".toList

/-- A lambda makes its call in the lines below the one that it begins in. -/
def readLambda? {α : Type} (read : List Char → Option α) :
    List (List Char) → Option (ReadLambda α)
  | line :: below => do
    let (param, value) ← readOpening? line
    if value = emptyMap then some ⟨param, [], below⟩
    else
      let first ← below.head?
      let call ← readBrackets? read first below.tail
      some ⟨param, call.items, call.below.tail⟩
  | [] => none

def lambda (label param : String) (call : List Line) : List Line :=
  ⟨1, [.text s!"{label} = \x7b {param} ->"]⟩ :: call ++ [⟨1, ["\x7d,"]⟩]

variable {α : Type} {read : List Char → Option α} {items : List α} {n : Naming}

theorem readOpening?_append {label : List Char} {param : String} (hlabel : '\x7b' ∉ label)
    (hparam : IsIdentifier param.toList) (value : List Char) :
    readOpening? (label ++ '\x7b' :: ' ' :: (param.toList ++ ' ' :: '-' :: '>' :: value)) =
      some (param, value) := by
  have hparts : ' ' :: (param.toList ++ ' ' :: '-' :: '>' :: value) =
      (' ' :: (param.toList ++ " -".toList)) ++ '>' :: value := by simp
  have harrow : '>' ∉ ' ' :: (param.toList ++ " -".toList) := by
    have h : '>' ∉ param.toList := hparam.notMem (by decide +kernel) (by decide)
    simp [h]
  have hdash : isWordChar '-' = false := by decide +kernel
  have hmarks : word " -".toList = "" := (word_blank_cons ['-']).trans (word_eq_empty (by simp [hdash]))
  have hword : word (' ' :: (param.toList ++ " -".toList)) = param := by
    rw [word_blank_cons, word_append, word_toList hparam, hmarks, String.append_empty]
  simp only [readOpening?, Text.cutFirst?_append hlabel, Option.bind_eq_bind, Option.bind_some,
    hparts, Text.cutFirst?_append harrow, hword]

theorem readLambda?_lambda {label param : String} {call : List Line} {first : List Char}
    {others : List (List Char)} (hlabel : '\x7b' ∉ label.toList) (hparam : IsIdentifier param.toList)
    (hcall : call.map (Line.printed n) = first :: others)
    (hread : ∀ below, readBrackets? read first (others ++ below) = some ⟨items, [], below⟩)
    (below : List (List Char)) :
    readLambda? read ((lambda label param call).map (Line.printed n) ++ below) =
      some ⟨param, items, below⟩ := by
  have hline : (Line.mk 1 [.text s!"{label} = \x7b {param} ->"]).printed n =
      ((margin 1).toList ++ (label.toList ++ " = ".toList)) ++
        '\x7b' :: ' ' :: (param.toList ++ ' ' :: '-' :: '>' :: []) := by
    simp [Line.printed, Fragment.renderAll, Fragment.render, toString]
  have hbrace : '\x7b' ∉ (margin 1).toList ++ (label.toList ++ " = ".toList) := by
    simp [toList_margin, hlabel]
  have hvalue : [] ≠ emptyMap := by decide
  rw [lambda, List.cons_append, List.map_cons, List.map_append, hcall, List.cons_append, readLambda?,
    hline]
  simp only [readOpening?_append hbrace hparam, Option.bind_eq_bind, Option.bind_some,
    if_neg hvalue]
  simp [hread]

theorem isWhole_lambda {label param : String} {call : List Line} (hlabel : '\n' ∉ label.toList)
    (hparam : IsIdentifier param.toList) (hcall : ∀ l ∈ call, l.IsWhole n) :
    ∀ l ∈ lambda label param call, l.IsWhole n := by
  have hparam : '\n' ∉ param.toList := hparam.notMem (by decide +kernel) (by decide)
  have hopening : '\n' ∉ (s!"{label} = \x7b {param} ->").toList := by
    simp [toString, hlabel, hparam]
  simp only [lambda, List.cons_append, List.forall_mem_cons, List.forall_mem_append]
  exact ⟨List.forall_mem_singleton.mpr (Fragment.isWhole_text hopening), hcall,
    List.forall_mem_singleton.mpr (Fragment.isWhole_text (by decide)), by simp⟩

theorem level_pos_of_mem_lambda {label param : String} {call : List Line}
    (hcall : ∀ l ∈ call, 0 < l.level) : ∀ l ∈ lambda label param call, 0 < l.level := by
  simp only [lambda, List.cons_append, List.forall_mem_cons, List.forall_mem_append]
  exact ⟨Nat.one_pos, hcall, Nat.one_pos, by simp⟩

/-! The lambda that saves. -/

def instanceName (h : Holder) : String := freshName (h.params.map Param.name) "instance"

theorem isIdentifier_instanceName (h : Holder) : IsIdentifier (instanceName h).toList :=
  isIdentifier_freshName (by decide +kernel) _

theorem saveLambda_eq {h : Holder} {plan : Plan} (hplan : plan.save ≠ []) :
    saveLambda h plan = lambda "save" (instanceName h)
      (bracketed 2 ["mapOf("] (plan.save.map (saveEntry (instanceName h))) []) := by
  have hlabel : "save = \x7b " = "save" ++ " = \x7b " := rfl
  simp [saveLambda, lambda, bracketed, instanceName, hplan, toString, hlabel]

variable {h : Holder} {plan : Plan}

theorem level_pos_of_mem_saveLambda : ∀ l ∈ saveLambda h plan, 0 < l.level := by
  by_cases hplan : plan.save = []
  · simp [saveLambda, hplan]
  · rw [saveLambda_eq hplan]
    refine level_pos_of_mem_lambda (level_pos_of_mem_bracketed Nat.two_pos ?_)
    exact List.forall_mem_map.mpr fun e _ => Nat.succ_pos 2

theorem isWhole_saveLambda (hproperties : ∀ e ∈ plan.save, IsIdentifier e.property.toList) :
    ∀ l ∈ saveLambda h plan, l.IsWhole n := by
  have hinst := isIdentifier_instanceName h
  by_cases hplan : plan.save = []
  · simp only [saveLambda, hplan, List.isEmpty_nil, if_true, List.forall_mem_singleton]
    exact List.forall_mem_singleton.mpr (Fragment.isWhole_text (by decide))
  · rw [saveLambda_eq hplan]
    refine isWhole_lambda (by decide) hinst (isWhole_bracketed ?_ ?_ (by simp))
    · exact List.forall_mem_singleton.mpr (Fragment.isWhole_text (by decide))
    · exact List.forall_mem_map.mpr fun e he => isWhole_saveEntry hinst (hproperties e he)

theorem readLambda?_saveLambda (hproperties : ∀ e ∈ plan.save, IsIdentifier e.property.toList)
    (below : List (List Char)) :
    readLambda? readEntry? ((saveLambda h plan).map (Line.printed n) ++ below) =
      some ⟨if plan.save = [] then "_" else instanceName h,
        plan.save.map (⟨instanceName h, ·⟩), below⟩ := by
  have hinst := isIdentifier_instanceName h
  by_cases hplan : plan.save = []
  · have hline : (Line.mk 1 ["save = \x7b _ -> emptyMap() \x7d,"]).printed n =
        ((margin 1).toList ++ "save = ".toList) ++
          '\x7b' :: ' ' :: ("_".toList ++ ' ' :: '-' :: '>' :: emptyMap) := by
      simp only [Line.printed, Fragment.renderAll, Fragment.render, String.append_empty]
      decide +kernel
    have hbrace : '\x7b' ∉ (margin 1).toList ++ "save = ".toList := by simp [toList_margin]
    have hunderscore : IsIdentifier "_".toList := by decide +kernel
    have hlambda : saveLambda h plan = [⟨1, ["save = \x7b _ -> emptyMap() \x7d,"]⟩] := by
      simp [saveLambda, hplan]
    rw [hlambda, if_pos hplan, hplan, List.map_singleton, List.singleton_append, readLambda?, hline]
    simp only [readOpening?_append hbrace hunderscore, Option.bind_eq_bind, Option.bind_some,
      if_true, List.map_nil]
  · have hopening : (margin 2 ++ Fragment.renderAll n ["mapOf("]).toList =
        ((margin 2).toList ++ "mapOf".toList) ++ ['('] := by
      simp [Fragment.renderAll, Fragment.render]
    have hbracket : '(' ∉ (margin 2).toList ++ "mapOf".toList := by simp [toList_margin]
    obtain ⟨first, others, hcall, -, -, hread⟩ := readBrackets?_bracketed [] hbracket hopening
      (forall₂_isRow_map fun e he => isRow_saveEntry hinst (hproperties e he))
    rw [saveLambda_eq hplan, if_neg hplan]
    refine readLambda?_lambda (by decide) hinst ?_ hread below
    rw [hcall, List.map_cons]

/-! The lambda that restores. -/

def mapName (h : Holder) : String := freshName (h.params.map Param.name) "map"

theorem isIdentifier_mapName (h : Holder) : IsIdentifier (mapName h).toList :=
  isIdentifier_freshName (by decide +kernel) _

def mapParam (h : Holder) : String := if (Plan.ofHolder h).readsMap then mapName h else "_"

theorem isIdentifier_mapParam (h : Holder) : IsIdentifier (mapParam h).toList := by
  unfold mapParam
  split
  · exact isIdentifier_mapName h
  · decide +kernel

variable {c : ResolvedHolder} {t : ImportTable}

theorem restoreLambda_eq : restoreLambda c (Plan.ofHolder c.holder) =
    lambda "restore" (mapParam c.holder)
      (bracketed 2 [c.classType, "("] (c.holder.params.map (restoreRow (mapName c.holder))) []) := by
  have hargs : (Plan.ofHolder c.holder).restore.zip c.holder.params =
      c.holder.params.map fun p => (RestoreArg.ofParam p, p) := by
    simpa [Plan.ofHolder] using List.zip_map' (f := RestoreArg.ofParam) (g := id) (l := c.holder.params)
  simp only [restoreLambda, hargs, namedArgs_eq_bracketed, List.map_map]
  rfl

theorem level_pos_of_mem_restoreLambda :
    ∀ l ∈ restoreLambda c (Plan.ofHolder c.holder), 0 < l.level := by
  rw [restoreLambda_eq]
  refine level_pos_of_mem_lambda (level_pos_of_mem_bracketed Nat.two_pos ?_)
  exact List.forall_mem_map.mpr fun p _ => Nat.succ_pos 2

theorem isWhole_restoreLambda (hc : c.IsReadable t) :
    ∀ l ∈ restoreLambda c (Plan.ofHolder c.holder), l.IsWhole t.naming := by
  have hmap := isIdentifier_mapName c.holder
  rw [restoreLambda_eq]
  refine isWhole_lambda (by decide) (isIdentifier_mapParam c.holder) (isWhole_bracketed ?_ ?_ (by simp))
  · exact List.forall_mem_cons.mpr ⟨hc.isWhole_classType,
      List.forall_mem_singleton.mpr (Fragment.isWhole_text (by decide))⟩
  · exact List.forall_mem_map.mpr fun p hp =>
      isWhole_restoreRow hmap (hc.isIdentifier p hp) (hc.grammatical p hp)

theorem readLambda?_restoreLambda (hc : c.IsReadable t) (below : List (List Char)) :
    readLambda? readRestoreArg?
      ((restoreLambda c (Plan.ofHolder c.holder)).map (Line.printed t.naming) ++ below) =
      some ⟨mapParam c.holder,
        c.holder.params.map fun p => (p.name, readValue t (mapName c.holder) p), below⟩ := by
  have hmap := isIdentifier_mapName c.holder
  obtain ⟨first, others, hcall, -, -, hread⟩ := readBrackets?_bracketed []
    (hc.notMem_callOpening 2) (ResolvedHolder.IsReadable.toList_callOpening 2)
    (forall₂_isRow_map fun p hp => isRow_restoreRow hmap (hc.isIdentifier p hp))
  rw [restoreLambda_eq]
  refine readLambda?_lambda (by decide) (isIdentifier_mapParam c.holder) ?_ hread below
  rw [hcall, List.map_cons]

end StateHolders.Saver
