import StateHolders.Proofs.Holder.Names
import StateHolders.Proofs.Saver.Lambda

/-! Reading savers back. The text of a persistent class has two functions, the saver and the factory that
calls it; what is read in them is what the plan of the class asks for. -/

namespace StateHolders.Saver

open QualifiedName (IsIdentifier)
open Source

structure ReadSaver where
  name : String
  params : List ReadParam
  inst : String
  save : List ReadEntry
  map : String
  restore : List (String × ReadValue)
deriving DecidableEq, Repr

def readSaver? (function : List Char) (below : List (List Char)) : Option ReadSaver := do
  let header ← readBrackets? readParam? function below
  let save ← readLambda? readEntry? header.below
  let restore ← readLambda? readRestoreArg? save.below
  some ⟨calledName (function.drop functionMark.length), header.items, save.param, save.items,
    restore.param, restore.items⟩

structure ReadCall where
  called : String
  args : List (String × String)
deriving DecidableEq, Repr

def readCall? : List (List Char) → Option ReadCall
  | [] => none
  | line :: below =>
    match Text.cutFirst? '=' line with
    | some (_, call) => (readBrackets? readArg? line below).map fun b =>
        ⟨calledName (call.drop 1), b.items⟩
    | none => readCall? below

def readFactory? (function : List Char) (below : List (List Char)) : Option ReadCall := do
  let signature ← readBrackets? readParam? function below
  readCall? signature.below

structure Reading where
  saver : ReadSaver
  call : ReadCall
deriving DecidableEq, Repr

/-- The factory is the last function, and the saver stands before it. -/
def read? (text : String) : Option Reading :=
  match (functions (lines text)).reverse with
  | (factory, belowFactory) :: (saver, belowSaver) :: _ => do
    let saver ← readSaver? saver belowSaver
    let call ← readFactory? factory belowFactory
    some ⟨saver, call⟩
  | _ => none

/-! The saver. -/

variable {c : ResolvedHolder} {t : ImportTable} {ch : Char}

theorem notMem_functionName (hc : c.IsReadable t) (hch : ch ∈ lineMarks) :
    ch ∉ (functionName c.holder.simpleName).toList :=
  hc.notMem_affixed "get" "Saver" (by decide +kernel) (by decide +kernel) hch

theorem notMem_persistentFactoryName (hc : c.IsReadable t) (hch : ch ∈ lineMarks) :
    ch ∉ (persistentFactoryName c.holder.simpleName).toList := by
  have hname := hc.notMem_affixed "rememberSaveable" "" (by decide +kernel) rfl hch
  rwa [String.append_empty] at hname

def headerTail (c : ResolvedHolder) : List Fragment :=
  [": ", .symbol .saver, "<", c.classType, ", Any> = ", .symbol .mapSaver, "("]

theorem header_eq (c : ResolvedHolder) : header c =
    bracketed 0 [.text s!"internal fun {functionName c.holder.simpleName}("]
      (c.holder.carriedParams.map carriedParam) (headerTail c) := by
  rw [header, bracketed, List.isEmpty_map]
  rfl

theorem isWhole_header (hc : c.IsReadable t) : ∀ l ∈ header c, l.IsWhole t.naming := by
  have hname := notMem_functionName hc (by decide : '\n' ∈ lineMarks)
  have hopening : '\n' ∉ (s!"internal fun {functionName c.holder.simpleName}(").toList := by
    simp [toString, hname]
  rw [header_eq]
  refine isWhole_bracketed (List.forall_mem_singleton.mpr hopening) ?_ ?_
  · rw [List.forall_mem_map]
    intro p hp
    have hparam : p ∈ c.holder.params := List.mem_of_mem_filter hp
    simp only [Line.IsWhole, carriedParam, List.forall_mem_cons]
    exact ⟨Fragment.isWhole_identifier (hc.isIdentifier p hparam), Fragment.isWhole_text (by decide),
      Fragment.isWhole_type t (hc.grammatical p hparam), Fragment.isWhole_text (by decide), by simp⟩
  · simp only [headerTail, List.forall_mem_cons]
    exact ⟨Fragment.isWhole_text (by decide), Fragment.isWhole_symbol t _,
      Fragment.isWhole_text (by decide), hc.isWhole_classType, Fragment.isWhole_text (by decide),
      Fragment.isWhole_symbol t _, Fragment.isWhole_text (by decide), by simp⟩

theorem isRow_carriedParam (hc : c.IsReadable t) {p : Param} (hp : p ∈ c.holder.params) :
    IsRow readParam? ((carriedParam p).printed t.naming) ⟨p.name, t.typeName p.type, none⟩ := by
  have hname := hc.isIdentifier p hp
  have hequals : '=' ∉ (t.typeName p.type).toList :=
    notMem_of_isPrintChar (t.isPrintChar_of_mem_typeName (hc.grammatical p hp)) (by decide)
  refine isRow_of_identifier hname ?_ (readParam?_required hname hequals)
  simp [carriedParam, Fragment.renderAll, Fragment.render, ImportTable.naming]

theorem exists_header_lines (hc : c.IsReadable t) : ∃ first others,
    (header c).map (Line.printed t.naming) = first :: others ∧
      functionMark ++ (functionName c.holder.simpleName).toList ++ ['('] <+: first ∧
      (∀ line ∈ others, line.head? ≠ some 'i') ∧
      ∀ below, readBrackets? readParam? first (others ++ below) =
        some ⟨c.holder.carriedParams.map fun p => ⟨p.name, t.typeName p.type, none⟩,
          (Fragment.renderAll t.naming (headerTail c)).toList, below⟩ := by
  have hlevel : ∀ l ∈ c.holder.carriedParams.map carriedParam, 0 < l.level :=
    List.forall_mem_map.mpr fun p _ => Nat.one_pos
  rw [header_eq]
  exact exists_function_lines (notMem_functionName hc (by decide)) hlevel
    (forall₂_isRow_map fun p hp => isRow_carriedParam hc (List.mem_of_mem_filter hp)) (headerTail c)

def ReadSaver.ofHolder (t : ImportTable) (h : Holder) : ReadSaver where
  name := functionName h.simpleName
  params := h.carriedParams.map fun p => ⟨p.name, t.typeName p.type, none⟩
  inst := if (Plan.ofHolder h).save = [] then "_" else instanceName h
  save := (Plan.ofHolder h).save.map (⟨instanceName h, ·⟩)
  map := mapParam h
  restore := h.params.map fun p => (p.name, readValue t (mapName h) p)

theorem isIdentifier_of_mem_save {h : Holder}
    (hproperties : ∀ s ∈ h.savedProperties, IsIdentifier s.name.toList) :
    ∀ e ∈ (Plan.ofHolder h).save, IsIdentifier e.property.toList :=
  List.forall_mem_map.mpr hproperties

theorem exists_saver_lines (hc : c.IsReadable t)
    (hproperties : ∀ s ∈ c.holder.savedProperties, IsIdentifier s.name.toList) :
    ∃ first others, (saver c (Plan.ofHolder c.holder)).map (Line.printed t.naming) =
        first :: others ∧
      functionMark <+: first ∧ (∀ line ∈ others, line.head? ≠ some 'i') ∧
      ∀ below, readSaver? first (others ++ below) = some (.ofHolder t c.holder) := by
  have hsave := isIdentifier_of_mem_save hproperties
  obtain ⟨first, others, hheader, ⟨rest, hfirst⟩, hothers, hread⟩ := exists_header_lines hc
  have hname : calledName (first.drop functionMark.length) = functionName c.holder.simpleName := by
    rw [← hfirst, List.append_assoc, List.append_assoc, List.drop_left]
    exact calledName_append (notMem_functionName hc (by decide)) rest
  have hmark : functionMark <+: first := by
    rw [← hfirst, List.append_assoc, List.append_assoc]
    exact List.prefix_append _ _
  refine ⟨first, others ++
    (saveLambda c.holder (Plan.ofHolder c.holder)).map (Line.printed t.naming) ++
    (restoreLambda c (Plan.ofHolder c.holder)).map (Line.printed t.naming) ++
    [(Line.mk 0 [")"]).printed t.naming], ?_, hmark, ?_, fun below => ?_⟩
  · simp [saver, hheader]
  · simp only [List.forall_mem_append, List.forall_mem_singleton]
    refine ⟨⟨⟨hothers, Line.head?_ne_of_level_pos level_pos_of_mem_saveLambda⟩,
      Line.head?_ne_of_level_pos level_pos_of_mem_restoreLambda⟩, ?_⟩
    simp [Line.printed_eq, Fragment.renderAll, Fragment.render]
  · simp only [List.append_assoc, readSaver?, hread, Option.bind_eq_bind, Option.bind_some,
      readLambda?_saveLambda hsave, readLambda?_restoreLambda hc, hname]
    rfl

/-! The factory. -/

theorem carried_ofHolder (h : Holder) :
    (Plan.ofHolder h).carried = h.carriedParams.map Param.name := by
  have hsource : ∀ p : Param, decide ((RestoreArg.ofParam p).source = .forward) =
      p.saveableKey.isNone := by
    intro p
    cases hkey : p.saveableKey <;> simp [RestoreArg.ofParam, hkey]
  simp only [Plan.carried, Plan.ofHolder, Holder.carriedParams, List.filter_map, List.map_map,
    Function.comp_def, hsource]
  rfl

theorem isIdentifier_of_mem_carried (hc : c.IsReadable t) :
    ∀ name ∈ (Plan.ofHolder c.holder).carried, IsIdentifier name.toList := by
  rw [carried_ofHolder]
  exact List.forall_mem_map.mpr fun p hp => hc.isIdentifier p (List.mem_of_mem_filter hp)

def call (c : ResolvedHolder) : List Line :=
  namedArgs 1 [.text s!"saver = {functionName c.holder.simpleName}("]
    (forwarded (Plan.ofHolder c.holder).carried) ["),"]

theorem map_printed_call (n : Naming) : (call c).map (Line.printed n) =
    (forwardedCall [.text s!"saver = {functionName c.holder.simpleName}("]
      (Plan.ofHolder c.holder).carried [","]).map (Line.printed n) := by
  have hclosing : ("),": String) = ")" ++ "," := rfl
  simp only [call, forwardedCall, namedArgs, bracketed, forwarded, List.map_map, List.isEmpty_map]
  split
  · simp [Line.printed, Fragment.renderAll, Fragment.render, hclosing]
  · simp [Line.printed, Fragment.renderAll, Fragment.render, hclosing]

theorem isWhole_call (hc : c.IsReadable t) : ∀ l ∈ call c, l.IsWhole t.naming := by
  have hname := notMem_functionName hc (by decide : '\n' ∈ lineMarks)
  have hopening : '\n' ∉ (s!"saver = {functionName c.holder.simpleName}(").toList := by
    simp [toString, hname]
  exact Line.isWhole_of_map_printed_eq (map_printed_call t.naming)
    (isWhole_forwardedCall (List.forall_mem_singleton.mpr hopening) (isIdentifier_of_mem_carried hc)
      (List.forall_mem_singleton.mpr (Fragment.isWhole_text (by decide))))

theorem exists_call_lines (hc : c.IsReadable t) : ∃ first others,
    (call c).map (Line.printed t.naming) = first :: others ∧
      (∀ line ∈ first :: others, line.head? ≠ some 'i') ∧
      ∀ below, readCall? (first :: (others ++ below)) = some ⟨functionName c.holder.simpleName,
        (Plan.ofHolder c.holder).carried.map fun name => (name, name)⟩ := by
  have hname := notMem_functionName hc (by decide : '(' ∈ lineMarks)
  have hopening : (margin 1 ++ Fragment.renderAll t.naming
      [.text s!"saver = {functionName c.holder.simpleName}("]).toList =
      ((margin 1).toList ++ ("saver = ".toList ++ (functionName c.holder.simpleName).toList)) ++
        ['('] := by
    simp [Fragment.renderAll, Fragment.render, toString]
  have hbracket : '(' ∉ (margin 1).toList ++
      ("saver = ".toList ++ (functionName c.holder.simpleName).toList) := by
    simp [toList_margin, hname]
  obtain ⟨first, others, hlines, ⟨rest, hfirst⟩, hheads, hread⟩ :=
    exists_forwardedCall_lines hbracket hopening (isIdentifier_of_mem_carried hc) [","]
  have hequals : '=' ∉ (margin 1).toList ++ "saver ".toList := by simp [toList_margin]
  have hcut : Text.cutFirst? '=' first = some ((margin 1).toList ++ "saver ".toList,
      ' ' :: ((functionName c.holder.simpleName).toList ++ '(' :: rest)) := by
    rw [← Text.cutFirst?_append hequals, ← hfirst]
    simp
  rw [map_printed_call]
  refine ⟨first, others, hlines, hheads, fun below => ?_⟩
  simp only [readCall?, hcut, hread, Option.map_some, List.drop_succ_cons, List.drop_zero,
    calledName_append hname]

theorem readCall?_append {keys : List (List Char)} (h : ∀ line ∈ keys, '=' ∉ line)
    (below : List (List Char)) : readCall? (keys ++ below) = readCall? below := by
  induction keys with
  | nil => rfl
  | cons line keys ih =>
    rw [List.forall_mem_cons] at h
    rw [List.cons_append, readCall?, Text.cutFirst?_of_notMem h.1]
    exact ih h.2

theorem notMem_invalidationKey (n : Naming) {p : Param} (hname : IsIdentifier p.name.toList) :
    '=' ∉ (invalidationKey p).printed n := by
  have hequals : '=' ∉ (identifier p.name).toList := notMem_identifier hname (by decide)
  simp [Line.printed_eq, invalidationKey, Fragment.renderAll, Fragment.render, hequals]

def factoryTail (c : ResolvedHolder) : List Fragment :=
  [": ", c.classType, " = ", .symbol .rememberSaveable, "("]

theorem persistentFactory_eq (c : ResolvedHolder) :
    persistentFactory c (Plan.ofHolder c.holder) =
      c.signature (persistentFactoryName c.holder.simpleName) (factoryTail c) ++
        c.holder.invalidationKeys.map invalidationKey ++ call c ++ [⟨0, [") \x7b"]⟩] ++
        c.construction ++ [closingLine] :=
  rfl

theorem exists_factory_lines (hc : c.IsReadable t) : ∃ marker first others,
    (persistentFactory c (Plan.ofHolder c.holder)).map (Line.printed t.naming) =
        marker :: first :: others ∧
      marker.head? ≠ some 'i' ∧ functionMark <+: first ∧ (∀ line ∈ others, line.head? ≠ some 'i') ∧
      ∀ below, readFactory? first (others ++ below) = some ⟨functionName c.holder.simpleName,
        (Plan.ofHolder c.holder).carried.map fun name => (name, name)⟩ := by
  obtain ⟨marker, first, rows, hsignature, hmark, hrows, hread⟩ :=
    hc.exists_signature_lines (notMem_persistentFactoryName hc (by decide)) (factoryTail c)
  obtain ⟨opening, args, hcall, hargs, hreadCall⟩ := exists_call_lines hc
  obtain ⟨construction, values, hconstruction, hvalues, -⟩ := hc.exists_construction_lines
  have hmarker : (Line.mk 0 ["@", .symbol .composable]).printed t.naming = marker :=
    (List.cons.inj hsignature).1
  -- the call stands behind the first equals sign, and the keys above it have none
  have hkeys : ∀ line ∈ (c.holder.invalidationKeys.map invalidationKey).map
      (Line.printed t.naming), '=' ∉ line := by
    rw [List.map_map, List.forall_mem_map]
    exact fun p hp =>
      notMem_invalidationKey t.naming (hc.isIdentifier p (List.mem_of_mem_filter hp))
  have hindented : ∀ l ∈ c.holder.invalidationKeys.map invalidationKey, 0 < l.level :=
    List.forall_mem_map.mpr fun p _ => Nat.one_pos
  refine ⟨marker, first, rows ++
    (c.holder.invalidationKeys.map invalidationKey).map (Line.printed t.naming) ++
    opening :: args ++ [(Line.mk 0 [") \x7b"]).printed t.naming] ++ construction :: values ++
    [closingLine.printed t.naming], ?_, ?_, hmark, ?_, fun below => ?_⟩
  · simp only [persistentFactory_eq, List.map_append, hsignature, hcall, hconstruction,
      List.map_singleton, List.cons_append]
  · rw [← hmarker]
    simp [Line.printed_eq, Fragment.renderAll, Fragment.render]
  · simp only [List.forall_mem_append, List.forall_mem_singleton]
    refine ⟨⟨⟨⟨⟨hrows, Line.head?_ne_of_level_pos hindented⟩, hargs⟩, ?_⟩, hvalues⟩, ?_⟩
    · simp [Line.printed_eq, Fragment.renderAll, Fragment.render]
    · rw [printed_closingLine]
      decide
  · simp only [List.append_assoc, readFactory?, hread, Option.bind_eq_bind, Option.bind_some,
      readCall?_append hkeys, List.cons_append, hreadCall]

/-! The file. -/

theorem isWhole_body (hc : c.IsReadable t)
    (hproperties : ∀ s ∈ c.holder.savedProperties, IsIdentifier s.name.toList) :
    ∀ l ∈ body c, l.IsWhole t.naming := by
  have hname := notMem_persistentFactoryName hc (by decide : '\n' ∈ lineMarks)
  have htail : ∀ f ∈ factoryTail c, f.IsWhole t.naming := by
    simp only [factoryTail, List.forall_mem_cons]
    exact ⟨Fragment.isWhole_text (by decide), hc.isWhole_classType, Fragment.isWhole_text (by decide),
      Fragment.isWhole_symbol t _, Fragment.isWhole_text (by decide), by simp⟩
  have hkey : ∀ p ∈ c.holder.invalidationKeys, (invalidationKey p).IsWhole t.naming := by
    intro p hp
    have hidentifier := hc.isIdentifier p (List.mem_of_mem_filter hp)
    simp only [Line.IsWhole, invalidationKey, List.forall_mem_cons]
    exact ⟨Fragment.isWhole_identifier hidentifier, Fragment.isWhole_text (by decide), by simp⟩
  have hmark : ∀ mark : String, '\n' ∉ mark.toList → (Line.mk 0 [.text mark]).IsWhole t.naming :=
    fun mark hmark => List.forall_mem_singleton.mpr (Fragment.isWhole_text hmark)
  have hblank : Line.blank.IsWhole t.naming := by simp [Line.IsWhole, Line.blank]
  simp only [body, saver, persistentFactory_eq, List.forall_mem_append, List.forall_mem_singleton,
    List.forall_mem_map]
  exact ⟨⟨⟨⟨⟨isWhole_header hc, isWhole_saveLambda (isIdentifier_of_mem_save hproperties)⟩,
    isWhole_restoreLambda hc⟩, hmark _ (by decide)⟩, hblank⟩,
    ⟨⟨⟨⟨hc.isWhole_signature hname htail, hkey⟩, isWhole_call hc⟩, hmark _ (by decide)⟩,
      hc.isWhole_construction⟩, hmark _ (by decide)⟩

theorem read?_file (hc : c.IsReadable (names c))
    (hproperties : ∀ s ∈ c.holder.savedProperties, IsIdentifier s.name.toList)
    (stampedAt : Option Nat) : read? (file c stampedAt).text =
      some ⟨.ofHolder (names c) c.holder, functionName c.holder.simpleName,
        (Plan.ofHolder c.holder).carried.map fun name => (name, name)⟩ := by
  obtain ⟨saverLine, belowSaver, hsaver, hsaverMark, hsaverRows, hreadSaver⟩ :=
    exists_saver_lines hc hproperties
  obtain ⟨marker, factoryLine, belowFactory, hfactory, hmarker, hfactoryMark, hfactoryRows,
    hreadFactory⟩ := exists_factory_lines hc
  obtain ⟨above, below, hlines, hbelow⟩ :=
    exists_lines_frame (names c) (isWhole_body hc hproperties) stampedAt
  have hbody : (body c).map (Line.printed (names c).naming) ++ below = saverLine ::
      (belowSaver ++ (Line.blank.printed (names c).naming :: marker :: factoryLine ::
        (belowFactory ++ below))) := by
    simp only [body, List.map_append, hsaver, hfactory, List.map_singleton]
    simp
  -- nothing between the two functions looks like another one, and nothing after them
  have hbetween : ∀ line ∈ belowSaver ++ [Line.blank.printed (names c).naming, marker],
      line.head? ≠ some 'i' := by
    simp only [List.forall_mem_append, List.forall_mem_cons]
    exact ⟨hsaverRows, by simp [Line.printed_eq, Line.blank, Fragment.renderAll], hmarker, by simp⟩
  have hafter : ∀ line ∈ belowFactory ++ below, line.head? ≠ some 'i' :=
    List.forall_mem_append.mpr ⟨hfactoryRows, hbelow⟩
  have hfactory : functions (belowSaver ++ (Line.blank.printed (names c).naming :: marker ::
      factoryLine :: (belowFactory ++ below))) = [(factoryLine, belowFactory ++ below)] := by
    have hsplit := functions_append_of_head hbetween (factoryLine :: (belowFactory ++ below))
    rw [functions_cons hfactoryMark, functions_eq_nil hafter] at hsplit
    simpa using hsplit
  obtain ⟨fs, hfunctions⟩ := exists_functions_append above (saverLine :: (belowSaver ++
    (Line.blank.printed (names c).naming :: marker :: factoryLine :: (belowFactory ++ below))))
  rw [functions_cons hsaverMark, hfactory] at hfunctions
  rw [read?, file, hlines, hbody, hfunctions, List.reverse_append]
  simp only [List.reverse_cons, List.reverse_nil, List.nil_append, List.cons_append,
    hreadSaver, hreadFactory, Option.bind_eq_bind, Option.bind_some]

/-! What the reading says of the plan. -/

namespace ReadValue

def source : ReadValue → RestoreSource
  | map _ key _ => .map key
  | forward _ => .forward

def forwarded? : ReadValue → Option String
  | map .. => none
  | forward name => some name

end ReadValue

/-- The saver and the call of it carry out the plan of the class, in a file that prints names by `t`. -/
structure Realises (t : ImportTable) (h : Holder) (r : Reading) : Prop where
  saved : r.saver.save.map ReadEntry.entry = (Plan.ofHolder h).save
  restored : r.saver.restore.map (fun arg => ⟨arg.1, arg.2.source⟩) = (Plan.ofHolder h).restore
  /-- A parameter with a key is read from the map with a cast, any other one is passed on. -/
  values : r.saver.restore = h.params.map fun p => (p.name, readValue t r.saver.map p)
  /-- The type of a cast is read as the type of the parameter, once its names are resolved. -/
  casts : ∀ p ∈ h.params, ∃ type, TypeExpr.parse (t.typeName p.type) = .ok type ∧
    type.rename t.fullName = p.type ∧ type.nullable = p.type.nullable
  params : r.saver.params = h.carriedParams.map fun p => ⟨p.name, t.typeName p.type, none⟩
  /-- The saver takes, is called with, and passes on the same names. -/
  taken : r.saver.params.map ReadParam.name = (Plan.ofHolder h).carried
  called : r.call.called = r.saver.name
  args : r.call.args = (Plan.ofHolder h).carried.map fun name => (name, name)
  forwarded : r.saver.restore.filterMap (fun arg => arg.2.forwarded?) = (Plan.ofHolder h).carried
  carried : (Plan.ofHolder h).carried = h.carriedParams.map Param.name
  receivers : ∀ e ∈ r.saver.save, e.receiver = r.saver.inst
  inst_free : h.savedProperties ≠ [] → r.saver.inst ∉ h.params.map Param.name
  inst_unused : h.savedProperties = [] → r.saver.inst = "_"
  map_free : h.persistedParams ≠ [] → r.saver.map ∉ h.params.map Param.name
  map_unused : h.persistedParams = [] → r.saver.map = "_"

theorem names_eq (c : ResolvedHolder) : names c = ImportTable.ofRegistrations c.holder.package
    (c.signatureRegistrations ++ [.symbol .saver, .symbol .mapSaver, .symbol .rememberSaveable]) := by
  rw [names, ResolvedHolder.signatureNames_eq, ImportTable.ofRegistrations,
    ImportTable.ofRegistrations, List.foldl_append]
  rfl

theorem exists_parse_typeName (hc : c.IsReadable (names c)) {p : Param} (hp : p ∈ c.holder.params) :
    ∃ type, TypeExpr.parse ((names c).typeName p.type) = .ok type ∧
      type.rename (names c).fullName = p.type ∧ type.nullable = p.type.nullable := by
  have hgram := hc.grammatical p hp
  have hnodup : (names c).names.Nodup := by
    rw [names_eq]
    exact ImportTable.nodup_ofRegistrations _ _
  have hcover : (names c).Covers p.type := by
    rw [names_eq]
    exact ImportTable.covers_of_mem (List.mem_append_left _
      (ResolvedHolder.type_mem_signatureRegistrations hc.aligned hp))
  exact ⟨_, (names c).parse_typeName hgram, ImportTable.rename_fullName hnodup hcover hgram,
    p.type.nullable_rename _⟩

theorem source_readValue (map : String) (p : Param) :
    (readValue t map p).source = (RestoreArg.ofParam p).source := by
  cases hkey : p.saveableKey <;> simp [readValue, RestoreArg.ofParam, ReadValue.source, hkey]

theorem forwarded?_readValue (map : String) (p : Param) : (readValue t map p).forwarded? =
    if p.saveableKey.isNone = true then some p.name else none := by
  cases hkey : p.saveableKey <;> simp [readValue, ReadValue.forwarded?, hkey]

theorem filterMap_forwarded? (map : String) (h : Holder) :
    h.params.filterMap (fun p => (readValue t map p).forwarded?) = h.carriedParams.map Param.name := by
  rw [Holder.carriedParams, ← List.filterMap_eq_map, List.filterMap_filter]
  simp only [forwarded?_readValue]
  rfl

theorem readsMap_iff (h : Holder) : (Plan.ofHolder h).readsMap = true ↔ h.persistedParams ≠ [] := by
  have hsource : ∀ p : Param, decide ((RestoreArg.ofParam p).source ≠ .forward) =
      p.saveableKey.isSome := by
    intro p
    cases hkey : p.saveableKey <;> simp [RestoreArg.ofParam, hkey]
  rw [Plan.readsMap, Plan.ofHolder, List.any_map, Holder.persistedParams, Ne, List.filter_eq_nil_iff]
  simp only [Function.comp_def, hsource]
  simp [Option.isSome_iff_ne_none]

theorem readValue_mapParam {h : Holder} {p : Param} (hp : p ∈ h.params) :
    readValue t (mapName h) p = readValue t (mapParam h) p := by
  unfold mapParam
  split
  · rfl
  · next hreads =>
    rw [readsMap_iff, not_not, Holder.persistedParams, List.filter_eq_nil_iff] at hreads
    have hkey : p.saveableKey = none := by simpa using hreads p hp
    simp [readValue, hkey]

theorem save_eq_nil_iff {h : Holder} : (Plan.ofHolder h).save = [] ↔ h.savedProperties = [] :=
  List.map_eq_nil_iff

/-- The persistent text of a class carries out the class's plan, whatever the keys, and with no lambda
parameter in the way of a parameter of the saver. -/
theorem plan_read_back {c : ResolvedHolder} (hc : c.IsReadable (names c))
    (hproperties : ∀ s ∈ c.holder.savedProperties, IsIdentifier s.name.toList)
    (stampedAt : Option Nat) :
    ∃ r, read? (file c stampedAt).text = some r ∧ Realises (names c) c.holder r := by
  refine ⟨_, read?_file hc hproperties stampedAt, ?_⟩
  exact {
    saved := by simp [ReadSaver.ofHolder, Function.comp_def]
    restored := by
      simp [ReadSaver.ofHolder, Plan.ofHolder, source_readValue, Function.comp_def,
        RestoreArg.ofParam]
    values := List.map_congr_left fun p hp => congrArg (Prod.mk p.name) (readValue_mapParam hp)
    casts := fun p hp => exists_parse_typeName hc hp
    params := rfl
    taken := by simp [ReadSaver.ofHolder, carried_ofHolder, Function.comp_def]
    called := rfl
    args := rfl
    forwarded := by
      rw [ReadSaver.ofHolder, carried_ofHolder, List.filterMap_map]
      exact filterMap_forwarded? (mapName c.holder) c.holder
    carried := carried_ofHolder c.holder
    receivers := by
      intro e he
      obtain ⟨entry, hentry, rfl⟩ := List.mem_map.mp he
      exact (if_neg (List.ne_nil_of_mem hentry)).symm
    inst_free := by
      intro hsaved
      have hinst : (ReadSaver.ofHolder (names c) c.holder).inst = instanceName c.holder :=
        if_neg (save_eq_nil_iff.not.mpr hsaved)
      rw [hinst]
      exact freshName_notMem _ _
    inst_unused := fun hsaved => if_pos (save_eq_nil_iff.mpr hsaved)
    map_free := by
      intro hpersisted
      have hmap : (ReadSaver.ofHolder (names c) c.holder).map = mapName c.holder :=
        if_pos ((readsMap_iff _).mpr hpersisted)
      rw [hmap]
      exact freshName_notMem _ _
    map_unused := fun hpersisted => if_neg ((readsMap_iff _).not.mpr (not_not.mpr hpersisted)) }

/-- A parameter that is called by a keyword and persisted under a key full of marks, and two parameters
that have the names which the lambdas would give to the map and to the instance. -/
def stage : ResolvedHolder where
  holder := {
    qualifiedName := "app.ui.Stage"
    package := "app.ui"
    params := [⟨"in", ⟨"Map", [.named "String", ⟨"app.Piece", [], true⟩], true⟩, .required, true,
        some "\"$in\" to it.x,\n)"⟩,
      ⟨"map", .named "app.Map", .required, false, none⟩,
      ⟨"instance", .named "String", .literal "\"a: b = (c), d\"", false, none⟩]
    savedProperties := [⟨"object", "\"$in\" to it.x,\n)"⟩]
    injector := none
    mode := .persistent
    injectionMode := none }
  defaults := [none, none, some (.verbatim "\"a: b = (c), d\"")]

theorem plan_read_back_stage : stage.IsReadable (names stage) ∧
    (∀ s ∈ stage.holder.savedProperties, IsIdentifier s.name.toList) ∧
    ∃ r, read? (file stage (some 60)).text = some r ∧ Realises (names stage) stage.holder r ∧
      r = {
        saver := {
          name := "getStageSaver"
          params := [⟨"map", "app.Map", none⟩, ⟨"instance", "String", none⟩]
          inst := "instance1"
          save := [⟨"instance1", "\"$in\" to it.x,\n)", "object"⟩]
          map := "map1"
          restore := [("in", .map "map1" "\"$in\" to it.x,\n)" "Map<String, Piece?>?"),
            ("map", .forward "map"), ("instance", .forward "instance")] }
        call := ⟨"getStageSaver", [("map", "map"), ("instance", "instance")]⟩ } := by
  have hstage : stage.IsReadable (names stage) := {
    aligned := rfl
    isName := by decide +kernel
    ne_star := by decide
    grammatical := by
      unfold TypeExpr.Grammatical
      decide +kernel
    isIdentifier := by decide +kernel
    unbroken := by
      intro e he
      simp only [stage, List.mem_cons, Option.some_inj, List.not_mem_nil, or_false,
        reduceCtorEq, false_or] at he
      subst he
      decide +kernel }
  have hproperties : ∀ s ∈ stage.holder.savedProperties, IsIdentifier s.name.toList := by
    decide +kernel
  obtain ⟨r, hread, hrealises⟩ := plan_read_back hstage hproperties (some 60)
  refine ⟨hstage, hproperties, r, hread, hrealises, ?_⟩
  rw [read?_file hstage hproperties, Option.some_inj] at hread
  rw [← hread]
  decide +kernel

end StateHolders.Saver
