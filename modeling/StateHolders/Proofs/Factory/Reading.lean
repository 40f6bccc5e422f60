import StateHolders.Proofs.Holder.Constructor

/-! Reading factories back. The reader finds the function, reads its parameters, the keys behind them, and
the arguments of the constructor call below; together they are what the factory was made from. -/

namespace StateHolders.Factory

open QualifiedName (IsIdentifier)
open Source
open ResolvedHolder (readParam)

/-- What a factory's file says of the constructor. -/
structure Reading where
  params : List ReadParam
  keys : List String
  args : List (String × String)
deriving DecidableEq, Repr

def readKeys (tail : List Char) : List String :=
  match Text.cutFirst? '(' tail with
  | some (_, rest) => ((rest.takeWhile (· ≠ ')')).splitOn ',').map word
  | none => []

def read? (text : String) : Option Reading := do
  let (function, below) ← lastFunction? (lines text)
  let signature ← readBrackets? readParam? function below
  let call ← signature.below.head?
  let construction ← readBrackets? readArg? call signature.below.tail
  some ⟨signature.items, readKeys signature.tail, construction.items⟩

/-! The keys. -/

theorem readKeys_keyList {u v : List Char} {names : List String} (hu : '(' ∉ u) (hv : '(' ∉ v)
    (h : ∀ name ∈ names, IsIdentifier name.toList) :
    readKeys (u ++ (keyList (names.map identifier)).toList ++ v) = names := by
  unfold keyList
  split
  · next hempty =>
    obtain rfl : names = [] := by simpa using hempty
    have hbracket : '(' ∉ u ++ "".toList ++ v := by simp [hu, hv]
    rw [readKeys, Text.cutFirst?_of_notMem hbracket]
  · next hne =>
    have hnames : names ≠ [] := by simpa using hne
    have htext : u ++ ("(" ++ String.intercalate ", " (names.map identifier) ++ ")").toList ++ v =
        u ++ '(' :: ((String.intercalate ", " (names.map identifier)).toList ++ ')' :: v) := by
      simp
    have hclosing : ')' ∉ (String.intercalate ", " (names.map identifier)).toList := by
      refine Text.notMem_intercalate (by decide) fun key hkey => ?_
      obtain ⟨name, hname, rfl⟩ := List.mem_map.mp hkey
      exact notMem_identifier (h name hname) (by decide)
    have hkeys : ((String.intercalate ", " (names.map identifier)).toList ++ ')' :: v).takeWhile
        (· ≠ ')') = (String.intercalate ", " (names.map identifier)).toList := by
      refine Text.takeWhile_append_of_halts (fun c hc => ?_) (Text.halts_cons (by decide))
      simpa using fun heq : c = ')' => hclosing (heq ▸ hc)
    rw [readKeys, htext, Text.cutFirst?_append hu]
    simp only [hkeys, map_word_splitOn hnames h]

variable {c : ResolvedHolder}

def tail (c : ResolvedHolder) : List Fragment :=
  [": ", c.classType, " = ", .symbol .remember,
    .text (keyList (c.holder.invalidationKeys.map fun p => identifier p.name)), " \x7b"]

theorem body_eq (c : ResolvedHolder) : body c =
    c.signature (functionName c.holder.simpleName) (tail c) ++ c.construction ++ [closingLine] :=
  rfl

theorem isIdentifier_of_mem_keys (hc : c.IsReadable (names c)) :
    ∀ name ∈ c.holder.invalidationKeys.map Param.name, IsIdentifier name.toList :=
  List.forall_mem_map.mpr fun p hp => hc.isIdentifier p (List.mem_of_mem_filter hp)

theorem readKeys_tail (hc : c.IsReadable (names c)) :
    readKeys (Fragment.renderAll (names c).naming (tail c)).toList =
      c.holder.invalidationKeys.map Param.name := by
  have hclass := notMem_of_isPrintChar hc.isPrintChar_of_mem_className (c := '(') (by decide)
  have hsymbol := notMem_of_isPrintChar ((names c).isPrintChar_of_mem_symbolName .remember)
    (c := '(') (by decide)
  have htail : (Fragment.renderAll (names c).naming (tail c)).toList =
      (": " ++ (names c).typeName (.named c.holder.qualifiedName) ++ " = " ++
        (names c).symbolName .remember).toList ++
        (keyList ((c.holder.invalidationKeys.map Param.name).map identifier)).toList ++
          " \x7b".toList := by
    simp [Fragment.renderAll, Fragment.render, tail, ResolvedHolder.classType, ImportTable.naming,
      Function.comp_def]
  rw [htail]
  exact readKeys_keyList (by simp [hclass, hsymbol]) (by decide) (isIdentifier_of_mem_keys hc)

/-! The lines of the file. -/

theorem notMem_functionName (hc : c.IsReadable (names c)) {ch : Char} (hch : ch ∈ lineMarks) :
    ch ∉ (functionName c.holder.simpleName).toList := by
  have hname := hc.notMem_affixed "remember" "" (by decide +kernel) rfl hch
  rwa [String.append_empty] at hname

theorem isWhole_keyList {names : List String} (h : ∀ name ∈ names, IsIdentifier name.toList)
    (n : Naming) : (Fragment.text (keyList (names.map identifier))).IsWhole n := by
  have hnames : ∀ key ∈ names.map identifier, '\n' ∉ key.toList :=
    List.forall_mem_map.mpr fun name hname => notMem_identifier (h name hname) (by decide)
  have hlist := Text.notMem_intercalate (by decide : '\n' ∉ ", ".toList) hnames
  refine Fragment.isWhole_text ?_
  unfold keyList
  split
  · simp
  · simp only [String.toList_append, List.mem_append, not_or]
    exact ⟨⟨by decide, hlist⟩, by decide⟩

theorem isWhole_tail (hc : c.IsReadable (names c)) : ∀ f ∈ tail c, f.IsWhole (names c).naming := by
  have hkeys := isWhole_keyList (isIdentifier_of_mem_keys hc) (names c).naming
  rw [List.map_map] at hkeys
  simp only [tail, List.forall_mem_cons]
  exact ⟨Fragment.isWhole_text (by decide), hc.isWhole_classType, Fragment.isWhole_text (by decide),
    Fragment.isWhole_symbol _ _, hkeys, Fragment.isWhole_text (by decide), by simp⟩

theorem isWhole_body (hc : c.IsReadable (names c)) : ∀ l ∈ body c, l.IsWhole (names c).naming := by
  have hfunction : '\n' ∉ (functionName c.holder.simpleName).toList :=
    notMem_functionName hc (by decide)
  rw [body_eq]
  simp only [List.forall_mem_append, List.forall_mem_singleton]
  exact ⟨⟨hc.isWhole_signature hfunction (isWhole_tail hc), hc.isWhole_construction⟩,
    List.forall_mem_singleton.mpr (Fragment.isWhole_text (by decide))⟩

/-- The text of a factory says of the constructor all there is to say: every parameter in its place with
its default, every key in its place, and every parameter passed on to itself. -/
theorem constructor_read_back {c : ResolvedHolder} (hc : c.IsReadable (names c))
    (stampedAt : Option Nat) :
    c.params.map Prod.fst = c.holder.params ∧ c.params.map Prod.snd = c.defaults ∧
      read? (file c stampedAt).text = some ⟨c.params.map (readParam (names c)),
        c.holder.invalidationKeys.map Param.name,
        c.holder.params.map fun p => (p.name, p.name)⟩ := by
  refine ⟨ResolvedHolder.map_fst_params hc.aligned, ResolvedHolder.map_snd_params hc.aligned, ?_⟩
  obtain ⟨marker, function, rows, hsignature, hmark, hrows, hreadRows⟩ :=
    hc.exists_signature_lines (notMem_functionName hc (by decide)) (tail c)
  obtain ⟨call, args, hconstruction, hargs, hreadArgs⟩ := hc.exists_construction_lines
  obtain ⟨above, below, hlines, hbelow⟩ := exists_lines_frame (names c) (isWhole_body hc) stampedAt
  -- the function is the last one: no line below the one that it begins in looks like another
  have hafter : ∀ line ∈ rows ++ (call :: (args ++ (['\x7d'] :: below))), line.head? ≠ some 'i' := by
    rw [List.forall_mem_cons] at hargs
    simp only [List.forall_mem_append, List.forall_mem_cons]
    exact ⟨hrows, hargs.1, hargs.2, by decide, hbelow⟩
  have hbody : (body c).map (Line.printed (names c).naming) ++ below =
      marker :: function :: (rows ++ (call :: (args ++ (['\x7d'] :: below)))) := by
    rw [body_eq, List.map_append, List.map_append, hsignature, hconstruction, List.map_singleton,
      printed_closingLine]
    simp
  have hfile : lines (file c stampedAt).text = (above ++ [marker]) ++
      function :: (rows ++ (call :: (args ++ (['\x7d'] :: below)))) := by
    rw [file, hlines, hbody]
    simp
  simp only [read?, hfile, lastFunction?_append hmark hafter, Option.bind_eq_bind, Option.bind_some,
    hreadRows, List.head?_cons, List.tail_cons, hreadArgs, readKeys_tail hc]

/-- A required parameter, one that is called by a keyword, and one with a default that looks like more
parameters. -/
def board : ResolvedHolder where
  holder := {
    qualifiedName := "app.ui.Board"
    package := "app.ui"
    params := [⟨"size", .named "Int", .required, true, none⟩,
      ⟨"in", ⟨"Map", [.named "String", ⟨"app.Piece", [], true⟩], false⟩, .literal "emptyMap()", true,
        none⟩,
      ⟨"title", .named "String", .literal "\"a: b = (c), d\"", false, none⟩]
    savedProperties := []
    injector := none
    mode := .plain
    injectionMode := none }
  defaults := [none, some (.verbatim "emptyMap()"), some (.verbatim "\"a: b = (c), d\"")]

theorem constructor_read_back_board : board.IsReadable (names board) ∧
    read? (file board (some 60)).text = some
      { params := [⟨"size", "Int", none⟩, ⟨"in", "Map<String, Piece?>", some "emptyMap()"⟩,
          ⟨"title", "String", some "\"a: b = (c), d\""⟩]
        keys := ["size", "in"]
        args := [("size", "size"), ("in", "in"), ("title", "title")] } := by
  have hboard : board.IsReadable (names board) := {
    aligned := rfl
    isName := by decide +kernel
    ne_star := by decide
    grammatical := by
      unfold TypeExpr.Grammatical
      decide +kernel
    isIdentifier := by decide +kernel
    unbroken := by
      intro e he
      simp only [board, List.mem_cons, Option.some_inj, List.not_mem_nil, or_false,
        reduceCtorEq, false_or] at he
      rcases he with rfl | rfl <;> decide +kernel }
  refine ⟨hboard, (constructor_read_back hboard (some 60)).2.2.trans ?_⟩
  decide +kernel

end StateHolders.Factory
