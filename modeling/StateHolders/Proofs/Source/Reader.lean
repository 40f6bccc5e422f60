import Mathlib.Data.List.Forall2
import StateHolders.Proofs.Source.Printed
import StateHolders.Proofs.Text.Cut

/-! Reading generated source line by line. A reader takes identifiers out of pieces of lines, lists out of
what stands between brackets, which close in the line that they open in or after rows on lines of their
own, and functions out of the lines of a file. -/

namespace StateHolders

namespace Text

theorem notMem_intercalate {c : Char} {sep : String} (hsep : c ∉ sep.toList) {ts : List String}
    (h : ∀ t ∈ ts, c ∉ t.toList) : c ∉ (sep.intercalate ts).toList := by
  induction ts with
  | nil => simp
  | cons t ts ih =>
    rw [List.forall_mem_cons] at h
    cases ts with
    | nil => simpa using h.1
    | cons t' ts =>
      rw [String.intercalate_cons_cons, String.toList_append, String.toList_append, List.mem_append,
        List.mem_append]
      exact fun hmem => hmem.elim (fun hmem => hmem.elim h.1 hsep) (ih h.2)

end Text

namespace Source

open QualifiedName (IsIdentifier)

/-! The pieces of a line. -/

def isWordChar (c : Char) : Bool := Text.isAlphanumeric c || c = '_'

def word (piece : List Char) : String := String.ofList (piece.filter isWordChar)

def inner (piece : List Char) : String := String.ofList (piece.drop 1).dropLast

def readArg? (row : List Char) : Option (String × String) :=
  (Text.cutFirst? '=' row).map fun (name, value) => (word name, word value)

theorem word_append (u v : List Char) : word (u ++ v) = word u ++ word v := by
  rw [word, List.filter_append, String.ofList_append]
  rfl

theorem word_eq_empty {u : List Char} (h : ∀ c ∈ u, isWordChar c = false) : word u = "" := by
  rw [word, List.filter_eq_nil_iff.mpr fun c hc => by simp [h c hc], String.ofList_nil]

theorem word_toList {name : String} (h : IsIdentifier name.toList) : word name.toList = name := by
  have hall : ∀ c ∈ name.toList, isWordChar c = true := fun c hc => by
    simpa [isWordChar] using h.2 c hc
  rw [word, List.filter_eq_self.mpr hall, String.ofList_toList]

theorem word_identifier {name : String} (h : IsIdentifier name.toList) :
    word (identifier name).toList = name := by
  obtain ⟨quotes, hquotes, heq⟩ := toList_identifier name
  have hquotes : word quotes = "" := word_eq_empty fun c hc => by
    rw [hquotes c hc]
    decide +kernel
  rw [heq, word_append, word_append, word_toList h, hquotes, String.empty_append,
    String.append_empty]

theorem inner_cons_append (a : Char) (s : List Char) (b : Char) :
    inner (a :: (s ++ [b])) = String.ofList s := by
  simp [inner]

theorem word_blank_cons (piece : List Char) : word (' ' :: piece) = word piece := by
  rw [word, List.filter_cons_of_neg (by decide +kernel), word]

theorem map_word_splitOn_blank_cons (s : List Char) :
    ((' ' :: s).splitOn ',').map word = (s.splitOn ',').map word := by
  have hsplit : (' ' :: s).splitOn ',' = (s.splitOn ',').modifyHead (List.cons ' ') := by
    rw [List.splitOn_eq_splitOnP, List.splitOnP_cons_eq_if_modifyHead, if_neg (by decide),
      List.splitOn_eq_splitOnP]
  rw [hsplit]
  cases s.splitOn ',' with
  | nil => rfl
  | cons piece pieces =>
    rw [List.modifyHead_cons, List.map_cons, List.map_cons, word_blank_cons]

theorem map_word_splitOn {names : List String} (hne : names ≠ [])
    (h : ∀ name ∈ names, IsIdentifier name.toList) :
    ((String.intercalate ", " (names.map identifier)).toList.splitOn ',').map word = names := by
  induction names with
  | nil => exact absurd rfl hne
  | cons name names ih =>
    rw [List.forall_mem_cons] at h
    have hcomma : ',' ∉ (identifier name).toList :=
      notMem_identifier h.1 List.mem_cons_self
    have hname : ((identifier name).toList.splitOn ',').map word = [name] := by
      rw [List.splitOn_eq_singleton hcomma, List.map_singleton, word_identifier h.1]
    cases names with
    | nil => rwa [List.map_singleton, String.intercalate_singleton]
    | cons next names =>
      have htext : (String.intercalate ", " ((name :: next :: names).map identifier)).toList =
          (identifier name).toList ++ ',' :: ' ' ::
            (String.intercalate ", " ((next :: names).map identifier)).toList := by
        rw [List.map_cons, List.map_cons, String.intercalate_cons_cons, String.toList_append,
          String.toList_append, List.append_assoc]
        rfl
      rw [htext, List.splitOn_append_cons_self, List.map_append, hname,
        map_word_splitOn_blank_cons, ih (List.cons_ne_nil _ _) h.2, List.singleton_append]

/-! An identifier with the mark or the blank that stands behind it in a row. -/

theorem word_identifier_comma {name : String} (h : IsIdentifier name.toList) :
    word ((identifier name).toList ++ [',']) = name := by
  have hmark : isWordChar ',' = false := by decide +kernel
  have hcomma : word [','] = "" := word_eq_empty (by simp [hmark])
  rw [word_append, word_identifier h, hcomma, String.append_empty]

theorem word_identifier_blank {name : String} (h : IsIdentifier name.toList) :
    word ((identifier name).toList ++ [' ']) = name := by
  have hblank : word [' '] = "" := word_blank_cons []
  rw [word_append, word_identifier h, hblank, String.append_empty]

theorem cutFirst?_identifier {name : String} (hname : IsIdentifier name.toList)
    (value : List Char) : Text.cutFirst? '=' ((identifier name).toList ++ ' ' :: '=' :: value) =
      some ((identifier name).toList ++ [' '], value) := by
  have hequals : '=' ∉ (identifier name).toList ++ [' '] := by
    simpa using notMem_identifier hname (by decide)
  have hrow : (identifier name).toList ++ ' ' :: '=' :: value =
      ((identifier name).toList ++ [' ']) ++ '=' :: value := by simp
  rw [hrow, Text.cutFirst?_append hequals]

theorem readArg?_forwarded {name : String} (hname : IsIdentifier name.toList) :
    readArg? ((identifier name).toList ++ ' ' :: '=' :: ' ' :: ((identifier name).toList ++ [','])) =
      some (name, name) := by
  simp only [readArg?, cutFirst?_identifier hname, Option.map_some, word_blank_cons,
    word_identifier_blank hname, word_identifier_comma hname]

/-! Rows between brackets. -/

structure Bracketed (α : Type) where
  items : List α
  tail : List Char
  below : List (List Char)

def readRows? {α : Type} (read : List Char → Option α) : List (List Char) → Option (Bracketed α)
  | [] => none
  | line :: below =>
    let row := line.dropWhile (· = ' ')
    if row.head? = some ')' then some ⟨[], row.tail, below⟩
    else (read row).bind fun item =>
      (readRows? read below).map fun b => { b with items := item :: b.items }

/-- Brackets that open in a line: they close in it at once, or after rows on lines of their own. -/
def readBrackets? {α : Type} (read : List Char → Option α) (line : List Char)
    (below : List (List Char)) : Option (Bracketed α) :=
  match Text.cutFirst? '(' line with
  | some (_, []) => readRows? read below
  | some (_, ')' :: tail) => some ⟨[], tail, below⟩
  | _ => none

def IsRow {α : Type} (read : List Char → Option α) (line : List Char) (item : α) : Prop :=
  (line.dropWhile (· = ' ')).head? ≠ some ')' ∧ read (line.dropWhile (· = ' ')) = some item

section

variable {α : Type} {read : List Char → Option α} {rows : List (List Char)} {items : List α}
  {closing tail u : List Char} {n : Naming}

theorem forall₂_isRow_map {β : Type} {line : β → Line} {item : β → α} {bs : List β}
    (h : ∀ b ∈ bs, IsRow read ((line b).printed n) (item b)) :
    List.Forall₂ (fun l item => IsRow read (l.printed n) item) (bs.map line) (bs.map item) := by
  rw [List.forall₂_map_left_iff, List.forall₂_map_right_iff, List.forall₂_same]
  exact h

theorem readRows?_append (hrows : List.Forall₂ (IsRow read) rows items)
    (hclosing : closing.dropWhile (· = ' ') = ')' :: tail) (below : List (List Char)) :
    readRows? read (rows ++ closing :: below) = some ⟨items, tail, below⟩ := by
  induction hrows with
  | nil => simp [readRows?, hclosing]
  | cons hrow _ ih => simp [readRows?, hrow.1, hrow.2, ih]

theorem readBrackets?_append (hu : '(' ∉ u) (hrows : List.Forall₂ (IsRow read) rows items)
    (hclosing : closing.dropWhile (· = ' ') = ')' :: tail) (below : List (List Char)) :
    readBrackets? read (u ++ ['(']) (rows ++ closing :: below) = some ⟨items, tail, below⟩ := by
  simp only [readBrackets?, Text.cutFirst?_append hu]
  exact readRows?_append hrows hclosing below

theorem readBrackets?_closed (hu : '(' ∉ u) (below : List (List Char)) :
    readBrackets? read (u ++ '(' :: ')' :: tail) below = some ⟨[], tail, below⟩ := by
  simp only [readBrackets?, Text.cutFirst?_append hu]

def bracketed (level : Nat) (opening : List Fragment) (rows : List Line) (tail : List Fragment) :
    List Line :=
  if rows.isEmpty then [⟨level, opening ++ .text ")" :: tail⟩]
  else ⟨level, opening⟩ :: rows ++ [⟨level, .text ")" :: tail⟩]

theorem namedArgs_eq_bracketed (level : Nat) (opening : List Fragment)
    (args : List (String × List Fragment)) :
    namedArgs level opening args [")"] =
      bracketed level opening (args.map fun (name, value) => namedArg (level + 1) name value) [] := by
  simp [namedArgs, bracketed]

theorem isWhole_bracketed {level : Nat} {opening tail : List Fragment} {rows : List Line}
    (hopening : ∀ f ∈ opening, f.IsWhole n) (hrows : ∀ l ∈ rows, l.IsWhole n)
    (htail : ∀ f ∈ tail, f.IsWhole n) :
    ∀ l ∈ bracketed level opening rows tail, l.IsWhole n := by
  have hclosing : ∀ f ∈ Fragment.text ")" :: tail, f.IsWhole n :=
    List.forall_mem_cons.mpr ⟨Fragment.isWhole_text (by decide), htail⟩
  unfold bracketed
  split
  · rw [List.forall_mem_singleton]
    exact List.forall_mem_append.mpr ⟨hopening, hclosing⟩
  · simp only [List.cons_append, List.forall_mem_cons, List.forall_mem_append]
    exact ⟨hopening, hrows, hclosing, by simp⟩

theorem level_pos_of_mem_bracketed {level : Nat} {opening tail : List Fragment} {rows : List Line}
    (hlevel : 0 < level) (hrows : ∀ l ∈ rows, 0 < l.level) :
    ∀ l ∈ bracketed level opening rows tail, 0 < l.level := by
  unfold bracketed
  split
  · exact List.forall_mem_singleton.mpr hlevel
  · simp only [List.cons_append, List.forall_mem_cons, List.forall_mem_append]
    exact ⟨hlevel, hrows, hlevel, by simp⟩

theorem readBrackets?_bracketed {level : Nat} {opening : List Fragment} {rows : List Line}
    (tail : List Fragment) (hu : '(' ∉ u)
    (hopening : (margin level ++ Fragment.renderAll n opening).toList = u ++ ['('])
    (hrows : List.Forall₂ (fun l item => IsRow read (l.printed n) item) rows items) :
    ∃ first others, bracketed level opening rows tail = first :: others ∧
      u ++ ['('] <+: first.printed n ∧
      (∀ l ∈ others, l ∈ rows ∨ l = ⟨level, .text ")" :: tail⟩) ∧
      ∀ below, readBrackets? read (first.printed n) (others.map (Line.printed n) ++ below) =
        some ⟨items, (Fragment.renderAll n tail).toList, below⟩ := by
  have hclosing : ((Line.mk level (.text ")" :: tail)).printed n).dropWhile (· = ' ') =
      ')' :: (Fragment.renderAll n tail).toList := by
    rw [Line.dropWhile_printed] <;> simp [Fragment.renderAll, Fragment.render]
  cases rows with
  | nil =>
    -- the only line is both the opening and the closing one
    cases hrows
    have hfirst : (Line.mk level (opening ++ .text ")" :: tail)).printed n =
        u ++ '(' :: ')' :: (Fragment.renderAll n tail).toList := by
      rw [Line.printed, Fragment.renderAll_append, ← String.append_assoc, String.toList_append,
        hopening]
      simp [Fragment.renderAll, Fragment.render]
    refine ⟨_, [], rfl, ?_, by simp, fun below => ?_⟩
    · rw [hfirst]
      exact ⟨')' :: (Fragment.renderAll n tail).toList, by simp⟩
    · rw [hfirst]
      exact readBrackets?_closed hu below
  | cons row rows =>
    have hfirst : (Line.mk level opening).printed n = u ++ ['('] := hopening
    refine ⟨_, row :: rows ++ [⟨level, .text ")" :: tail⟩], rfl, ?_, fun l hl => ?_,
      fun below => ?_⟩
    · exact ⟨[], by rw [List.append_nil, hfirst]⟩
    · exact (List.mem_append.mp hl).imp_right List.mem_singleton.mp
    · rw [hfirst, List.map_append, List.append_assoc]
      exact readBrackets?_append hu (List.forall₂_map_left_iff.mpr hrows) hclosing below

theorem identifier_ne_nil {name : String} (h : IsIdentifier name.toList) :
    (identifier name).toList ≠ [] := by
  intro hnil
  have hword := word_identifier h
  rw [hnil] at hword
  exact h.1 (by rw [← hword]; rfl)

theorem isRow_of_identifier {item : α} {l : Line} {name : String} {s : List Char}
    (hname : IsIdentifier name.toList)
    (hl : (Fragment.renderAll n l.content).toList = (identifier name).toList ++ s)
    (hread : read ((identifier name).toList ++ s) = some item) :
    IsRow read (l.printed n) item := by
  have hhead : ∀ c ∈ ',' :: ' ' :: lineMarks, ((identifier name).toList ++ s).head? ≠ some c := by
    intro c hc h
    rw [List.head?_append_of_ne_nil _ (identifier_ne_nil hname)] at h
    exact notMem_identifier hname hc (List.mem_of_mem_head? h)
  rw [IsRow, Line.dropWhile_printed (by rw [hl]; exact hhead ' ' (by decide)), hl]
  exact ⟨hhead ')' (by decide), hread⟩

theorem isRow_namedArg (level : Nat) {name : String} (hname : IsIdentifier name.toList) :
    IsRow readArg? ((namedArg level (identifier name) [.text (identifier name)]).printed n)
      (name, name) := by
  refine isRow_of_identifier hname ?_ (readArg?_forwarded hname)
  simp [namedArg, Fragment.renderAll, Fragment.render]

theorem isWhole_namedArg {level : Nat} {name : String} (hname : IsIdentifier name.toList) :
    (namedArg level (identifier name) [.text (identifier name)]).IsWhole n := by
  have hidentifier := Fragment.isWhole_identifier (n := n) hname
  simp only [Line.IsWhole, namedArg, List.cons_append, List.nil_append, List.forall_mem_cons]
  exact ⟨hidentifier, Fragment.isWhole_text (by decide), hidentifier,
    Fragment.isWhole_text (by decide), by simp⟩

def forwardedCall (opening : List Fragment) (names : List String) (tail : List Fragment) :
    List Line :=
  bracketed 1 opening
    (names.map fun name => namedArg 2 (identifier name) [.text (identifier name)]) tail

variable {opening tail : List Fragment} {names : List String}

theorem isWhole_forwardedCall (hopening : ∀ f ∈ opening, f.IsWhole n)
    (hnames : ∀ name ∈ names, IsIdentifier name.toList) (htail : ∀ f ∈ tail, f.IsWhole n) :
    ∀ l ∈ forwardedCall opening names tail, l.IsWhole n :=
  isWhole_bracketed hopening
    (List.forall_mem_map.mpr fun name hname => isWhole_namedArg (hnames name hname)) htail

theorem exists_forwardedCall_lines (hu : '(' ∉ u)
    (hopening : (margin 1 ++ Fragment.renderAll n opening).toList = u ++ ['('])
    (hnames : ∀ name ∈ names, IsIdentifier name.toList) (tail : List Fragment) :
    ∃ first others, (forwardedCall opening names tail).map (Line.printed n) = first :: others ∧
      u ++ ['('] <+: first ∧ (∀ line ∈ first :: others, line.head? ≠ some 'i') ∧
      ∀ below, readBrackets? readArg? first (others ++ below) =
        some ⟨names.map fun name => (name, name), (Fragment.renderAll n tail).toList, below⟩ := by
  obtain ⟨first, others, hlines, hfirst, -, hread⟩ := readBrackets?_bracketed tail hu hopening
    (forall₂_isRow_map fun name hname => isRow_namedArg 2 (hnames name hname))
  have hindented : ∀ l ∈ first :: others, 0 < l.level := by
    rw [← hlines]
    exact level_pos_of_mem_bracketed Nat.one_pos (List.forall_mem_map.mpr fun name _ => Nat.two_pos)
  rw [forwardedCall, hlines]
  exact ⟨_, _, rfl, hfirst, Line.head?_ne_of_level_pos hindented, hread⟩

end

def calledName (text : List Char) : String := String.ofList (text.takeWhile (· ≠ '('))

theorem calledName_append {name : String} (hname : '(' ∉ name.toList) (rest : List Char) :
    calledName (name.toList ++ '(' :: rest) = name := by
  have htake : (name.toList ++ '(' :: rest).takeWhile (· ≠ '(') = name.toList := by
    refine Text.takeWhile_append_of_halts (fun c hc => ?_) (Text.halts_cons (by decide))
    simpa using fun heq : c = '(' => hname (heq ▸ hc)
  rw [calledName, htake, String.ofList_toList]

def functionMark : List Char := "internal fun ".toList

section

variable {α : Type} {read : List Char → Option α} {rows : List Line} {items : List α} {n : Naming}

theorem renderAll_opening (name : String) :
    (margin 0 ++ Fragment.renderAll n [.text s!"internal fun {name}("]).toList =
      (functionMark ++ name.toList) ++ ['('] := by
  have hopening : Fragment.renderAll n [.text s!"internal fun {name}("] =
      "internal fun " ++ name ++ "(" := String.append_empty
  rw [hopening, String.toList_append, String.toList_append, String.toList_append, toList_margin]
  rfl

theorem exists_function_lines {name : String} (hname : '(' ∉ name.toList)
    (hlevel : ∀ l ∈ rows, 0 < l.level)
    (hrows : List.Forall₂ (fun l item => IsRow read (l.printed n) item) rows items)
    (tail : List Fragment) :
    ∃ first others, (bracketed 0 [.text s!"internal fun {name}("] rows tail).map (Line.printed n) =
        first :: others ∧
      functionMark ++ name.toList ++ ['('] <+: first ∧ (∀ line ∈ others, line.head? ≠ some 'i') ∧
      ∀ below, readBrackets? read first (others ++ below) =
        some ⟨items, (Fragment.renderAll n tail).toList, below⟩ := by
  have hbracket : '(' ∉ functionMark ++ name.toList := fun h =>
    (List.mem_append.mp h).elim (by decide) hname
  obtain ⟨first, others, hlines, hfirst, hothers, hread⟩ :=
    readBrackets?_bracketed tail hbracket (renderAll_opening name) hrows
  rw [hlines, List.map_cons]
  refine ⟨_, _, rfl, hfirst, ?_, hread⟩
  rw [List.forall_mem_map]
  intro l hl
  rcases hothers l hl with hrow | rfl
  · rw [Line.head?_printed (hlevel l hrow)]
    decide
  · simp [Line.printed_eq, Fragment.renderAll, Fragment.render]

end

/-- The lines that functions begin in, each with the lines below it. -/
def functions : List (List Char) → List (List Char × List (List Char))
  | [] => []
  | line :: below =>
    if functionMark <+: line then (line, below) :: functions below else functions below

theorem functions_cons {line : List Char} (h : functionMark <+: line)
    (below : List (List Char)) : functions (line :: below) = (line, below) :: functions below :=
  if_pos h

theorem functions_append_of_head {ls : List (List Char)}
    (h : ∀ line ∈ ls, line.head? ≠ some 'i') (below : List (List Char)) :
    functions (ls ++ below) = functions below := by
  induction ls with
  | nil => rfl
  | cons line ls ih =>
    rw [List.forall_mem_cons] at h
    have hmark : ¬functionMark <+: line := by
      rintro ⟨rest, rfl⟩
      exact h.1 rfl
    rw [List.cons_append, functions, if_neg hmark, ih h.2]

theorem functions_eq_nil {ls : List (List Char)} (h : ∀ line ∈ ls, line.head? ≠ some 'i') :
    functions ls = [] := by
  simpa [functions] using functions_append_of_head h []

theorem exists_functions_append (above below : List (List Char)) :
    ∃ fs, functions (above ++ below) = fs ++ functions below := by
  induction above with
  | nil => exact ⟨[], rfl⟩
  | cons line above ih =>
    obtain ⟨fs, hfs⟩ := ih
    rw [List.cons_append, functions, hfs]
    split
    · exact ⟨(line, above ++ below) :: fs, rfl⟩
    · exact ⟨fs, rfl⟩

def lastFunction? : List (List Char) → Option (List Char × List (List Char))
  | [] => none
  | line :: below =>
    (lastFunction? below).or (if functionMark <+: line then some (line, below) else none)

theorem lastFunction?_eq (ls : List (List Char)) : lastFunction? ls = (functions ls).getLast? := by
  induction ls with
  | nil => rfl
  | cons line below ih =>
    rw [lastFunction?, functions, ih]
    split
    · rw [List.getLast?_cons]
      cases (functions below).getLast? <;> rfl
    · rw [Option.or_none]

theorem lastFunction?_append {line : List Char} {below : List (List Char)}
    (hline : functionMark <+: line) (h : ∀ line ∈ below, line.head? ≠ some 'i')
    (above : List (List Char)) : lastFunction? (above ++ line :: below) = some (line, below) := by
  obtain ⟨fs, hfs⟩ := exists_functions_append above (line :: below)
  rw [lastFunction?_eq, hfs, functions_cons hline, functions_eq_nil h, List.getLast?_concat]

end Source
end StateHolders
