import StateHolders.TypeExpr.Reader
import StateHolders.Proofs.Text.CharClass
import StateHolders.Proofs.Text.Scan

/-! The grammar of type expressions, as texts that spell a type:

  whole ::= type blanks
  type  ::= blanks name [blanks '<' type (blanks ',' type)* blanks '>'] [blanks '?']

A name is a star, or name characters in which every dot stands between two that are not dots. -/

namespace StateHolders

def Text.Blanks (s : List Char) : Prop := ∀ c ∈ s, Text.isBlank c = true

namespace TypeExpr

open Text (Blanks Halts)

def IsName (n : List Char) : Prop :=
  n = ['*'] ∨ n ≠ [] ∧ (∀ c ∈ n, isNameChar c = true) ∧
    n.head? ≠ some '.' ∧ n.getLast? ≠ some '.' ∧ ¬['.', '.'] <:+: n

inductive SpellsMark : List Char → Bool → Prop
  | absent : SpellsMark [] false
  | present {w : List Char} (hw : Blanks w) : SpellsMark (w ++ ['?']) true

mutual
inductive Spells : List Char → TypeExpr → Prop
  | intro {w n a m : List Char} {args : List TypeExpr} {nullable : Bool} (hw : Blanks w)
      (hn : IsName n) (ha : SpellsArgs a args) (hm : SpellsMark m nullable) :
      Spells (w ++ n ++ a ++ m) ⟨String.ofList n, args, nullable⟩

/-- The arguments in their brackets. There are no brackets around nothing. -/
inductive SpellsArgs : List Char → List TypeExpr → Prop
  | absent : SpellsArgs [] []
  | bracketed {w a : List Char} {args : List TypeExpr} (hw : Blanks w) (ha : SpellsItems a args) :
      SpellsArgs (w ++ '<' :: a) args

inductive SpellsItems : List Char → List TypeExpr → Prop
  | last {s w : List Char} {t : TypeExpr} (ht : Spells s t) (hw : Blanks w) :
      SpellsItems (s ++ w ++ ['>']) [t]
  | next {s w a : List Char} {t : TypeExpr} {ts : List TypeExpr} (ht : Spells s t) (hw : Blanks w)
      (ha : SpellsItems a ts) : SpellsItems (s ++ w ++ ',' :: a) (t :: ts)
end

/-- A whole text that spells a type; blanks may follow it. -/
def SpellsWhole (s : List Char) (t : TypeExpr) : Prop :=
  ∃ u w, s = u ++ w ∧ Spells u t ∧ Blanks w

theorem hasDoubledDot_iff {s : List Char} : hasDoubledDot s = true ↔ ['.', '.'] <:+: s := by
  fun_induction hasDoubledDot s with
  | case1 s => exact iff_of_true rfl ⟨[], s, rfl⟩
  | case2 c s hs ih =>
    rw [ih, List.infix_cons_iff]
    refine ⟨Or.inr, fun h => h.resolve_left ?_⟩
    rintro ⟨v, hv⟩
    obtain ⟨rfl, rfl⟩ := List.cons.inj hv
    exact hs v rfl rfl
  | case3 => simp

theorem isName_iff {n : List Char} :
    IsName n ↔ n = ['*'] ∨
      n ≠ [] ∧ (∀ c ∈ n, isNameChar c = true) ∧ hasStrayDot n = false := by
  have hdot : hasStrayDot n = false ↔
      n.head? ≠ some '.' ∧ n.getLast? ≠ some '.' ∧ ¬['.', '.'] <:+: n := by
    rw [← hasDoubledDot_iff]
    simp [hasStrayDot, and_assoc]
  rw [hdot, IsName]

instance (n : List Char) : Decidable (IsName n) :=
  decidable_of_iff (n = ['*'] ∨ n ≠ [] ∧ n.all isNameChar = true ∧ hasStrayDot n = false) (by
    rw [isName_iff, List.all_eq_true])

/-! Marks, blanks and name characters are three kinds of characters. -/

def marks : List Char := ['*', '<', '>', ',', '?']

theorem isBlank_eq_false_of_mem_marks {c : Char} (h : c ∈ marks) : Text.isBlank c = false := by
  have hall : (marks.all fun c => !Text.isBlank c) = true := by decide
  simpa using List.all_eq_true.mp hall c h

theorem isNameChar_eq_false_of_mem_marks {c : Char} (h : c ∈ marks) : isNameChar c = false := by
  have hall : (marks.all fun c => !isNameChar c) = true := by decide +kernel
  simpa using List.all_eq_true.mp hall c h

theorem isBlank_eq_false_of_isNameChar {c : Char} (h : isNameChar c = true) :
    Text.isBlank c = false := by
  have hother : Text.isBlank '_' = false ∧ Text.isBlank '.' = false ∧ Text.isBlank '$' = false := by
    decide
  simp only [isNameChar, Bool.or_eq_true, decide_eq_true_eq] at h
  rcases h with ((h | rfl) | rfl) | rfl
  · cases hb : Text.isBlank c with
    | false => rfl
    | true => simp [Text.isAlphanumeric_eq_false_of_isBlank hb] at h
  · exact hother.1
  · exact hother.2.1
  · exact hother.2.2

end TypeExpr
end StateHolders
