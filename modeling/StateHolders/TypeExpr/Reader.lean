import StateHolders.TypeExpr.Basic
import StateHolders.Text.Alphanumeric
import StateHolders.Text.Blank
import StateHolders.Text.Cut

/-! Reading type expressions from text. Blanks may stand before every name and mark. Each reader
returns the text it leaves with a proof that it is shorter, so reading ends; a reader that fails
says why and leaves the text from the point of failure. -/

namespace StateHolders.TypeExpr

inductive Fault where
  | missingName
  | malformedName
  | unclosedArguments
  | trailingText
deriving DecidableEq, Repr

def Fault.message : Fault → String
  | .missingName => "expected a type name"
  | .malformedName => "malformed qualified name"
  | .unclosedArguments => "expected `,` or `>`"
  | .trailingText => "trailing characters"

structure SyntaxError where
  input : String
  offset : Nat
  fault : Fault
deriving DecidableEq, Repr

def SyntaxError.message (e : SyntaxError) : String :=
  s!"invalid type `{e.input}` at offset {e.offset}: {e.fault.message}"

def isNameChar (c : Char) : Bool := Text.isAlphanumeric c || c = '_' || c = '.' || c = '$'

def hasDoubledDot : List Char → Bool
  | '.' :: '.' :: _ => true
  | _ :: s => hasDoubledDot s
  | [] => false

/-- A dot that does not stand between two other characters of the name. -/
def hasStrayDot (name : List Char) : Bool :=
  name.head? = some '.' || name.getLast? = some '.' || hasDoubledDot name

open Text (Rest Remainder)

structure Stop where
  fault : Fault
  rest : List Char
deriving DecidableEq, Repr

def accept (c : Char) (s : List Char) : Option (Rest s) := Text.accept Text.isBlank c s

def afterName {s : List Char} (r : Rest (Text.skipBlanks s)) : Rest s :=
  ⟨r.1, Nat.lt_of_lt_of_le r.2 (Text.length_skipBlanks_le s)⟩

/-- A name is a star, or as many name characters as there are. -/
def readName (s : List Char) : Except Stop (String × Rest s) :=
  match accept '*' s with
  | some r => .ok ("*", r)
  | none =>
    match Text.takeRun isNameChar (Text.skipBlanks s) with
    | none => .error ⟨.missingName, Text.skipBlanks s⟩
    | some (name, r) =>
      if hasStrayDot name then .error ⟨.malformedName, r.1⟩
      else .ok (String.ofList name, afterName r)

def readNullable (name : String) (args : List TypeExpr) (s : List Char) :
    TypeExpr × Remainder s :=
  match accept '?' s with
  | some r => (⟨name, args, true⟩, r.remainder)
  | none => (⟨name, args, false⟩, .all s)

mutual
def readType (s : List Char) : Except Stop (TypeExpr × Rest s) :=
  match readName s with
  | .error stop => .error stop
  | .ok (name, ⟨r, hr⟩) =>
    match accept '<' r with
    | none =>
      let (t, ⟨r', h⟩) := readNullable name [] r
      .ok (t, ⟨r', by omega⟩)
    | some ⟨r₁, h₁⟩ =>
      match readArgs r₁ with
      | .error stop => .error stop
      | .ok (args, ⟨r₂, h₂⟩) =>
        let (t, ⟨r', h⟩) := readNullable name args r₂
        .ok (t, ⟨r', by omega⟩)
termination_by (s.length, 0)

def readArgs (s : List Char) : Except Stop (List TypeExpr × Rest s) :=
  match readType s with
  | .error stop => .error stop
  | .ok (t, ⟨r, hr⟩) =>
    match accept ',' r with
    | some ⟨r₁, h₁⟩ =>
      match readArgs r₁ with
      | .error stop => .error stop
      | .ok (ts, ⟨r₂, h₂⟩) => .ok (t :: ts, ⟨r₂, by omega⟩)
    | none =>
      match accept '>' r with
      | some ⟨r₁, h₁⟩ => .ok ([t], ⟨r₁, by omega⟩)
      | none => .error ⟨.unclosedArguments, Text.skipBlanks r⟩
termination_by (s.length, 1)
end

def readAll (s : List Char) : Except Stop TypeExpr :=
  match readType s with
  | .error stop => .error stop
  | .ok (t, r) =>
    match Text.skipBlanks r.1 with
    | [] => .ok t
    | rest => .error ⟨.trailingText, rest⟩

def parse (text : String) : Except SyntaxError TypeExpr :=
  (readAll text.toList).mapError fun stop =>
    ⟨text, Text.utf8Length text.toList - Text.utf8Length stop.rest, stop.fault⟩

end StateHolders.TypeExpr
