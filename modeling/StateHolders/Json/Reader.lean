import StateHolders.Json.Basic
import StateHolders.Text.Cut
import StateHolders.Text.Scan

/-! Reading JSON text. The text is strict: no byte order mark, comment or trailing comma, no raw
control character and no lone surrogate in a string, no number out of the range of doubles, no
nesting deeper than `maxDepth`, and nothing after the value. Of fields with one name the last
counts. Each reader returns the text it leaves with a proof that it is shorter. -/

namespace StateHolders.Json

def maxDepth : Nat := 127

open Text (Rest Remainder)

def isSpace (c : Char) : Bool := c = ' ' || c = '\n' || c = '\r' || c = '\t'

def skipSpace (s : List Char) : List Char := s.dropWhile isSpace

def accept (c : Char) (s : List Char) : Option (Rest s) := Text.accept isSpace c s

def hexDigit? (c : Char) : Option Nat :=
  if '0' ≤ c ∧ c ≤ '9' then some (c.toNat - '0'.toNat)
  else if 'a' ≤ c ∧ c ≤ 'f' then some (c.toNat - 'a'.toNat + 10)
  else if 'A' ≤ c ∧ c ≤ 'F' then some (c.toNat - 'A'.toNat + 10)
  else none

def codeUnit? (a b c d : Char) : Option Nat := do
  return ((← hexDigit? a) * 16 + (← hexDigit? b)) * 256 + (← hexDigit? c) * 16 + (← hexDigit? d)

def readEscape : (s : List Char) → Option (Char × Rest s)
  | '"' :: r => some ('"', ⟨r, by simp⟩)
  | '\\' :: r => some ('\\', ⟨r, by simp⟩)
  | '/' :: r => some ('/', ⟨r, by simp⟩)
  | 'b' :: r => some ('\x08', ⟨r, by simp⟩)
  | 'f' :: r => some ('\x0c', ⟨r, by simp⟩)
  | 'n' :: r => some ('\n', ⟨r, by simp⟩)
  | 'r' :: r => some ('\r', ⟨r, by simp⟩)
  | 't' :: r => some ('\t', ⟨r, by simp⟩)
  | 'u' :: a :: b :: c :: d :: r =>
    match codeUnit? a b c d with
    | none => none
    | some unit =>
      if unit < 0xD800 ∨ 0xDFFF < unit then some (Char.ofNat unit, ⟨r, by simp; omega⟩)
      else if 0xDBFF < unit then none
      else
        match r with
        | '\\' :: 'u' :: e :: f :: g :: h :: r' =>
          match codeUnit? e f g h with
          | none => none
          | some low =>
            if 0xDC00 ≤ low ∧ low ≤ 0xDFFF then
              some (Char.ofNat (0x10000 + (unit - 0xD800) * 0x400 + (low - 0xDC00)),
                ⟨r', by simp; omega⟩)
            else none
        | _ => none
  | _ => none

/-- Reads a string after its opening quote; `acc` holds what was read, the last character first. -/
def readChars (acc : List Char) (s : List Char) : Option (String × Rest s) :=
  match s with
  | [] => none
  | '"' :: r => some (String.ofList acc.reverse, ⟨r, by simp⟩)
  | '\\' :: r =>
    match readEscape r with
    | none => none
    | some (c, ⟨r₁, h₁⟩) =>
      match readChars (c :: acc) r₁ with
      | none => none
      | some (text, ⟨r₂, h₂⟩) => some (text, ⟨r₂, by simp; omega⟩)
  | c :: r =>
    if c.toNat < 0x20 then none
    else
      match readChars (c :: acc) r with
      | none => none
      | some (text, ⟨r₂, h₂⟩) => some (text, ⟨r₂, by simp; omega⟩)
termination_by s.length

def readString (s : List Char) : Option (String × Rest s) :=
  match accept '"' s with
  | none => none
  | some ⟨r, h⟩ =>
    match readChars [] r with
    | none => none
    | some (text, ⟨r', h'⟩) => some (text, ⟨r', by omega⟩)

structure Numeral where
  negative : Bool
  digits : List Char
  fraction : Option (List Char)
  exponent : Option Int

def wordLimit : Nat := 0x10000000000000000

def minIntegerMagnitude : Nat := 0x8000000000000000

def digitValue (c : Char) : Nat := c.toNat - '0'.toNat

/-- Appends digits to a number while 64 bits hold it; returns also how many are left over. -/
def appendDigits (n : Nat) : List Char → Nat × Nat
  | [] => (n, 0)
  | c :: cs =>
    if n * 10 + digitValue c < wordLimit then appendDigits (n * 10 + digitValue c) cs
    else (n, cs.length + 1)

/-- A number that is not whole is its leading digits times a power of ten. -/
def Numeral.value? (n : Numeral) : Option Number :=
  let (integer, dropped) := appendDigits 0 n.digits
  if n.fraction = none ∧ n.exponent = none ∧ dropped = 0 ∧
      (if n.negative then 0 < integer ∧ integer ≤ minIntegerMagnitude else True) then
    some (.whole (if n.negative then -integer else integer))
  else
    let fraction := n.fraction.getD []
    let (significand, unused) := appendDigits integer fraction
    let exponent := (dropped : Int) - (fraction.length - unused : Nat) + n.exponent.getD 0
    match Decimal.Magnitude.ofNat? significand with
    | none => none
    | some x => (x.scale? exponent).map (.double n.negative ·)

def takeDigits (s : List Char) : Option (List Char × Rest s) := Text.takeRun Char.isDigit s

def readFraction (s : List Char) :
    Option (Option (List Char) × Remainder s) :=
  match s with
  | '.' :: r =>
    match takeDigits r with
    | none => none
    | some (ds, ⟨r', h⟩) => some (some ds, ⟨r', by simp; omega⟩)
  | s => some (none, .all s)

def takeExponent (negative : Bool) (s : List Char) : Option (Int × Rest s) :=
  match takeDigits s with
  | none => none
  | some (ds, r) =>
    let n : Nat := ds.foldl (fun n c => n * 10 + digitValue c) 0
    some (if negative then -n else n, r)

def readExponent (s : List Char) :
    Option (Option Int × Remainder s) :=
  match s with
  | [] => some (none, .all [])
  | c :: r =>
    if c = 'e' ∨ c = 'E' then
      match r with
      | '-' :: r₁ =>
        match takeExponent true r₁ with
        | none => none
        | some (n, ⟨r', h⟩) => some (some n, ⟨r', by simp; omega⟩)
      | '+' :: r₁ =>
        match takeExponent false r₁ with
        | none => none
        | some (n, ⟨r', h⟩) => some (some n, ⟨r', by simp; omega⟩)
      | r =>
        match takeExponent false r with
        | none => none
        | some (n, ⟨r', h⟩) => some (some n, ⟨r', by simp; omega⟩)
    else some (none, .all (c :: r))

def readUnsigned (negative : Bool) (s : List Char) : Option (Number × Rest s) :=
  match takeDigits s with
  | none => none
  | some (digits, ⟨r₁, h₁⟩) =>
    if digits.head? = some '0' ∧ digits.length ≠ 1 then none
    else
      match readFraction r₁ with
      | none => none
      | some (fraction, ⟨r₂, h₂⟩) =>
        match readExponent r₂ with
        | none => none
        | some (exponent, ⟨r₃, h₃⟩) =>
          match Numeral.value? ⟨negative, digits, fraction, exponent⟩ with
          | none => none
          | some n => some (n, ⟨r₃, by omega⟩)

def readNumber (s : List Char) : Option (Number × Rest s) :=
  match s with
  | '-' :: r =>
    match readUnsigned true r with
    | none => none
    | some (n, ⟨r', h⟩) => some (n, ⟨r', by simp; omega⟩)
  | s => readUnsigned false s

def takeWord (word : List Char) (s : List Char) : Option (Rest s) :=
  match Text.afterPrefix? word s with
  | none => none
  | some r => if h : r.length < s.length then some ⟨r, h⟩ else none

def readScalar (s : List Char) : Option (Json × Rest s) :=
  if s.head? = some '"' then (readString s).map fun (text, r) => (.string text, r)
  else if s.head? = some 'n' then (takeWord ['n', 'u', 'l', 'l'] s).map (.null, ·)
  else if s.head? = some 't' then (takeWord ['t', 'r', 'u', 'e'] s).map (.bool true, ·)
  else if s.head? = some 'f' then (takeWord ['f', 'a', 'l', 's', 'e'] s).map (.bool false, ·)
  else (readNumber s).map fun (n, r) => (.number n, r)

/-- Adds a field in front of those that follow it, unless one of them has its name. -/
def addField (name : String) (value : Json) (later : List (String × Json)) :
    List (String × Json) :=
  if later.any (·.1 = name) then later else (name, value) :: later

mutual
def readValue (depth : Nat) (s : List Char) : Option (Json × Rest s) :=
  match accept '[' s with
  | some ⟨r, h⟩ =>
    match depth with
    | 0 => none
    | depth + 1 =>
      match accept ']' r with
      | some ⟨r', h'⟩ => some (.array [], ⟨r', by omega⟩)
      | none =>
        match readItems depth r with
        | none => none
        | some (items, ⟨r', h'⟩) => some (.array items, ⟨r', by omega⟩)
  | none =>
    match accept '\x7b' s with
    | some ⟨r, h⟩ =>
      match depth with
      | 0 => none
      | depth + 1 =>
        match accept '\x7d' r with
        | some ⟨r', h'⟩ => some (.object [], ⟨r', by omega⟩)
        | none =>
          match readFields depth r with
          | none => none
          | some (fields, ⟨r', h'⟩) => some (.object fields, ⟨r', by omega⟩)
    | none =>
      match readScalar (skipSpace s) with
      | none => none
      | some (v, ⟨r, h⟩) =>
        some (v, ⟨r, Nat.lt_of_lt_of_le h (List.dropWhile_suffix isSpace).length_le⟩)
termination_by (s.length, 0)

def readItems (depth : Nat) (s : List Char) : Option (List Json × Rest s) :=
  match readValue depth s with
  | none => none
  | some (v, ⟨r, h⟩) =>
    match accept ',' r with
    | some ⟨r₁, h₁⟩ =>
      match readItems depth r₁ with
      | none => none
      | some (vs, ⟨r₂, h₂⟩) => some (v :: vs, ⟨r₂, by omega⟩)
    | none =>
      match accept ']' r with
      | none => none
      | some ⟨r₁, h₁⟩ => some ([v], ⟨r₁, by omega⟩)
termination_by (s.length, 1)

def readFields (depth : Nat) (s : List Char) : Option (List (String × Json) × Rest s) :=
  match readString s with
  | none => none
  | some (name, ⟨r₀, h₀⟩) =>
    match accept ':' r₀ with
    | none => none
    | some ⟨r₁, h₁⟩ =>
      match readValue depth r₁ with
      | none => none
      | some (v, ⟨r, h⟩) =>
        match accept ',' r with
        | some ⟨r₂, h₂⟩ =>
          match readFields depth r₂ with
          | none => none
          | some (later, ⟨r₃, h₃⟩) => some (addField name v later, ⟨r₃, by omega⟩)
        | none =>
          match accept '\x7d' r with
          | none => none
          | some ⟨r₂, h₂⟩ => some ([(name, v)], ⟨r₂, by omega⟩)
termination_by (s.length, 1)
end

def parse? (text : String) : Option Json :=
  match readValue maxDepth text.toList with
  | none => none
  | some (v, r) => if skipSpace r.1 = [] then some v else none

end StateHolders.Json
