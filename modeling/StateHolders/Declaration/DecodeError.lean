import StateHolders.TypeExpr.Reader
import StateHolders.Json.Basic
import StateHolders.InjectionMode
import StateHolders.Text.Shown

/-! Why a JSON value is no declaration. -/

namespace StateHolders

inductive Expectation where
  | string
  | sequence
  | boolean
  | int64
  | variantName
  | record (name : String)
  | tagged (name : String)
deriving DecidableEq, Repr

def Expectation.text : Expectation → String
  | .string => "a string"
  | .sequence => "a sequence"
  | .boolean => "a boolean"
  | .int64 => "i64"
  | .variantName => "variant identifier"
  | .record name => s!"struct {name}"
  | .tagged name => s!"internally tagged enum {name}"

inductive DecodeError where
  | wrongKind (found : Json) (expected : Expectation)
  | outOfRange (value : Int)
  | missingField (name : String)
  | unknownVariant (name : String) (known : List String)
  | tooShort (length : Nat) (shape : String) (size : Nat)
  /-- Of a marker the number of its fields is known, of other records it is not told. -/
  | tooLong (length : Nat) (size : Option Nat)
  | badType (error : TypeExpr.SyntaxError)
  | noType
  | unknownMode (text : String)
deriving Repr

def Json.description : Json → String
  | .null => "null"
  | .bool value => s!"boolean `{value}`"
  | .number (.whole n) => s!"integer `{n}`"
  | .number n => s!"floating point `{n.text}`"
  | .string s => s!"string {Text.shown s}"
  | .array _ => "sequence"
  | .object _ => "map"

namespace DecodeError

def countElements (n : Nat) : String := s!"{n} element" ++ if n = 1 then "" else "s"

def quoteAll (names : List String) : String :=
  String.intercalate ", " (names.map fun name => s!"`{name}`")

def message : DecodeError → String
  | .wrongKind found expected =>
    s!"invalid type: {found.description}, expected {expected.text}"
  | .outOfRange value => s!"invalid value: integer `{value}`, expected {Expectation.int64.text}"
  | .missingField name => s!"missing field `{name}`"
  | .unknownVariant name known => s!"unknown variant `{name}`, expected one of {quoteAll known}"
  | .tooShort length shape size =>
    s!"invalid length {length}, expected {shape} with {countElements size}"
  | .tooLong length none => s!"invalid length {length}, expected fewer elements in array"
  | .tooLong length (some size) =>
    s!"invalid length {length}, expected {countElements size} in sequence"
  | .badType error => error.message
  | .noType => "data did not match any variant of untagged enum TypeRefRepr"
  | .unknownMode text => InjectionMode.unknownMessage text

end DecodeError
end StateHolders
