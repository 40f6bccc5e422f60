import StateHolders.Declaration.Basic
import StateHolders.Declaration.DecodeError

/-! Declarations from JSON. An object is decoded in the byte order of its field names, and fields
that are missing are reported after all faults in those present, in declaration order. An array
stands for a record as the list of its fields in declaration order. -/

namespace StateHolders.Decode

abbrev Decoder (α : Type) := Json → Except DecodeError α

def string : Decoder String
  | .string s => .ok s
  | v => .error (.wrongKind v .string)

def boolean : Decoder Bool
  | .bool b => .ok b
  | v => .error (.wrongKind v .boolean)

def int64 : Decoder Int64
  | .number (.whole n) =>
    if -0x8000000000000000 ≤ n ∧ n < 0x8000000000000000 then .ok (Int64.ofInt n)
    else .error (.outOfRange n)
  | v => .error (.wrongKind v .int64)

def list (decode : Decoder α) : Decoder (List α)
  | .array items => items.mapM decode
  | v => .error (.wrongKind v .sequence)

def nullable (decode : Decoder α) : Decoder (Option α)
  | .null => .ok none
  | v => (decode v).map some

def optional (decode : Decoder α) : Option Json → Except DecodeError (Option α)
  | none => .ok none
  | some v => (decode v).map some

def orElse (e : DecodeError) : Option α → Except DecodeError α
  | none => .error e
  | some a => .ok a

def required (name : String) : Option α → Except DecodeError α := orElse (.missingField name)

def atMost (size : Nat) (items : List Json) (shown : Option Nat) : Except DecodeError Unit :=
  if size < items.length then .error (.tooLong items.length shown) else .ok ()

def injectionMode : Decoder InjectionMode := fun v => do
  let text ← string v
  orElse (.unknownMode text) (InjectionMode.ofName? text)

structure TypeFields where
  name : Option String
  args : Option (List TypeExpr)
  nullable : Option Bool

mutual
/-- A type is its text, or an object with its name as it is. -/
def type : Decoder TypeExpr
  | .string text => (TypeExpr.parse text).mapError .badType
  | .object fields =>
    match typeFields fields with
    | some ⟨some name, args, nullable⟩ => .ok ⟨name, args.getD [], nullable.getD false⟩
    | _ => .error .noType
  | _ => .error .noType

def typeFields : List (String × Json) → Option TypeFields
  | [] => some ⟨none, none, none⟩
  | field :: rest => do typeField field (← typeFields rest)

def typeField : String × Json → TypeFields → Option TypeFields
  | (key, value), fields =>
    if key = "name" then (string value).toOption.map fun name => { fields with name := some name }
    else if key = "args" then (typeArgs value).map fun args => { fields with args := some args }
    else if key = "nullable" then
      (boolean value).toOption.map fun nullable => { fields with nullable := some nullable }
    else some fields

def typeArgs : Json → Option (List TypeExpr)
  | .array items => typeList items
  | _ => none

def typeList : List Json → Option (List TypeExpr)
  | [] => some []
  | v :: vs =>
    match type v, typeList vs with
    | .ok t, some ts => some (t :: ts)
    | _, _ => none
end

inductive Content where
  | fields (fields : List (String × Json))
  | items (items : List Json)

def tagged (name : String) (known : List String) : Json → Except DecodeError (String × Content)
  | .object fields => do
    let kind ← required "kind" (fields.lookup "kind")
    return (← variant kind, .fields (fields.filter (·.1 ≠ "kind")))
  | .array [] => .error (.missingField "kind")
  | .array (kind :: items) => do return (← variant kind, .items items)
  | v => .error (.wrongKind v (.tagged name))
where
  variant : Json → Except DecodeError String
    | .string kind =>
      if kind ∈ known then .ok kind else .error (.unknownVariant kind known)
    | v => .error (.wrongKind v .variantName)

def bare (value : α) : Content → Except DecodeError α
  | .fields _ => .ok value
  | .items items => do
    atMost 0 items (some 0)
    return value

def single (variant field : String) (decode : Decoder α) : Content → Except DecodeError α
  | .fields fields => do required field (← optional decode (fields.lookup field))
  | .items items => do
    let value ← orElse (.tooShort 0 s!"struct variant {variant}" 1) (← optional decode items[0]?)
    atMost 1 items (some 1)
    return value

def arguments : Content → Except DecodeError (List String)
  | .fields fields => do return (← optional (list string) (fields.lookup "args")).getD []
  | .items items => do
    let args ← optional (list string) items[0]?
    atMost 1 items (some 1)
    return args.getD []

def provision : Content → Except DecodeError (String × List String)
  | .fields fields => do
    let args ← optional (list string) (fields.lookup "args")
    let provider ← optional string (fields.lookup "provider")
    return (← required "provider" provider, args.getD [])
  | .items items => do
    let provider ← optional string items[0]?
    let provider ← orElse (.tooShort 0 "struct variant Marker::CustomProvide" 2) provider
    let args ← optional (list string) items[1]?
    atMost 2 items (some 2)
    return (provider, args.getD [])

def markerKinds : List String :=
  ["literal-value", "literal-int", "literal-string", "literal-bool", "framework-inject",
   "named-inject", "custom-provide", "invalidation-key", "persisted-key"]

def marker : Decoder Marker := fun v => do
  let (kind, content) ← tagged "Marker" markerKinds v
  match kind with
  | "literal-value" => .literalValue <$> single "Marker::LiteralValue" "expr" string content
  | "literal-int" => .literalInt <$> single "Marker::LiteralInt" "value" int64 content
  | "literal-string" => .literalString <$> single "Marker::LiteralString" "value" string content
  | "literal-bool" => .literalBool <$> single "Marker::LiteralBool" "value" boolean content
  | "framework-inject" => .frameworkInject <$> arguments content
  | "named-inject" => .namedInject <$> arguments content
  | "custom-provide" => do
    let (provider, args) ← provision content
    return .customProvide provider args
  | "invalidation-key" => bare .invalidationKey content
  | _ => .persistedKey <$> single "Marker::PersistedKey" "key" string content

def classMarkerKinds : List String :=
  ["remember", "remember-saveable", "injector", "injection-mode"]

def classMarker : Decoder ClassMarker := fun v => do
  let (kind, content) ← tagged "ClassMarker" classMarkerKinds v
  match kind with
  | "remember" => bare .remember content
  | "remember-saveable" => bare .rememberSaveable content
  | "injector" => .injector <$> single "ClassMarker::Injector" "name" string content
  | _ => .injectionMode <$> single "ClassMarker::InjectionMode" "mode" injectionMode content

def param : Decoder DeclaredParam
  | .object fields => do
    let markers ← optional (list marker) (fields.lookup "markers")
    let name ← optional string (fields.lookup "name")
    let type ← optional type (fields.lookup "type")
    return ⟨← required "name" name, ← required "type" type, markers.getD []⟩
  | .array items => do
    let name ← orElse (tooShort 0) (← optional string items[0]?)
    let type ← orElse (tooShort 1) (← optional type items[1]?)
    let markers ← optional (list marker) items[2]?
    atMost 3 items none
    return ⟨name, type, markers.getD []⟩
  | v => .error (.wrongKind v (.record "ParamDecl"))
where
  tooShort (length : Nat) : DecodeError := .tooShort length "struct ParamDecl" 3

def property : Decoder DeclaredProperty
  | .object fields => do
    let markers ← optional (list marker) (fields.lookup "markers")
    let name ← optional string (fields.lookup "name")
    return ⟨← required "name" name, markers.getD []⟩
  | .array items => do
    let name ← orElse (.tooShort 0 "struct PropertyDecl" 2) (← optional string items[0]?)
    let markers ← optional (list marker) items[1]?
    atMost 2 items none
    return ⟨name, markers.getD []⟩
  | v => .error (.wrongKind v (.record "PropertyDecl"))

def declaration : Decoder Declaration
  | .object fields => do
    let markers ← optional (list classMarker) (fields.lookup "markers")
    let givenPackage ← optional (nullable string) (fields.lookup "namespace")
    let params ← optional (list param) (fields.lookup "params")
    let properties ← optional (list property) (fields.lookup "properties")
    let name ← optional string (fields.lookup "qualifiedName")
    return ⟨← required "qualifiedName" name, givenPackage.join, params.getD [],
      properties.getD [], markers.getD []⟩
  | .array items => do
    let name ← orElse (.tooShort 0 "struct TypeDecl" 5) (← optional string items[0]?)
    let givenPackage ← optional (nullable string) items[1]?
    let params ← optional (list param) items[2]?
    let properties ← optional (list property) items[3]?
    let markers ← optional (list classMarker) items[4]?
    atMost 5 items none
    return ⟨name, givenPackage.join, params.getD [], properties.getD [], markers.getD []⟩
  | v => .error (.wrongKind v (.record "TypeDecl"))

/-- An array is a list of declarations, and any other value is one declaration. -/
def declarations : Decoder (List Declaration)
  | .array items => items.mapM declaration
  | v => (declaration v).map ([·])

end StateHolders.Decode
