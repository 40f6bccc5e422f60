import StateHolders.Declaration.Basic
import StateHolders.TypeExpr.Printer
import StateHolders.Json.Basic

/-! The JSON form of declarations. A package that is not given is left out; every list is
written, also an empty one. -/

namespace StateHolders.Encode

def strings (values : List String) : Json := .array (values.map .string)

def marker (m : Marker) : Json :=
  .object (("kind", .string m.name) :: content m)
where
  content : Marker → List (String × Json)
    | .literalValue expr => [("expr", .string expr)]
    | .literalInt value => [("value", .number (.whole value.toInt))]
    | .literalString value => [("value", .string value)]
    | .literalBool value => [("value", .bool value)]
    | .frameworkInject args | .namedInject args => [("args", strings args)]
    | .customProvide provider args => [("provider", .string provider), ("args", strings args)]
    | .invalidationKey => []
    | .persistedKey key => [("key", .string key)]

def classMarker : ClassMarker → Json
  | .remember => .object [("kind", .string "remember")]
  | .rememberSaveable => .object [("kind", .string "remember-saveable")]
  | .injector name => .object [("kind", .string "injector"), ("name", .string name)]
  | .injectionMode mode =>
    .object [("kind", .string "injection-mode"), ("mode", .string mode.name)]

def type (t : TypeExpr) : Json := .string t.print

def param (p : DeclaredParam) : Json :=
  .object [("name", .string p.name), ("type", type p.type),
    ("markers", .array (p.markers.map marker))]

def property (p : DeclaredProperty) : Json :=
  .object [("name", .string p.name), ("markers", .array (p.markers.map marker))]

def declaration (d : Declaration) : Json :=
  .object (("qualifiedName", .string d.qualifiedName) ::
    (d.givenPackage.map fun package => ("namespace", .string package)).toList ++
    [("params", .array (d.params.map param)),
     ("properties", .array (d.properties.map property)),
     ("markers", .array (d.markers.map classMarker))])

def declarations (ds : List Declaration) : Json := .array (ds.map declaration)

end StateHolders.Encode
