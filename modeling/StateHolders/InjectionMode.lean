/-! Whether the framework's own injection may stand in where a default asks for injection. -/

namespace StateHolders

inductive InjectionMode where
  | none
  | framework
deriving DecidableEq, Repr

namespace InjectionMode

def allowsFramework : InjectionMode → Bool
  | .none => false
  | .framework => true

def name : InjectionMode → String
  | .none => "none"
  | .framework => "frameworkCall"

def ofName? : String → Option InjectionMode
  | "none" => some .none
  | "frameworkCall" | "framework" | "koin" => some .framework
  | _ => Option.none

def unknownMessage (text : String) : String :=
  s!"unknown injection mode `{text}` (expected `none`, `framework` or `koin`)"

end InjectionMode
end StateHolders
