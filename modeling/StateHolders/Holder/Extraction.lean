import StateHolders.Holder.Basic
import StateHolders.Declaration.Basic
import StateHolders.Problem
import StateHolders.Source.Quoted
import StateHolders.Source.Symbol

/-! The holder that a declaration describes. Every parameter is looked at, so all problems of a
declaration are found at once, those of parameters first. -/

namespace StateHolders

def DefaultPolicy.ofMarker : Marker → DefaultPolicy
  | .literalValue expr => .literal expr
  | .literalInt value => .literal (toString value.toInt)
  | .literalString value => .literal (Source.quoted value)
  | .literalBool value => .literal (if value then "true" else "false")
  | .frameworkInject args => .frameworkInject args
  | .namedInject args => .namedInject args
  | .customProvide provider args => .customProvide provider args
  | .invalidationKey | .persistedKey _ => .required

/-- The ambient scope is recognised by the simple name of its type. -/
def TypeExpr.isAmbientScope (t : TypeExpr) : Bool :=
  t.simpleName = QualifiedName.simpleName Source.ambientScopeType

def Param.ofDeclared (holder : String) (p : DeclaredParam) : Except Problem Param :=
  let param (policy : DefaultPolicy) (key : Option String) : Param :=
    ⟨p.name, p.type, policy, p.markers.contains .invalidationKey, key⟩
  match p.markers.filter Marker.isExclusive with
  | [] => .ok (param (if p.type.isAmbientScope then .ambientScope else .required) none)
  | [m] =>
    if m.persistedKey?.isSome && p.type.isAmbientScope then
      .error (.invalidAmbientScopeUsage holder p.name)
    else .ok (param (.ofMarker m) m.persistedKey?)
  | markers => .error (.conflictingDefaultPolicy holder p.name (markers.map Marker.name))

def distinct : List String → List String
  | [] => []
  | x :: xs => x :: (distinct xs).filter (· ≠ x)

namespace Declaration

/-- The injectors that a class names; an empty name is none. -/
def injectors (d : Declaration) : List String :=
  distinct ((d.markers.filterMap ClassMarker.injector?).filter (· ≠ ""))

def injectorProblems (d : Declaration) : List Problem :=
  if 1 < d.injectors.length then [.conflictingInjector d.qualifiedName d.injectors] else []

def savedProperties (d : Declaration) : List SavedProperty :=
  d.properties.flatMap fun p => (p.markers.filterMap Marker.persistedKey?).map (⟨p.name, ·⟩)

def mode (d : Declaration) : GenerationMode :=
  if .rememberSaveable ∈ d.markers then .persistent else .plain

/-- Of several injection modes the last one counts. -/
def injectionMode? (d : Declaration) : Option InjectionMode :=
  (d.markers.filterMap ClassMarker.injectionMode?).getLast?

end Declaration

def errorOf? : Except ε α → Option ε
  | .error e => some e
  | .ok _ => none

def Holder.ofDeclaration (d : Declaration) : Except (List Problem) Holder :=
  let params := d.params.map (Param.ofDeclared d.qualifiedName)
  let problems := params.filterMap errorOf? ++ d.injectorProblems
  if problems.isEmpty then
    .ok {
      qualifiedName := d.qualifiedName
      package := d.package
      params := params.filterMap Except.toOption
      savedProperties := d.savedProperties
      injector := d.injectors.head?
      mode := d.mode
      injectionMode := d.injectionMode? }
  else .error problems

end StateHolders
