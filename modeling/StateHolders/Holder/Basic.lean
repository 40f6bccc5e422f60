import StateHolders.TypeExpr.Basic
import StateHolders.InjectionMode

/-! State holders: annotated classes whose markers have been sorted out, so that every constructor
parameter has exactly one default policy. -/

namespace StateHolders

inductive DefaultPolicy where
  | required
  | literal (expr : String)
  | frameworkInject (args : List String)
  | namedInject (args : List String)
  | customProvide (provider : String) (args : List String)
  | ambientScope
deriving DecidableEq, Repr

def DefaultPolicy.kind : DefaultPolicy → String
  | .required => "none"
  | .literal _ => "literal"
  | .frameworkInject _ => "framework-inject"
  | .namedInject _ => "named-inject"
  | .customProvide _ _ => "custom-provide"
  | .ambientScope => "ambient-scope"

structure Param where
  name : String
  type : TypeExpr
  policy : DefaultPolicy
  isInvalidationKey : Bool
  saveableKey : Option String
deriving DecidableEq, Repr

structure SavedProperty where
  name : String
  key : String
deriving DecidableEq, Repr

inductive GenerationMode where
  | plain
  | persistent
deriving DecidableEq, Repr

structure Holder where
  qualifiedName : String
  package : String
  params : List Param
  savedProperties : List SavedProperty
  injector : Option String
  mode : GenerationMode
  injectionMode : Option InjectionMode
deriving DecidableEq, Repr

namespace Holder

def simpleName (h : Holder) : String := QualifiedName.simpleName h.qualifiedName

def invalidationKeys (h : Holder) : List Param := h.params.filter Param.isInvalidationKey

def persistedParams (h : Holder) : List Param := h.params.filter (·.saveableKey.isSome)

def carriedParams (h : Holder) : List Param := h.params.filter (·.saveableKey.isNone)

def hasAmbientScope (h : Holder) : Bool := h.params.any (·.policy = .ambientScope)

/-- The class's own injection mode, where it has one, overrides that of the run. -/
def effectiveMode (h : Holder) (run : InjectionMode) : InjectionMode := h.injectionMode.getD run

def paramKeys (h : Holder) : List String := h.params.filterMap Param.saveableKey

def propertyKeys (h : Holder) : List String := h.savedProperties.map SavedProperty.key

end Holder
end StateHolders
