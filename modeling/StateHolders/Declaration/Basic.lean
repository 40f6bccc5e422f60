import StateHolders.TypeExpr.Basic
import StateHolders.InjectionMode

/-! Declarations of classes as they are written: nothing in them has been checked. -/

namespace StateHolders

inductive Marker where
  | literalValue (expr : String)
  | literalInt (value : Int64)
  | literalString (value : String)
  | literalBool (value : Bool)
  | frameworkInject (args : List String)
  | namedInject (args : List String)
  | customProvide (provider : String) (args : List String)
  | invalidationKey
  | persistedKey (key : String)
deriving DecidableEq, Repr

namespace Marker

def name : Marker → String
  | .literalValue _ => "literal-value"
  | .literalInt _ => "literal-int"
  | .literalString _ => "literal-string"
  | .literalBool _ => "literal-bool"
  | .frameworkInject _ => "framework-inject"
  | .namedInject _ => "named-inject"
  | .customProvide _ _ => "custom-provide"
  | .invalidationKey => "invalidation-key"
  | .persistedKey _ => "persisted-key"

/-- Exclusive markers say where a parameter's value comes from; it may have at most one. -/
def isExclusive : Marker → Bool
  | .invalidationKey => false
  | _ => true

def persistedKey? : Marker → Option String
  | .persistedKey key => some key
  | _ => none

end Marker

inductive ClassMarker where
  | remember
  | rememberSaveable
  | injector (name : String)
  | injectionMode (mode : InjectionMode)
deriving DecidableEq, Repr

namespace ClassMarker

def isAnnotation : ClassMarker → Bool
  | .remember | .rememberSaveable => true
  | _ => false

def injector? : ClassMarker → Option String
  | .injector name => some name
  | _ => none

def injectionMode? : ClassMarker → Option InjectionMode
  | .injectionMode mode => some mode
  | _ => none

end ClassMarker

structure DeclaredParam where
  name : String
  type : TypeExpr
  markers : List Marker
deriving DecidableEq, Repr

structure DeclaredProperty where
  name : String
  markers : List Marker
deriving DecidableEq, Repr

structure Declaration where
  qualifiedName : String
  givenPackage : Option String
  params : List DeclaredParam
  properties : List DeclaredProperty
  markers : List ClassMarker
deriving DecidableEq, Repr

namespace Declaration

/-- The package of the qualified name stands in for one that is not given. -/
def package (d : Declaration) : String :=
  d.givenPackage.getD (QualifiedName.packageName d.qualifiedName)

def simpleName (d : Declaration) : String := QualifiedName.simpleName d.qualifiedName

def isAnnotated (d : Declaration) : Bool := d.markers.any ClassMarker.isAnnotation

end Declaration
end StateHolders
