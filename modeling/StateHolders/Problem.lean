import StateHolders.ErrorCode.Basic

/-! What is wrong with a class, as data: the kind of problem and the members concerned. -/

namespace StateHolders

inductive Problem where
  | conflictingDefaultPolicy (holder param : String) (markers : List String)
  | invalidAmbientScopeUsage (holder param : String)
  | conflictingInjector (holder : String) (names : List String)
  | unresolvableDefault (holder param policy : String)
  | missingProviderName (holder param : String)
  | saveableKeyMismatch (holder key : String) (paramCount propertyCount : Nat)
  | missingSaveableProperty (holder param key : String)
deriving DecidableEq, Repr

namespace Problem

def code : Problem → ErrorCode
  | .conflictingDefaultPolicy .. => .conflictingDefaultPolicy
  | .invalidAmbientScopeUsage .. => .invalidAmbientScopeUsage
  | .conflictingInjector .. => .conflictingInjector
  | .unresolvableDefault .. => .unresolvableDefault
  | .missingProviderName .. => .missingProviderName
  | .saveableKeyMismatch .. => .saveableKeyMismatch
  | .missingSaveableProperty .. => .missingSaveableProperty

def holder : Problem → String
  | .conflictingDefaultPolicy holder _ _ => holder
  | .invalidAmbientScopeUsage holder _ => holder
  | .conflictingInjector holder _ => holder
  | .unresolvableDefault holder _ _ => holder
  | .missingProviderName holder _ => holder
  | .saveableKeyMismatch holder _ _ _ => holder
  | .missingSaveableProperty holder _ _ => holder

def commaList (names : List String) : String := String.intercalate ", " names

def message : Problem → String
  | .conflictingDefaultPolicy holder param markers =>
    s!"parameter `{param}` of `{holder}` has conflicting default markers: {commaList markers}"
  | .invalidAmbientScopeUsage holder param =>
    s!"ambient-scope parameter `{param}` of `{holder}` cannot be persisted"
  | .conflictingInjector holder names =>
    s!"`{holder}` declares conflicting injectors: {commaList names}"
  | .unresolvableDefault holder param policy =>
    s!"no injector or framework injection available for parameter `{param}` of `{holder}` ({policy})"
  | .missingProviderName holder param =>
    s!"custom-provide marker on parameter `{param}` of `{holder}` has no provider name"
  | .saveableKeyMismatch holder key paramCount propertyCount =>
    s!"saveable keys of `{holder}` differ between parameters and properties at key \"{key}\" ({paramCount} parameter(s), {propertyCount} property(ies))"
  | .missingSaveableProperty holder param key =>
    s!"no property of `{holder}` carries saveable key \"{key}\" of parameter `{param}`"

end Problem
end StateHolders
