import StateHolders.Holder.Basic
import StateHolders.Problem
import StateHolders.Text.Blank

/-! Whether the members of a holder fit together. The saveable keys of a persistent holder come
first, then injected defaults, then providers; the first problem found is the answer. -/

namespace StateHolders

structure KeyCount where
  key : String
  params : Nat
  properties : Nat
deriving DecidableEq, Repr

namespace KeyCount

def addParam (c : KeyCount) : KeyCount := { c with params := c.params + 1 }

def addProperty (c : KeyCount) : KeyCount := { c with properties := c.properties + 1 }

/-- Counts a key once more. A key that has no count yet gets one behind all others. -/
def tally (add : KeyCount → KeyCount) : List KeyCount → String → List KeyCount
  | [], key => [add ⟨key, 0, 0⟩]
  | c :: counts, key => if c.key = key then add c :: counts else c :: tally add counts key

end KeyCount

namespace Holder

def missingPropertyProblem? (h : Holder) : Option Problem :=
  h.params.findSome? fun p =>
    match p.saveableKey with
    | some key =>
      if key ∈ h.propertyKeys then none
      else some (.missingSaveableProperty h.qualifiedName p.name key)
    | none => none

def keyCounts (h : Holder) : List KeyCount :=
  h.propertyKeys.foldl (KeyCount.tally .addProperty)
    (h.paramKeys.foldl (KeyCount.tally .addParam) [])

def unbalancedKeyProblem? (h : Holder) : Option Problem :=
  h.keyCounts.findSome? fun c =>
    if c.params = c.properties then none
    else some (.saveableKeyMismatch h.qualifiedName c.key c.params c.properties)

def saveableKeyProblem? (h : Holder) : Option Problem :=
  match h.mode with
  | .plain => none
  | .persistent => h.missingPropertyProblem? <|> h.unbalancedKeyProblem?

def lacksInjection (injector : Option String) (mode : InjectionMode) : DefaultPolicy → Bool
  | .namedInject _ => injector.isNone && !mode.allowsFramework
  | .frameworkInject _ => !mode.allowsFramework
  | _ => false

def injectionProblem? (h : Holder) (mode : InjectionMode) : Option Problem :=
  h.params.findSome? fun p =>
    if lacksInjection h.injector mode p.policy then
      some (.unresolvableDefault h.qualifiedName p.name p.policy.kind)
    else none

def lacksProvider : DefaultPolicy → Bool
  | .customProvide provider _ => Text.isBlankText provider
  | _ => false

def providerProblem? (h : Holder) : Option Problem :=
  h.params.findSome? fun p =>
    if lacksProvider p.policy then some (.missingProviderName h.qualifiedName p.name) else none

def problem? (h : Holder) (run : InjectionMode) : Option Problem :=
  h.saveableKeyProblem? <|> h.injectionProblem? (h.effectiveMode run) <|> h.providerProblem?

end Holder
end StateHolders
