import StateHolders.Holder.Basic
import StateHolders.DefaultExpr
import StateHolders.Problem
import StateHolders.Text.Blank

/-! The default expressions of a holder's parameters. -/

namespace StateHolders

structure DefaultContext where
  holder : String
  injector : Option String
  mode : InjectionMode
deriving DecidableEq, Repr

/-- A required parameter has no default. Without an injector, a parameter that asks for one is
injected by the framework where the mode allows it. -/
def Param.default? (ctx : DefaultContext) (p : Param) : Except Problem (Option DefaultExpr) :=
  let unresolvable : Problem := .unresolvableDefault ctx.holder p.name p.policy.kind
  match p.policy with
  | .required => .ok none
  | .literal expr => .ok (some (.verbatim expr))
  | .frameworkInject args =>
    if ctx.mode.allowsFramework then .ok (some (.frameworkCall args)) else .error unresolvable
  | .namedInject args =>
    match ctx.injector with
    | some injector => .ok (some (.injectorCall injector p.type args))
    | none =>
      if ctx.mode.allowsFramework then .ok (some (.frameworkCall args)) else .error unresolvable
  | .customProvide provider args =>
    if Text.isBlankText provider then .error (.missingProviderName ctx.holder p.name)
    else .ok (some (.providerCall provider args))
  | .ambientScope => .ok (some .ambientScope)

structure ResolvedHolder where
  holder : Holder
  defaults : List (Option DefaultExpr)
deriving DecidableEq, Repr

namespace ResolvedHolder

def params (c : ResolvedHolder) : List (Param × Option DefaultExpr) :=
  c.holder.params.zip c.defaults

end ResolvedHolder

namespace Holder

def defaultContext (h : Holder) (run : InjectionMode) : DefaultContext :=
  ⟨h.qualifiedName, h.injector, h.effectiveMode run⟩

def resolve (h : Holder) (run : InjectionMode) : Except Problem ResolvedHolder :=
  (h.params.mapM (Param.default? (h.defaultContext run))).map (⟨h, ·⟩)

end Holder
end StateHolders
