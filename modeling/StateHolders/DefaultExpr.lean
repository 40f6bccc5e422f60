import StateHolders.Source.Line

/-! Default expressions of factory parameters. -/

namespace StateHolders

open Source (Fragment Naming Symbol)

inductive DefaultExpr where
  | verbatim (expr : String)
  | frameworkCall (args : List String)
  | injectorCall (injector : String) (type : TypeExpr) (args : List String)
  | providerCall (provider : String) (args : List String)
  | ambientScope
deriving DecidableEq, Repr

namespace DefaultExpr

def joinArgs (args : List String) : String := String.intercalate ", " args

def fragments : DefaultExpr → List Fragment
  | .verbatim expr => [expr]
  | .frameworkCall [] => [.symbol .koinInject, "()"]
  | .frameworkCall args =>
    [.symbol .koinInject, " \x7b ", .symbol .parametersOf, "(", joinArgs args, ") \x7d"]
  | .injectorCall injector type args => [injector, "<", .type type, ">(", joinArgs args, ")"]
  | .providerCall provider args => [provider, "(", joinArgs args, ")"]
  | .ambientScope => [.symbol .rememberCoroutineScope, "()"]

def render (n : Naming) (e : DefaultExpr) : String := Fragment.renderAll n e.fragments

def symbols : DefaultExpr → List Symbol
  | .frameworkCall [] => [.koinInject]
  | .frameworkCall _ => [.koinInject, .parametersOf]
  | .ambientScope => [.rememberCoroutineScope]
  | .verbatim _ | .injectorCall .. | .providerCall .. => []

def typeArg? : DefaultExpr → Option TypeExpr
  | .injectorCall _ type _ => some type
  | _ => none

end DefaultExpr
end StateHolders
