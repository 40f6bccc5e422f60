import StateHolders.Holder.Defaults
import StateHolders.Source.File

/-! The memoizing factory of a holder: a composable function that takes the constructor parameters,
remembers the instance under its invalidation keys, and calls the constructor with every parameter
by name. -/

namespace StateHolders

open Source

namespace Factory

def functionName (simple : String) : String := "remember" ++ simple

end Factory

namespace ResolvedHolder

def classType (c : ResolvedHolder) : Fragment := .type (.named c.holder.qualifiedName)

def registerParam (t : ImportTable) (p : Param × Option DefaultExpr) : ImportTable :=
  match p.2 with
  | none => t.addType p.1.type
  | some e =>
    e.symbols.foldl ImportTable.addSymbol
      (e.typeArg?.toList.foldl ImportTable.addType (t.addType p.1.type))

def signatureNames (c : ResolvedHolder) : ImportTable :=
  c.params.foldl registerParam
    (((ImportTable.empty c.holder.package).addSymbol .composable).addType
      (.named c.holder.qualifiedName))

def defaultClause : Option DefaultExpr → List Fragment
  | none => []
  | some e => .text " = " :: e.fragments

def signatureParam (p : Param × Option DefaultExpr) : Line :=
  ⟨1, .text (identifier p.1.name) :: .text ": " :: .type p.1.type ::
    defaultClause p.2 ++ [.text ","]⟩

def signature (c : ResolvedHolder) (name : String) (tail : List Fragment) : List Line :=
  ⟨0, ["@", .symbol .composable]⟩ ::
    if c.holder.params.isEmpty then [⟨0, .text s!"internal fun {name}()" :: tail⟩]
    else
      ⟨0, [.text s!"internal fun {name}("]⟩ :: c.params.map signatureParam ++ [⟨0, ")" :: tail⟩]

def construction (c : ResolvedHolder) : List Line :=
  namedArgs 1 [c.classType, "("] (forwarded (c.holder.params.map Param.name)) [")"]

end ResolvedHolder

namespace Factory

def keyList (keys : List String) : String :=
  if keys.isEmpty then "" else "(" ++ String.intercalate ", " keys ++ ")"

def body (c : ResolvedHolder) : List Line :=
  let keys := c.holder.invalidationKeys.map fun p => identifier p.name
  c.signature (functionName c.holder.simpleName)
      [": ", c.classType, " = ", .symbol .remember, .text (keyList keys), " \x7b"] ++
    c.construction ++ [⟨0, ["\x7d"]⟩]

def names (c : ResolvedHolder) : ImportTable := c.signatureNames.addSymbol .remember

def file (c : ResolvedHolder) (stampedAt : Option Nat) : File where
  package := c.holder.package
  name := "Remember" ++ c.holder.simpleName
  text := frame (names c) (body c) stampedAt

end Factory
end StateHolders
