import StateHolders.Factory
import StateHolders.Saver.Plan
import StateHolders.Saver.FreshName
import StateHolders.Source.Quoted

/-! The saver of a persistent holder and its persistent factory. The saver takes the parameters
that are not restored; it writes the planned entries to a map and reads them back with a cast. -/

namespace StateHolders.Saver

open Source

def functionName (simple : String) : String := s!"get{simple}Saver"

def persistentFactoryName (simple : String) : String := "rememberSaveable" ++ simple

def carriedParam (p : Param) : Line := ⟨1, [.text (identifier p.name), ": ", .type p.type, ","]⟩

def header (c : ResolvedHolder) : List Line :=
  let opening : Fragment := .text s!"internal fun {functionName c.holder.simpleName}("
  let closing : List Fragment :=
    [")", ": ", .symbol .saver, "<", c.classType, ", Any> = ", .symbol .mapSaver, "("]
  if c.holder.carriedParams.isEmpty then [⟨0, opening :: closing⟩]
  else ⟨0, [opening]⟩ :: c.holder.carriedParams.map carriedParam ++ [⟨0, closing⟩]

def saveEntry (inst : String) (e : SaveEntry) : Line :=
  ⟨3, [.text (quoted e.key), " to ", .text inst, ".", .text (identifier e.property), ","]⟩

def saveLambda (h : Holder) (plan : Plan) : List Line :=
  if plan.save.isEmpty then [⟨1, ["save = \x7b _ -> emptyMap() \x7d,"]⟩]
  else
    let inst := freshName (h.params.map Param.name) "instance"
    [⟨1, [.text s!"save = \x7b {inst} ->"]⟩, ⟨2, ["mapOf("]⟩] ++ plan.save.map (saveEntry inst) ++
      [⟨2, [")"]⟩, ⟨1, ["\x7d,"]⟩]

def restoreValue (map : String) (arg : RestoreArg) (type : TypeExpr) : List Fragment :=
  match arg.source with
  | .map key => [.text map, "[", .text (quoted key), "] as ", .type type]
  | .forward => [.text (identifier arg.param)]

def restoreLambda (c : ResolvedHolder) (plan : Plan) : List Line :=
  let map := freshName (c.holder.params.map Param.name) "map"
  let lambdaParam := if plan.readsMap then map else "_"
  let args := (plan.restore.zip c.holder.params).map fun (arg, p) =>
    (identifier arg.param, restoreValue map arg p.type)
  ⟨1, [.text s!"restore = \x7b {lambdaParam} ->"]⟩ :: namedArgs 2 [c.classType, "("] args [")"] ++
    [⟨1, ["\x7d,"]⟩]

def saver (c : ResolvedHolder) (plan : Plan) : List Line :=
  header c ++ saveLambda c.holder plan ++ restoreLambda c plan ++ [⟨0, [")"]⟩]

def invalidationKey (p : Param) : Line := ⟨1, [.text (identifier p.name), ","]⟩

def persistentFactory (c : ResolvedHolder) (plan : Plan) : List Line :=
  let simple := c.holder.simpleName
  c.signature (persistentFactoryName simple)
      [": ", c.classType, " = ", .symbol .rememberSaveable, "("] ++
    c.holder.invalidationKeys.map invalidationKey ++
    namedArgs 1 [.text s!"saver = {functionName simple}("] (forwarded plan.carried) ["),"] ++
    [⟨0, [") \x7b"]⟩] ++ c.construction ++ [⟨0, ["\x7d"]⟩]

def body (c : ResolvedHolder) : List Line :=
  let plan := Plan.ofHolder c.holder
  saver c plan ++ [Line.blank] ++ persistentFactory c plan

def names (c : ResolvedHolder) : ImportTable :=
  [Symbol.saver, .mapSaver, .rememberSaveable].foldl ImportTable.addSymbol c.signatureNames

def file (c : ResolvedHolder) (stampedAt : Option Nat) : File where
  package := c.holder.package
  name := "RememberSaveable" ++ c.holder.simpleName
  text := frame (names c) (body c) stampedAt

end StateHolders.Saver
