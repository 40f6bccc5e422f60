import StateHolders.TypeExpr.Printer
import StateHolders.Source.Symbol
import StateHolders.Source.Identifier

/-! Generated source as lines of fragments. A fragment is text, or a type or symbol whose printed
name is left to a naming, so that a line can be written before it is known what is imported. -/

namespace StateHolders.Source

structure Naming where
  type : TypeExpr → String
  symbol : Symbol → String

def Naming.asWritten : Naming := ⟨TypeExpr.print, Symbol.name⟩

inductive Fragment where
  | text (s : String)
  | type (t : TypeExpr)
  | symbol (s : Symbol)
deriving DecidableEq, Repr

instance : Coe String Fragment := ⟨.text⟩

namespace Fragment

def render (n : Naming) : Fragment → String
  | .text s => s
  | .type t => n.type t
  | .symbol s => n.symbol s

def renderAll (n : Naming) : List Fragment → String
  | [] => ""
  | f :: fs => f.render n ++ renderAll n fs

end Fragment

def margin (level : Nat) : String := String.ofList (List.replicate (4 * level) ' ')

structure Line where
  level : Nat
  content : List Fragment
deriving DecidableEq, Repr

namespace Line

def render (n : Naming) (l : Line) : String :=
  margin l.level ++ Fragment.renderAll n l.content ++ "\n"

def renderAll (n : Naming) : List Line → String
  | [] => ""
  | l :: ls => l.render n ++ renderAll n ls

def blank : Line := ⟨0, []⟩

end Line

def namedArg (level : Nat) (name : String) (value : List Fragment) : Line :=
  ⟨level, .text name :: .text " = " :: value ++ [.text ","]⟩

/-- Named arguments between an opening and a closing line. Without arguments both are one line. -/
def namedArgs (level : Nat) (opening : List Fragment) (args : List (String × List Fragment))
    (closing : List Fragment) : List Line :=
  if args.isEmpty then [⟨level, opening ++ closing⟩]
  else
    ⟨level, opening⟩ :: args.map (fun (name, value) => namedArg (level + 1) name value) ++
      [⟨level, closing⟩]

def forwarded (names : List String) : List (String × List Fragment) :=
  names.map fun name => (identifier name, [.text (identifier name)])

end StateHolders.Source
