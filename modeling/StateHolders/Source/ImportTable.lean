import StateHolders.Source.Line

/-! The names that one generated file prints. A name is printed by its simple name, and imported
where that is needed, unless another registered name has the same simple name; then it is printed
in full. Bare names count too, so no import captures one. -/

namespace StateHolders.Source

structure ImportTable where
  package : String
  names : List String
deriving DecidableEq, Repr

namespace ImportTable

open QualifiedName

def empty (package : String) : ImportTable := ⟨package, []⟩

def addName (t : ImportTable) (name : String) : ImportTable :=
  if name ∈ t.names then t else { t with names := t.names ++ [name] }

def addNames (t : ImportTable) (names : List String) : ImportTable := names.foldl addName t

/-- Registers every name of a type but stars. -/
def addType (t : ImportTable) (type : TypeExpr) : ImportTable :=
  t.addNames (type.names.filter (· ≠ "*"))

def addSymbol (t : ImportTable) (s : Symbol) : ImportTable := t.addName s.qualifiedName

def sharing (t : ImportTable) (simple : String) : List String :=
  t.names.filter (simpleName · = simple)

def isAmbiguous (t : ImportTable) (simple : String) : Bool := 1 < (t.sharing simple).length

def isBare (name : String) : Bool := simpleName name = name

def nameFor (t : ImportTable) (name : String) : String :=
  if isBare name || !t.isAmbiguous (simpleName name) then simpleName name else name

def needsImport (t : ImportTable) (name : String) : Bool :=
  packageName name ≠ "" && packageName name ≠ t.package && !isImplicitPackage (packageName name)

def imports (t : ImportTable) : List String :=
  (t.names.filter fun name => !t.isAmbiguous (simpleName name) && t.needsImport name).mergeSort

def typeName (t : ImportTable) (type : TypeExpr) : String := (type.rename t.nameFor).print

def symbolName (t : ImportTable) (s : Symbol) : String := t.nameFor s.qualifiedName

def naming (t : ImportTable) : Naming := ⟨t.typeName, t.symbolName⟩

end ImportTable
end StateHolders.Source
