import StateHolders.Text.Cut

/-! Dotted names: the last segment is the simple name, what stands before its dot the package. -/

namespace StateHolders.QualifiedName

def simpleName (name : String) : String := String.ofList (Text.afterLast '.' name.toList)

def packageName (name : String) : String := String.ofList (Text.beforeLast '.' name.toList)

def segments (name : String) : List String :=
  ((name.toList.splitOn '.').filter (· ≠ [])).map String.ofList

end StateHolders.QualifiedName
