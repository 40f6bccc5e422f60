/-! Identifiers in generated source. A hard keyword is an identifier only between backquotes. -/

namespace StateHolders.Source

def hardKeywords : List String :=
  ["as", "break", "class", "continue", "do", "else", "false", "for", "fun", "if", "in",
   "interface", "is", "null", "object", "package", "return", "super", "this", "throw", "true",
   "try", "typealias", "typeof", "val", "var", "when", "while"]

def identifier (name : String) : String := if name ∈ hardKeywords then s!"`{name}`" else name

end StateHolders.Source
