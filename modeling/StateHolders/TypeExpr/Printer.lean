import StateHolders.TypeExpr.Basic

/-! The canonical text of a type expression: no blank but the one after each comma. -/

namespace StateHolders.TypeExpr

mutual
def print : TypeExpr → String
  | ⟨name, args, nullable⟩ => name ++ printBracketed args ++ if nullable then "?" else ""

def printBracketed : List TypeExpr → String
  | [] => ""
  | t :: ts => "<" ++ t.print ++ printRest ts

def printRest : List TypeExpr → String
  | [] => ">"
  | t :: ts => ", " ++ t.print ++ printRest ts
end

end StateHolders.TypeExpr
