import StateHolders.QualifiedName

/-! Type expressions: a name as written, generic arguments, and a mark for types that admit null. -/

namespace StateHolders

structure TypeExpr where
  name : String
  args : List TypeExpr
  nullable : Bool
deriving Repr

namespace TypeExpr

def named (name : String) : TypeExpr := ⟨name, [], false⟩

/-- The projection `*`, which stands for any type. -/
def isStar (t : TypeExpr) : Bool := t.name = "*"

def simpleName (t : TypeExpr) : String := QualifiedName.simpleName t.name

def packageName (t : TypeExpr) : String := QualifiedName.packageName t.name

mutual
def names : TypeExpr → List String
  | ⟨name, args, _⟩ => name :: namesOfArgs args

def namesOfArgs : List TypeExpr → List String
  | [] => []
  | t :: ts => t.names ++ namesOfArgs ts
end

mutual
/-- The expression with `f` applied to every name but stars. -/
def rename (f : String → String) : TypeExpr → TypeExpr
  | ⟨name, args, nullable⟩ => ⟨if name = "*" then name else f name, renameArgs f args, nullable⟩

def renameArgs (f : String → String) : List TypeExpr → List TypeExpr
  | [] => []
  | t :: ts => t.rename f :: renameArgs f ts
end

mutual
def decideEq : (a b : TypeExpr) → Decidable (a = b)
  | ⟨n, as, q⟩, ⟨m, bs, r⟩ =>
    match decEq n m, decideEqArgs as bs, decEq q r with
    | isTrue hn, isTrue ha, isTrue hq => isTrue (by rw [hn, ha, hq])
    | isFalse h, _, _ => isFalse fun e => h (TypeExpr.mk.inj e).1
    | _, isFalse h, _ => isFalse fun e => h (TypeExpr.mk.inj e).2.1
    | _, _, isFalse h => isFalse fun e => h (TypeExpr.mk.inj e).2.2

def decideEqArgs : (as bs : List TypeExpr) → Decidable (as = bs)
  | [], [] => isTrue rfl
  | [], _ :: _ | _ :: _, [] => isFalse nofun
  | a :: as, b :: bs =>
    match decideEq a b, decideEqArgs as bs with
    | isTrue h, isTrue hs => isTrue (by rw [h, hs])
    | isFalse h, _ => isFalse fun e => h (List.cons.inj e).1
    | _, isFalse h => isFalse fun e => h (List.cons.inj e).2
end

instance : DecidableEq TypeExpr := decideEq

end TypeExpr
end StateHolders
