import StateHolders.Holder.Basic

/-! What a saver stores and how it rebuilds an instance. -/

namespace StateHolders.Saver

structure SaveEntry where
  key : String
  property : String
deriving DecidableEq, Repr

inductive RestoreSource where
  | map (key : String)
  | forward
deriving DecidableEq, Repr

/-- A constructor argument: read from the saved map, or passed on from the saver's own parameter
of the same name. -/
structure RestoreArg where
  param : String
  source : RestoreSource
deriving DecidableEq, Repr

structure Plan where
  save : List SaveEntry
  restore : List RestoreArg
deriving DecidableEq, Repr

def RestoreArg.ofParam (p : Param) : RestoreArg :=
  ⟨p.name, match p.saveableKey with
    | some key => .map key
    | none => .forward⟩

namespace Plan

def ofHolder (h : Holder) : Plan where
  save := h.savedProperties.map fun p => ⟨p.key, p.name⟩
  restore := h.params.map RestoreArg.ofParam

def carried (p : Plan) : List String :=
  (p.restore.filter (·.source = .forward)).map RestoreArg.param

def readsMap (p : Plan) : Bool := p.restore.any (·.source ≠ .forward)

end Plan
end StateHolders.Saver
