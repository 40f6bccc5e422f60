import StateHolders.Proofs.Saver.Reading
import StateHolders.Proofs.Source.Marked

/-! The files of a class with the names of its parameters and properties marked. -/

namespace StateHolders

open Source
open Source.Piece (only only_append)

namespace Source

def markedArg (level : Nat) (name : String) (value : List Mark) : MarkedLine :=
  ⟨level, .parameter name :: .fragment (.text " = ") :: value ++ [.fragment (.text ",")]⟩

def markedArgs (level : Nat) (opening : List Mark) (args : List (String × List Mark)) (closing : List Mark) :
    List MarkedLine :=
  if args.isEmpty then [⟨level, opening ++ closing⟩]
  else
    ⟨level, opening⟩ :: args.map (fun arg => markedArg (level + 1) arg.1 arg.2) ++
      [⟨level, closing⟩]

def markedForwarded (names : List String) : List (String × List Mark) :=
  names.map fun name => (name, [.parameter name])

end Source

namespace ResolvedHolder

def markedParam (p : Param × Option DefaultExpr) : MarkedLine :=
  ⟨1, .parameter p.1.name :: .fragment (.text ": ") :: .fragment (.type p.1.type) ::
    (defaultClause p.2).map .fragment ++ [.fragment (.text ",")]⟩

def markedSignature (c : ResolvedHolder) (name : String) (tail : List Mark) : List MarkedLine :=
  ⟨0, ["@", .fragment (.symbol .composable)]⟩ ::
    if c.holder.params.isEmpty then [⟨0, .fragment (.text s!"internal fun {name}()") :: tail⟩]
    else
      ⟨0, [.fragment (.text s!"internal fun {name}(")]⟩ :: c.params.map markedParam ++ [⟨0, ")" :: tail⟩]

def markedConstruction (c : ResolvedHolder) : List MarkedLine :=
  markedArgs 1 [c.classType, "("] (markedForwarded (c.holder.params.map Param.name)) [")"]

end ResolvedHolder

def Factory.marked (c : ResolvedHolder) : List MarkedLine :=
  c.markedSignature (functionName c.holder.simpleName)
      [": ", c.classType, " = ", .fragment (.symbol .remember),
        .keys (c.holder.invalidationKeys.map Param.name), " \x7b"] ++
    c.markedConstruction ++ [⟨0, ["\x7d"]⟩]

namespace Saver

def markedCarriedParam (p : Param) : MarkedLine :=
  ⟨1, [.parameter p.name, ": ", .fragment (.type p.type), ","]⟩

def markedHeader (c : ResolvedHolder) : List MarkedLine :=
  let opening : Mark := .fragment (.text s!"internal fun {functionName c.holder.simpleName}(")
  let closing : List Mark :=
    [")", ": ", .fragment (.symbol .saver), "<", c.classType, ", Any> = ", .fragment (.symbol .mapSaver), "("]
  if c.holder.carriedParams.isEmpty then [⟨0, opening :: closing⟩]
  else ⟨0, [opening]⟩ :: c.holder.carriedParams.map markedCarriedParam ++ [⟨0, closing⟩]

def markedSaveEntry (inst : String) (e : SaveEntry) : MarkedLine :=
  ⟨3, [.fragment (.text (quoted e.key)), " to ", .fragment (.text inst), ".", .property e.property, ","]⟩

def markedSaveLambda (h : Holder) (plan : Plan) : List MarkedLine :=
  if plan.save.isEmpty then [⟨1, ["save = \x7b _ -> emptyMap() \x7d,"]⟩]
  else
    let inst := freshName (h.params.map Param.name) "instance"
    [⟨1, [.fragment (.text s!"save = \x7b {inst} ->")]⟩, ⟨2, ["mapOf("]⟩] ++
      plan.save.map (markedSaveEntry inst) ++ [⟨2, [")"]⟩, ⟨1, ["\x7d,"]⟩]

def markedRestoreValue (map : String) (arg : RestoreArg) (type : TypeExpr) : List Mark :=
  match arg.source with
  | .map key => [.fragment (.text map), "[", .fragment (.text (quoted key)), "] as ", .fragment (.type type)]
  | .forward => [.parameter arg.param]

def markedRestoreLambda (c : ResolvedHolder) (plan : Plan) : List MarkedLine :=
  let map := freshName (c.holder.params.map Param.name) "map"
  let lambdaParam := if plan.readsMap then map else "_"
  let args := (plan.restore.zip c.holder.params).map fun (arg, p) =>
    (arg.param, markedRestoreValue map arg p.type)
  ⟨1, [.fragment (.text s!"restore = \x7b {lambdaParam} ->")]⟩ ::
    markedArgs 2 [c.classType, "("] args [")"] ++ [⟨1, ["\x7d,"]⟩]

def markedKey (p : Param) : MarkedLine := ⟨1, [.parameter p.name, ","]⟩

def markedFactory (c : ResolvedHolder) (plan : Plan) : List MarkedLine :=
  let simple := c.holder.simpleName
  c.markedSignature (persistentFactoryName simple)
      [": ", c.classType, " = ", .fragment (.symbol .rememberSaveable), "("] ++
    c.holder.invalidationKeys.map markedKey ++
    markedArgs 1 [.fragment (.text s!"saver = {functionName simple}(")] (markedForwarded plan.carried)
      ["),"] ++
    [⟨0, [") \x7b"]⟩] ++ c.markedConstruction ++ [⟨0, ["\x7d"]⟩]

def marked (c : ResolvedHolder) : List MarkedLine :=
  let plan := Plan.ofHolder c.holder
  markedHeader c ++ markedSaveLambda c.holder plan ++ markedRestoreLambda c plan ++ [⟨0, [")"]⟩] ++
    [⟨0, []⟩] ++ markedFactory c plan

end Saver

/-! Without their marks the lines are those of the files. -/

namespace Source

theorem toLine_markedArg (level : Nat) (name : String) (value : List Mark) :
    (markedArg level name value).toLine = namedArg level (identifier name) (value.map Mark.toFragment) := by
  simp [markedArg, MarkedLine.toLine, namedArg, Mark.toFragment]

theorem map_toLine_markedArgs (level : Nat) (opening : List Mark) (args : List (String × List Mark))
    (closing : List Mark) : (markedArgs level opening args closing).map MarkedLine.toLine =
      namedArgs level (opening.map Mark.toFragment)
        (args.map fun arg => (identifier arg.1, arg.2.map Mark.toFragment))
        (closing.map Mark.toFragment) := by
  unfold markedArgs namedArgs
  rw [List.isEmpty_map]
  split
  · rw [List.map_singleton, MarkedLine.toLine, List.map_append]
  · rw [List.map_append, List.map_cons, List.map_map, List.map_map]
    have hrows : (MarkedLine.toLine ∘ fun arg : String × List Mark => markedArg (level + 1) arg.1 arg.2) =
        (fun arg : String × List Fragment => namedArg (level + 1) arg.1 arg.2) ∘
          fun arg : String × List Mark => (identifier arg.1, arg.2.map Mark.toFragment) := by
      funext arg
      exact toLine_markedArg (level + 1) arg.1 arg.2
    rw [hrows]
    rfl

theorem map_markedForwarded (names : List String) :
    (markedForwarded names).map (fun arg => (identifier arg.1, arg.2.map Mark.toFragment)) =
      forwarded names := by
  rw [markedForwarded, forwarded, List.map_map]
  rfl

end Source

namespace ResolvedHolder

theorem toLine_markedParam (p : Param × Option DefaultExpr) :
    (markedParam p).toLine = signatureParam p := by
  have hdefault : Mark.toFragment ∘ Mark.fragment = id := by
    funext f
    rfl
  simp [markedParam, MarkedLine.toLine, signatureParam, hdefault, Mark.toFragment]

theorem map_toLine_markedSignature (c : ResolvedHolder) (name : String) (tail : List Mark) :
    (c.markedSignature name tail).map MarkedLine.toLine =
      c.signature name (tail.map Mark.toFragment) := by
  unfold markedSignature signature
  rw [List.map_cons]
  split
  · rfl
  · rw [List.map_append, List.map_cons, List.map_map]
    have hrows : MarkedLine.toLine ∘ markedParam = signatureParam := by
      funext p
      exact toLine_markedParam p
    rw [hrows]
    rfl

theorem map_toLine_markedConstruction (c : ResolvedHolder) :
    c.markedConstruction.map MarkedLine.toLine = c.construction := by
  rw [markedConstruction, map_toLine_markedArgs, map_markedForwarded]
  rfl

end ResolvedHolder

theorem Factory.map_toLine_marked (c : ResolvedHolder) :
    (marked c).map MarkedLine.toLine = body c := by
  have hkeys : (c.holder.invalidationKeys.map Param.name).map identifier =
      c.holder.invalidationKeys.map fun p => identifier p.name := List.map_map
  rw [marked, List.map_append, List.map_append, ResolvedHolder.map_toLine_markedSignature,
    ResolvedHolder.map_toLine_markedConstruction, body, ← hkeys]
  rfl

namespace Saver

variable (c : ResolvedHolder)

theorem map_toLine_markedHeader : (markedHeader c).map MarkedLine.toLine = header c := by
  unfold markedHeader header
  split
  · rfl
  · simp [MarkedLine.toLine, Mark.toFragment, markedCarriedParam, carriedParam]

theorem map_toLine_markedSaveLambda (h : Holder) (plan : Plan) :
    (markedSaveLambda h plan).map MarkedLine.toLine = saveLambda h plan := by
  unfold markedSaveLambda saveLambda
  split
  · rfl
  · simp [MarkedLine.toLine, Mark.toFragment, markedSaveEntry, saveEntry]

theorem map_markedRestoreValue (map : String) (arg : RestoreArg) (type : TypeExpr) :
    (markedRestoreValue map arg type).map Mark.toFragment = restoreValue map arg type := by
  unfold markedRestoreValue restoreValue
  cases arg.source <;> rfl

theorem map_toLine_markedRestoreLambda (plan : Plan) :
    (markedRestoreLambda c plan).map MarkedLine.toLine = restoreLambda c plan := by
  rw [markedRestoreLambda, restoreLambda, List.map_append, List.map_cons, map_toLine_markedArgs, List.map_map]
  simp only [Function.comp_def, map_markedRestoreValue]
  rfl

theorem map_toLine_markedFactory (plan : Plan) :
    (markedFactory c plan).map MarkedLine.toLine = persistentFactory c plan := by
  simp only [markedFactory, persistentFactory, List.map_append, map_toLine_markedArgs, map_markedForwarded,
    ResolvedHolder.map_toLine_markedSignature, ResolvedHolder.map_toLine_markedConstruction]
  simp [MarkedLine.toLine, Mark.toFragment, markedKey, invalidationKey]

theorem map_toLine_marked : (marked c).map MarkedLine.toLine = body c := by
  simp only [marked, body, saver, List.map_append, map_toLine_markedHeader, map_toLine_markedSaveLambda,
    map_toLine_markedRestoreLambda, map_toLine_markedFactory]
  rfl

end Saver

/-! The names that are marked. -/

namespace Source

theorem flatMap_only {α : Type} (xs : List α) (role : Role) (names : α → List String) (r : Role) :
    (xs.flatMap fun x => only role (names x) r) = only role (xs.flatMap names) r := by
  unfold only
  split
  · rfl
  · simp

namespace Mark

def membersOf (ms : List Mark) (role : Role) : List String := ms.flatMap fun m => m.members role

end Mark

namespace MarkedLine

variable {role : Role}

theorem members_append (ls ls' : List MarkedLine) :
    members (ls ++ ls') role = members ls role ++ members ls' role := List.flatMap_append

theorem members_cons (l : MarkedLine) (ls : List MarkedLine) :
    members (l :: ls) role = Mark.membersOf l.content role ++ members ls role := List.flatMap_cons

theorem members_singleton (l : MarkedLine) : members [l] role = Mark.membersOf l.content role :=
  List.flatMap_singleton _ l

theorem members_map {α : Type} (xs : List α) (row : α → MarkedLine) :
    members (xs.map row) role = xs.flatMap fun x => Mark.membersOf (row x).content role := List.flatMap_map _ _ xs

theorem members_rows {α : Type} (xs : List α) {row : α → MarkedLine} {r : Role} {name : α → String}
    (h : ∀ x, Mark.membersOf (row x).content role = only r [name x] role) :
    members (xs.map row) role = only r (xs.map name) role := by
  rw [members_map, List.map_eq_flatMap, ← flatMap_only]
  simp only [h]

end MarkedLine

theorem Mark.membersOf_append (ms ms' : List Mark) (role : Role) :
    membersOf (ms ++ ms') role = membersOf ms role ++ membersOf ms' role := List.flatMap_append

theorem membersOf_markedArg (level : Nat) (name : String) (value : List Mark) (role : Role) :
    Mark.membersOf (markedArg level name value).content role =
      only .parameter [name] role ++ Mark.membersOf value role := by
  simp [markedArg, Mark.membersOf, Mark.members]

theorem members_markedArgs (level : Nat) (opening : List Mark) (args : List (String × List Mark))
    (closing : List Mark) (role : Role) :
    MarkedLine.members (markedArgs level opening args closing) role = Mark.membersOf opening role ++
      (args.flatMap fun arg => only .parameter [arg.1] role ++ Mark.membersOf arg.2 role) ++
      Mark.membersOf closing role := by
  unfold markedArgs
  split
  · next hempty =>
    rw [List.isEmpty_iff.mp hempty, MarkedLine.members_singleton, Mark.membersOf_append, List.flatMap_nil,
      List.append_nil]
  · rw [MarkedLine.members_append, MarkedLine.members_cons, MarkedLine.members_singleton,
      MarkedLine.members_map]
    simp only [membersOf_markedArg]

theorem flatMap_markedForwarded (names : List String) (role : Role) :
    ((markedForwarded names).flatMap fun arg => only .parameter [arg.1] role ++ Mark.membersOf arg.2 role) =
      only .parameter (names.flatMap fun name => [name, name]) role := by
  rw [markedForwarded, List.flatMap_map, ← flatMap_only]
  congr 1
  funext name
  rw [Mark.membersOf, List.flatMap_singleton, Mark.members, only_append]
  rfl

end Source

namespace ResolvedHolder

theorem membersOf_markedParam (p : Param × Option DefaultExpr) (role : Role) :
    Mark.membersOf (markedParam p).content role = only .parameter [p.1.name] role := by
  simp [markedParam, Mark.membersOf, Mark.members]

theorem members_markedSignature (c : ResolvedHolder) (name : String) (tail : List Mark) (role : Role) :
    MarkedLine.members (c.markedSignature name tail) role =
      only .parameter (c.params.map fun p => p.1.name) role ++ Mark.membersOf tail role := by
  have hrows := MarkedLine.members_rows c.params fun p => membersOf_markedParam p role
  unfold markedSignature
  rw [MarkedLine.members_cons]
  split
  · next hempty =>
    have hparams : c.params = [] := by
      rw [params, List.isEmpty_iff.mp hempty, List.zip_nil_left]
    rw [hparams, MarkedLine.members_singleton]
    simp [Mark.membersOf, Mark.members, only]
  · rw [MarkedLine.members_append, MarkedLine.members_cons, hrows, MarkedLine.members_singleton]
    simp [Mark.membersOf, Mark.members]

theorem members_markedConstruction (c : ResolvedHolder) (role : Role) :
    MarkedLine.members c.markedConstruction role =
      only .parameter (c.holder.params.flatMap fun p => [p.name, p.name]) role := by
  rw [markedConstruction, members_markedArgs, flatMap_markedForwarded, List.flatMap_map]
  simp [Mark.membersOf, Mark.members]

end ResolvedHolder

theorem Factory.members_marked (c : ResolvedHolder) (role : Role) :
    MarkedLine.members (marked c) role = only .parameter (c.params.map (fun p => p.1.name) ++
      c.holder.invalidationKeys.map Param.name ++
      c.holder.params.flatMap fun p => [p.name, p.name]) role := by
  rw [marked, MarkedLine.members_append, MarkedLine.members_append, ResolvedHolder.members_markedSignature,
    ResolvedHolder.members_markedConstruction, ← only_append, ← only_append]
  simp [MarkedLine.members, Mark.membersOf, Mark.members]

namespace Saver

variable (c : ResolvedHolder) (role : Role)

theorem members_markedHeader : MarkedLine.members (markedHeader c) role =
    only .parameter (c.holder.carriedParams.map Param.name) role := by
  have hrow : ∀ p : Param, Mark.membersOf (markedCarriedParam p).content role =
      only .parameter [p.name] role := by
    simp [markedCarriedParam, Mark.membersOf, Mark.members]
  have hrows := MarkedLine.members_rows c.holder.carriedParams hrow
  unfold markedHeader
  split
  · next hempty =>
    rw [List.isEmpty_iff.mp hempty, MarkedLine.members_singleton]
    simp [Mark.membersOf, Mark.members, only]
  · rw [MarkedLine.members_append, MarkedLine.members_cons, hrows, MarkedLine.members_singleton]
    simp [Mark.membersOf, Mark.members]

theorem members_markedSaveLambda (h : Holder) (plan : Plan) :
    MarkedLine.members (markedSaveLambda h plan) role =
      only .property (plan.save.map SaveEntry.property) role := by
  have hrow : ∀ inst e, Mark.membersOf (markedSaveEntry inst e).content role =
      only .property [e.property] role := by
    simp [markedSaveEntry, Mark.membersOf, Mark.members]
  unfold markedSaveLambda
  split
  · next hempty =>
    rw [List.isEmpty_iff.mp hempty, MarkedLine.members_singleton]
    simp [Mark.membersOf, Mark.members, only]
  · rw [MarkedLine.members_append, MarkedLine.members_append, MarkedLine.members_rows plan.save (hrow _)]
    simp [MarkedLine.members, Mark.members]

def restoredNames (p : Param) : List String :=
  if p.saveableKey.isSome then [p.name] else [p.name, p.name]

theorem membersOf_markedRestoreValue (map : String) (p : Param) :
    only .parameter [p.name] role ++
      Mark.membersOf (markedRestoreValue map (RestoreArg.ofParam p) p.type) role =
        only .parameter (restoredNames p) role := by
  unfold restoredNames
  cases hkey : p.saveableKey with
  | none =>
    simp [markedRestoreValue, RestoreArg.ofParam, hkey, Mark.membersOf, Mark.members, only_append]
  | some key => simp [markedRestoreValue, RestoreArg.ofParam, hkey, Mark.membersOf, Mark.members]

theorem members_markedRestoreLambda :
    MarkedLine.members (markedRestoreLambda c (Plan.ofHolder c.holder)) role =
      only .parameter (c.holder.params.flatMap restoredNames) role := by
  have hargs : (Plan.ofHolder c.holder).restore.zip c.holder.params =
      c.holder.params.map fun p => (RestoreArg.ofParam p, p) := by
    simpa [Plan.ofHolder] using List.zip_map' (f := RestoreArg.ofParam) (g := id) (l := c.holder.params)
  rw [markedRestoreLambda, MarkedLine.members_append, MarkedLine.members_cons, members_markedArgs, hargs,
    List.map_map, List.flatMap_map, ← flatMap_only]
  simp only [← membersOf_markedRestoreValue role (freshName (c.holder.params.map Param.name) "map")]
  simp [MarkedLine.members, Mark.membersOf, Mark.members, RestoreArg.ofParam]

theorem members_markedFactory :
    MarkedLine.members (markedFactory c (Plan.ofHolder c.holder)) role =
      only .parameter (c.params.map (fun p => p.1.name) ++ c.holder.invalidationKeys.map Param.name ++
        (c.holder.carriedParams.flatMap fun p => [p.name, p.name]) ++
        c.holder.params.flatMap fun p => [p.name, p.name]) role := by
  have hkey : ∀ p : Param, Mark.membersOf (markedKey p).content role = only .parameter [p.name] role := by
    simp [markedKey, Mark.membersOf, Mark.members]
  simp only [markedFactory, MarkedLine.members_append, ResolvedHolder.members_markedSignature,
    ResolvedHolder.members_markedConstruction, MarkedLine.members_rows _ hkey, members_markedArgs,
    flatMap_markedForwarded, ← only_append]
  rw [carried_ofHolder, List.flatMap_map]
  simp [MarkedLine.members, Mark.membersOf, Mark.members]

theorem members_marked : MarkedLine.members (marked c) role =
    only .parameter (c.holder.carriedParams.map Param.name) role ++
      only .property (c.holder.savedProperties.map SavedProperty.name) role ++
      only .parameter (c.holder.params.flatMap restoredNames ++ c.params.map (fun p => p.1.name) ++
        c.holder.invalidationKeys.map Param.name ++
        (c.holder.carriedParams.flatMap fun p => [p.name, p.name]) ++
        c.holder.params.flatMap fun p => [p.name, p.name]) role := by
  have hproperties : (Plan.ofHolder c.holder).save.map SaveEntry.property =
      c.holder.savedProperties.map SavedProperty.name := List.map_map
  simp only [marked, MarkedLine.members_append, members_markedHeader, members_markedSaveLambda, hproperties,
    members_markedRestoreLambda, members_markedFactory, ← only_append]
  simp [MarkedLine.members, Mark.members]

end Saver
end StateHolders
