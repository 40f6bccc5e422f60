import StateHolders.Proofs.DottedName
import StateHolders.Proofs.Source.PrintedNames
import StateHolders.Source.File

/-! Generated source in pieces. A piece is code or an identifier, and an identifier is printed between
backquotes or bare. A piece also says what an identifier stands for, so that a text shows which of its
identifiers are keywords, and where. -/

namespace StateHolders

namespace QualifiedName

def parts (name : String) : List String := (name.toList.splitOn '.').map String.ofList

theorem intercalate_parts (name : String) : String.intercalate "." (parts name) = name := by
  have hdot : ".".toList = ['.'] := rfl
  have hlists : String.toList ∘ String.ofList = id := by
    funext s
    exact String.toList_ofList
  rw [← String.toList_inj, String.toList_intercalate, hdot, parts, List.map_map, hlists, List.map_id,
    List.intercalate_splitOn]

end QualifiedName

namespace Source

open QualifiedName (parts)

/-- What an identifier stands for. A reference is part of a name that the table of the file prints. -/
inductive Role where
  | package
  | imported
  | reference
  | parameter
  | property
deriving DecidableEq, Repr

inductive Piece where
  | code (s : String)
  | identifier (role : Role) (name : String) (isQuoted : Bool)
deriving DecidableEq, Repr

namespace Piece

def print : Piece → String
  | .code s => s
  | .identifier _ name true => s!"`{name}`"
  | .identifier _ name false => name

def printAll : List Piece → String
  | [] => ""
  | p :: ps => p.print ++ printAll ps

def name? (role : Role) : Piece → Option String
  | .code _ => none
  | .identifier r name _ => if r = role then some name else none

def IsBareKeyword : Piece → Prop
  | .code _ => False
  | .identifier _ name isQuoted => isQuoted = false ∧ name ∈ hardKeywords

def FollowsRole : Piece → Prop
  | .code _ => True
  | .identifier role name isQuoted =>
    isQuoted = true ↔ name ∈ hardKeywords ∧ (role = .parameter ∨ role = .property)

theorem printAll_append (ps qs : List Piece) : printAll (ps ++ qs) = printAll ps ++ printAll qs := by
  induction ps with
  | nil => rw [List.nil_append, printAll, String.empty_append]
  | cons p ps ih => rw [List.cons_append, printAll, printAll, ih, String.append_assoc]

theorem mem_filterMap_name? {ps : List Piece} {role : Role} {name : String} :
    name ∈ ps.filterMap (name? role) ↔ ∃ isQuoted, .identifier role name isQuoted ∈ ps := by
  rw [List.mem_filterMap]
  constructor
  · rintro ⟨p, hp, hname⟩
    cases p with
    | code s => cases hname
    | identifier r name' isQuoted =>
      obtain ⟨rfl, hsome⟩ := Option.ite_none_right_eq_some.mp hname
      cases hsome
      exact ⟨isQuoted, hp⟩
  · rintro ⟨isQuoted, hp⟩
    exact ⟨_, hp, if_pos rfl⟩

theorem exists_role_iff {P : Role → Prop} :
    (∃ role, (role ≠ .parameter ∧ role ≠ .property) ∧ P role) ↔ P .package ∨ P .imported ∨ P .reference := by
  constructor
  · rintro ⟨role, hrole, h⟩
    cases role with
    | package => exact .inl h
    | imported => exact .inr (.inl h)
    | reference => exact .inr (.inr h)
    | parameter => exact absurd rfl hrole.1
    | property => exact absurd rfl hrole.2
  · rintro (h | h | h)
    · exact ⟨.package, by decide, h⟩
    · exact ⟨.imported, by decide, h⟩
    · exact ⟨.reference, by decide, h⟩

theorem exists_isBareKeyword_iff {ps : List Piece} (h : ∀ p ∈ ps, p.FollowsRole) :
    (∃ p ∈ ps, p.IsBareKeyword) ↔ ∃ keyword ∈ hardKeywords, ∃ role,
      (role ≠ .parameter ∧ role ≠ .property) ∧ keyword ∈ ps.filterMap (name? role) := by
  constructor
  · rintro ⟨p, hp, hbare⟩
    cases p with
    | code s => cases hbare
    | identifier role name isQuoted =>
      obtain ⟨rfl, hkeyword⟩ := hbare
      have hrole : ¬(role = .parameter ∨ role = .property) := fun hrole =>
        Bool.false_ne_true ((h _ hp).mpr ⟨hkeyword, hrole⟩)
      exact ⟨name, hkeyword, role, not_or.mp hrole, mem_filterMap_name?.mpr ⟨false, hp⟩⟩
  · rintro ⟨keyword, hkeyword, role, hrole, hmem⟩
    obtain ⟨isQuoted, hp⟩ := mem_filterMap_name?.mp hmem
    refine ⟨_, hp, Bool.eq_false_iff.mpr fun hquoted => ?_, hkeyword⟩
    exact not_or.mpr hrole ((h _ hp).mp hquoted).2

/-- The pieces print the text, and the identifiers among them are these, each printed by its role. -/
structure Prints (ps : List Piece) (text : String) (names : Role → List String) : Prop where
  printed : printAll ps = text
  named : ∀ role, ps.filterMap (name? role) = names role
  follows : ∀ p ∈ ps, p.FollowsRole

def only (role : Role) (names : List String) (r : Role) : List String := if r = role then names else []

theorem only_append (role : Role) (ns ms : List String) (r : Role) :
    only role ns r ++ only role ms r = only role (ns ++ ms) r := by
  unfold only
  split <;> rfl

theorem filterMap_name?_map (role r : Role) (names : List String) (isQuoted : String → Bool) :
    (names.map fun name => identifier role name (isQuoted name)).filterMap (name? r) = only role names r := by
  rw [List.filterMap_map, only]
  split
  · next hr =>
    have hsome : name? r ∘ (fun name => identifier role name (isQuoted name)) = some := by
      funext name
      exact if_pos hr.symm
    rw [hsome, List.filterMap_some]
  · next hr =>
    have hnone : name? r ∘ (fun name => identifier role name (isQuoted name)) = fun _ => none := by
      funext name
      exact if_neg fun h => hr h.symm
    rw [hnone, List.filterMap_none]

variable {ps qs : List Piece} {text text' : String} {names names' : Role → List String}

namespace Prints

theorem nil : Prints [] "" fun _ => [] := ⟨rfl, fun _ => rfl, List.forall_mem_nil _⟩

theorem append (h : Prints ps text names) (h' : Prints qs text' names') :
    Prints (ps ++ qs) (text ++ text') fun role => names role ++ names' role where
  printed := by rw [printAll_append, h.printed, h'.printed]
  named role := by rw [List.filterMap_append, h.named, h'.named]
  follows := List.forall_mem_append.mpr ⟨h.follows, h'.follows⟩

theorem code_cons (s : String) (h : Prints ps text names) : Prints (.code s :: ps) (s ++ text) names where
  printed := by rw [printAll, h.printed, print]
  named role := (List.filterMap_cons_none rfl).trans (h.named role)
  follows := List.forall_mem_cons.mpr ⟨trivial, h.follows⟩

theorem code (s : String) : Prints [.code s] s fun _ => [] := by
  have h := nil.code_cons s
  rwa [String.append_empty] at h

theorem of_eq (h : Prints ps text names) (htext : text = text') (hnames : ∀ role, names role = names' role) :
    Prints ps text' names' where
  printed := h.printed.trans htext
  named role := (h.named role).trans (hnames role)
  follows := h.follows

end Prints

def separated (separator : String) : List Piece → List Piece
  | [] => []
  | [p] => [p]
  | p :: q :: ps => p :: .code separator :: separated separator (q :: ps)

theorem Prints.separated {separator : String} {ps : List Piece} (h : ∀ p ∈ ps, p.FollowsRole) :
    Prints (separated separator ps) (String.intercalate separator (ps.map print))
      fun role => ps.filterMap (name? role) := by
  match ps with
  | [] => exact nil
  | [p] => exact ⟨String.append_empty, fun _ => rfl, h⟩
  | p :: q :: ps =>
    rw [List.forall_mem_cons] at h
    have hfirst : Prints [p] p.print fun role => [p].filterMap (name? role) :=
      ⟨String.append_empty, fun _ => rfl, List.forall_mem_singleton.mpr h.1⟩
    have hrest : Prints (Piece.separated separator (q :: ps)) _ _ := Prints.separated h.2
    refine (hfirst.append (hrest.code_cons separator)).of_eq ?_ fun role => ?_
    · rw [List.map_cons, List.map_cons, List.map_cons, String.intercalate_cons_cons, String.append_assoc]
    · exact List.filterMap_append.symm

def dotted (role : Role) (name : String) : List Piece :=
  separated "." ((parts name).map fun part => .identifier role part false)

theorem Prints.dotted (role : Role) (hrole : role ≠ .parameter ∧ role ≠ .property) (name : String) :
    Prints (dotted role name) name (only role (parts name)) := by
  have hfollows : ∀ p ∈ (parts name).map fun part => identifier role part false, p.FollowsRole := by
    refine List.forall_mem_map.mpr fun part _ => ?_
    show false = true ↔ _
    simp [hrole]
  refine (Prints.separated hfollows).of_eq ?_ fun r => ?_
  · rw [List.map_map]
    show String.intercalate "." ((parts name).map id) = name
    rw [List.map_id, QualifiedName.intercalate_parts]
  · exact filterMap_name?_map role r (parts name) fun _ => false

def member (role : Role) (name : String) : Piece := .identifier role name (decide (name ∈ hardKeywords))

theorem print_member (role : Role) (name : String) : (member role name).print = Source.identifier name := by
  unfold member Source.identifier
  split
  · next h => rw [decide_eq_true h, print]
  · next h => rw [decide_eq_false h, print]

theorem followsRole_member {role : Role} (hrole : role = .parameter ∨ role = .property) (name : String) :
    (member role name).FollowsRole := by
  show decide (name ∈ hardKeywords) = true ↔ _
  rw [decide_eq_true_eq]
  exact (and_iff_left hrole).symm

end Piece
end Source

open Source Source.Piece
open QualifiedName (parts)

namespace TypeExpr

mutual
def pieces (f : String → String) : TypeExpr → List Piece
  | ⟨name, args, nullable⟩ =>
    (if name = "*" then [.code name] else dotted .reference (f name)) ++ piecesBracketed f args ++
      [.code (if nullable then "?" else "")]

def piecesBracketed (f : String → String) : List TypeExpr → List Piece
  | [] => []
  | t :: ts => .code "<" :: (t.pieces f ++ piecesRest f ts)

def piecesRest (f : String → String) : List TypeExpr → List Piece
  | [] => [.code ">"]
  | t :: ts => .code ", " :: (t.pieces f ++ piecesRest f ts)
end

theorem prints_name (f : String → String) (name : String) :
    Prints (if name = "*" then [.code name] else dotted .reference (f name))
      (if name = "*" then name else f name)
      (only .reference (([name].filter (· ≠ "*")).flatMap fun n => parts (f n))) := by
  by_cases hstar : name = "*"
  · rw [if_pos hstar, if_pos hstar]
    refine (Prints.code name).of_eq rfl fun role => ?_
    simp [hstar, only]
  · rw [if_neg hstar, if_neg hstar]
    refine (Prints.dotted .reference (by decide) (f name)).of_eq rfl fun role => ?_
    simp [hstar]

variable {f : String → String}

-- one lemma for each function of `print`, since what follows an argument is a comma or the closing bracket
mutual
theorem prints_pieces : ∀ t : TypeExpr,
    Prints (t.pieces f) (t.rename f).print (only .reference (t.ownNames.flatMap fun n => parts (f n)))
  | ⟨name, args, nullable⟩ => by
    have hpieces := ((prints_name f name).append (prints_piecesBracketed args)).append
      (Prints.code (if nullable then "?" else ""))
    refine hpieces.of_eq ?_ fun role => ?_
    · rw [rename, print]
    · rw [ownNames_mk, List.flatMap_append, only_append, List.append_nil]

theorem prints_piecesBracketed : ∀ ts : List TypeExpr,
    Prints (piecesBracketed f ts) (printBracketed (renameArgs f ts))
      (only .reference ((ownNamesOfArgs ts).flatMap fun n => parts (f n)))
  | [] => Prints.nil.of_eq rfl fun role => (ite_self _).symm
  | t :: ts => by
    have hpieces := ((prints_pieces t).append (prints_piecesRest ts)).code_cons "<"
    refine hpieces.of_eq ?_ fun role => ?_
    · rw [renameArgs, printBracketed, String.append_assoc]
    · rw [ownNamesOfArgs_cons, List.flatMap_append, only_append]

theorem prints_piecesRest : ∀ ts : List TypeExpr,
    Prints (piecesRest f ts) (printRest (renameArgs f ts))
      (only .reference ((ownNamesOfArgs ts).flatMap fun n => parts (f n)))
  | [] => (Prints.code ">").of_eq rfl fun role => (ite_self _).symm
  | t :: ts => by
    have hpieces := ((prints_pieces t).append (prints_piecesRest ts)).code_cons ", "
    refine hpieces.of_eq ?_ fun role => ?_
    · rw [renameArgs, printRest, String.append_assoc]
    · rw [ownNamesOfArgs_cons, List.flatMap_append, only_append]
end

end TypeExpr

namespace Source

def Fragment.pieces (t : ImportTable) : Fragment → List Piece
  | .text s => [.code s]
  | .type e => e.pieces t.nameFor
  | .symbol s => dotted .reference (t.symbolName s)

theorem Fragment.prints_pieces (t : ImportTable) (fragment : Fragment) :
    Prints (fragment.pieces t) (fragment.render t.naming)
      (only .reference (fragment.names.flatMap fun n => parts (t.nameFor n))) := by
  cases fragment with
  | text s => exact (Prints.code s).of_eq rfl fun role => (ite_self _).symm
  | type e => exact e.prints_pieces
  | symbol s =>
    have hprinted : (Fragment.symbol s).render t.naming = t.nameFor s.qualifiedName := by
      simp only [render, ImportTable.naming, ImportTable.symbolName]
    rw [names, List.flatMap_singleton, hprinted, pieces, ImportTable.symbolName]
    exact Prints.dotted .reference (by decide) (t.nameFor s.qualifiedName)

end Source
end StateHolders
