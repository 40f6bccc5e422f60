import StateHolders.Factory
import StateHolders.Proofs.Source.Pieces

/-! Lines in which the names of parameters and properties are told apart from code. Such a line is printed as
the line without its marks is, and a file of such lines comes apart into pieces. -/

namespace StateHolders.Source

open Piece
open QualifiedName (parts)

inductive Mark where
  | fragment (f : Fragment)
  | parameter (name : String)
  | property (name : String)
  | keys (names : List String)

instance : Coe String Mark := ⟨fun s => .fragment (.text s)⟩

instance : Coe Fragment Mark := ⟨.fragment⟩

namespace Mark

def toFragment : Mark → Fragment
  | .fragment f => f
  | .parameter name | .property name => .text (identifier name)
  | .keys names => .text (Factory.keyList (names.map identifier))

def pieces (t : ImportTable) : Mark → List Piece
  | .fragment f => f.pieces t
  | .parameter name => [member .parameter name]
  | .property name => [member .property name]
  | .keys names =>
    if names.isEmpty then []
    else .code "(" :: (separated ", " (names.map (member .parameter)) ++ [.code ")"])

def members : Mark → Role → List String
  | .fragment _ => fun _ => []
  | .parameter name => only .parameter [name]
  | .property name => only .property [name]
  | .keys names => only .parameter names

def references (t : ImportTable) (m : Mark) : List String :=
  m.toFragment.names.flatMap fun n => parts (t.nameFor n)

theorem members_eq_nil {role : Role} (hrole : role ≠ .parameter ∧ role ≠ .property) (m : Mark) :
    m.members role = [] := by
  cases m <;> simp [members, only, hrole]

theorem prints_member {role : Role} (hrole : role = .parameter ∨ role = .property) (name : String) :
    Prints [member role name] (Source.identifier name) (only role [name]) where
  printed := String.append_empty.trans (print_member role name)
  named r := filterMap_name?_map role r [name] fun name => decide (name ∈ hardKeywords)
  follows := List.forall_mem_singleton.mpr (followsRole_member hrole name)

theorem prints_keys (names : List String) :
    Prints (separated ", " (names.map (member .parameter)))
      (String.intercalate ", " (names.map Source.identifier)) (only .parameter names) := by
  have hfollows : ∀ p ∈ names.map (member .parameter), p.FollowsRole :=
    List.forall_mem_map.mpr fun name _ => followsRole_member (.inl rfl) name
  refine (Prints.separated hfollows).of_eq ?_ fun role => ?_
  · have hprint : print ∘ member .parameter = Source.identifier := by
      funext name
      exact print_member .parameter name
    rw [List.map_map, hprint]
  · exact filterMap_name?_map .parameter role names fun name => decide (name ∈ hardKeywords)

theorem prints (t : ImportTable) (m : Mark) : Prints (m.pieces t) (m.toFragment.render t.naming)
    fun role => only .reference (m.references t) role ++ m.members role := by
  cases m with
  | fragment f => exact (f.prints_pieces t).of_eq rfl fun role => (List.append_nil _).symm
  | parameter name => exact (prints_member (.inl rfl) name).of_eq rfl fun role => by cases role <;> rfl
  | property name => exact (prints_member (.inr rfl) name).of_eq rfl fun role => by cases role <;> rfl
  | keys names =>
    cases names with
    | nil => exact Prints.nil.of_eq rfl fun role => by cases role <;> rfl
    | cons name names =>
      have hkeys := ((prints_keys (name :: names)).append (Prints.code ")")).code_cons "("
      refine hkeys.of_eq ?_ fun role => ?_
      · show "(" ++ (String.intercalate ", " ((name :: names).map Source.identifier) ++ ")") = _
        rw [← String.append_assoc]
        rfl
      · rw [List.append_nil]
        cases role <;> rfl

end Mark

structure MarkedLine where
  level : Nat
  content : List Mark

namespace MarkedLine

def toLine (l : MarkedLine) : Line := ⟨l.level, l.content.map Mark.toFragment⟩

def pieces (t : ImportTable) (l : MarkedLine) : List Piece :=
  .code (margin l.level) :: (l.content.flatMap (Mark.pieces t) ++ [.code "\n"])

def members (ls : List MarkedLine) (role : Role) : List String :=
  ls.flatMap fun l => l.content.flatMap fun m => m.members role

theorem members_eq_nil {role : Role} (hrole : role ≠ .parameter ∧ role ≠ .property) (ls : List MarkedLine) :
    members ls role = [] := by
  simp [members, Mark.members_eq_nil hrole]

def references (t : ImportTable) (ls : List MarkedLine) : List String :=
  (Line.namesOf (ls.map toLine)).flatMap fun n => parts (t.nameFor n)

theorem flatMap_references (t : ImportTable) (ls : List MarkedLine) :
    (ls.flatMap fun l => l.content.flatMap (Mark.references t)) = references t ls := by
  simp only [references, Line.namesOf, Line.names, Fragment.namesOf, toLine, List.flatMap_map, List.flatMap_assoc]
  rfl

theorem prints_content (t : ImportTable) (ms : List Mark) :
    Prints (ms.flatMap (Mark.pieces t)) (Fragment.renderAll t.naming (ms.map Mark.toFragment))
      fun role => ms.flatMap fun m => only .reference (m.references t) role ++ m.members role := by
  induction ms with
  | nil => exact Prints.nil
  | cons m ms ih =>
    rw [List.flatMap_cons, List.map_cons, Fragment.renderAll]
    exact ((m.prints t).append ih).of_eq rfl fun role => by rw [List.flatMap_cons]

theorem prints_lines (t : ImportTable) (ls : List MarkedLine) :
    Prints (ls.flatMap (pieces t)) (Line.renderAll t.naming (ls.map toLine)) fun role =>
      ls.flatMap fun l => l.content.flatMap fun m => only .reference (m.references t) role ++ m.members role := by
  induction ls with
  | nil => exact Prints.nil
  | cons l ls ih =>
    have hline := ((prints_content t l.content).append (Prints.code "\n")).code_cons (margin l.level)
    rw [List.flatMap_cons, List.map_cons, Line.renderAll]
    refine (hline.append ih).of_eq ?_ fun role => ?_
    · rw [Line.render, ← String.append_assoc]
      rfl
    · rw [List.append_nil, List.flatMap_cons]

end MarkedLine

def packagePieces (package : String) : List Piece :=
  if package = "" then [] else .code "package " :: (dotted .package package ++ [.code "\n\n"])

theorem prints_packagePieces (package : String) : Prints (packagePieces package) (packageClause package)
    (only .package (if package = "" then [] else parts package)) := by
  unfold packagePieces packageClause
  split
  · exact Prints.nil.of_eq rfl fun role => (ite_self _).symm
  · have hclause := ((Prints.dotted .package (by decide) package).append
      (Prints.code "\n\n")).code_cons "package "
    refine hclause.of_eq ?_ fun role => List.append_nil _
    rw [← String.append_assoc]
    rfl

def importPieces (imports : List String) : List Piece :=
  if imports.isEmpty then []
  else imports.flatMap (fun n => .code "import " :: (dotted .imported n ++ [.code "\n"])) ++ [.code "\n"]

theorem prints_importLines (imports : List String) :
    Prints (imports.flatMap fun n => .code "import " :: (dotted .imported n ++ [.code "\n"]))
      (String.join (imports.map fun name => s!"import {name}\n")) (only .imported (imports.flatMap parts)) := by
  induction imports with
  | nil => exact Prints.nil.of_eq rfl fun role => (ite_self _).symm
  | cons n ns ih =>
    have hline := ((Prints.dotted .imported (by decide) n).append (Prints.code "\n")).code_cons "import "
    have htext : "import " ++ (n ++ "\n") = s!"import {n}\n" := by
      rw [← String.append_assoc]
      rfl
    rw [List.flatMap_cons, List.map_cons, String.join_cons]
    refine (hline.append ih).of_eq ?_ fun role => ?_
    · rw [htext]
    · rw [List.append_nil, List.flatMap_cons, only_append]

theorem prints_importPieces (imports : List String) :
    Prints (importPieces imports) (importClauses imports) (only .imported (imports.flatMap parts)) := by
  unfold importPieces importClauses
  split
  · next hempty =>
    rw [List.isEmpty_iff.mp hempty]
    exact Prints.nil.of_eq rfl fun role => (ite_self _).symm
  · refine ((prints_importLines imports).append (Prints.code "\n")).of_eq rfl fun role => ?_
    exact List.append_nil _

def filePieces (t : ImportTable) (ls : List MarkedLine) (stampedAt : Option Nat) : List Piece :=
  .code (header ++ "\n\n") :: (packagePieces t.package ++ importPieces t.imports ++
    ls.flatMap (MarkedLine.pieces t) ++ [.code ((stampedAt.map stamp).getD "")])

theorem prints_filePieces (t : ImportTable) (ls : List MarkedLine) (stampedAt : Option Nat) :
    Prints (filePieces t ls stampedAt) (frame t (ls.map MarkedLine.toLine) stampedAt) fun role =>
      only .package (if t.package = "" then [] else parts t.package) role ++
        only .imported (t.imports.flatMap parts) role ++
        only .reference (MarkedLine.references t ls) role ++ MarkedLine.members ls role := by
  have hfile := ((((prints_packagePieces t.package).append (prints_importPieces t.imports)).append
    (MarkedLine.prints_lines t ls)).append (Prints.code ((stampedAt.map stamp).getD ""))).code_cons
      (header ++ "\n\n")
  refine hfile.of_eq ?_ fun role => ?_
  · rw [frame]
    simp only [String.append_assoc]
  · rw [List.append_nil, List.append_assoc, List.append_assoc, List.append_assoc]
    congr 2
    -- no mark names a reference beside a parameter or a property, so both orders are one
    by_cases hrole : role = .reference
    · subst hrole
      have hmark : ∀ m : Mark, m.members .reference = [] := Mark.members_eq_nil (by decide)
      have hmembers : MarkedLine.members ls .reference = [] := MarkedLine.members_eq_nil (by decide) ls
      simp only [only, if_true, hmembers, hmark, List.append_nil, MarkedLine.flatMap_references]
    · simp only [only, if_neg hrole, List.nil_append]
      rfl

end StateHolders.Source
