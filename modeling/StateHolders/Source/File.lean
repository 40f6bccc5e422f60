import StateHolders.Source.ImportTable
import StateHolders.Path

/-! Generated files and their stamps. A stamp is one comment line at the end of a file; it tells
when the file was generated and does not count when files are compared. -/

namespace StateHolders.Source

def header : String := "// This file was auto-generated by rmbr. Do not modify."

def stampMark : String := "\n// Generated at "

def stamp (seconds : Nat) : String := stampMark ++ toString seconds ++ "\n"

/-- What may follow `stampMark` in a stamp: digits, and at most one line break. -/
def isStampTail (tail : List Char) : Bool :=
  let digits := if tail.getLast? = some '\n' then tail.dropLast else tail
  !digits.isEmpty && digits.all Char.isDigit

def withoutStamp (text : String) : String :=
  match Text.cutLast? stampMark.toList text.toList with
  | some (before, tail) => if isStampTail tail then String.ofList before else text
  | none => text

structure File where
  package : String
  name : String
  text : String
deriving DecidableEq, Repr

namespace File

def stableText (f : File) : String := withoutStamp f.text

/-- The segments of the package are directories. -/
def relativePath (f : File) : Path :=
  (Path.below ⟨""⟩ (QualifiedName.segments f.package)).join ⟨f.name ++ ".kt"⟩

end File

def packageClause (package : String) : String :=
  if package = "" then "" else s!"package {package}\n\n"

def importClauses (imports : List String) : String :=
  if imports.isEmpty then ""
  else String.join (imports.map fun name => s!"import {name}\n") ++ "\n"

def frame (t : ImportTable) (body : List Line) (stampedAt : Option Nat) : String :=
  header ++ "\n\n" ++ packageClause t.package ++ importClauses t.imports ++
    Line.renderAll t.naming body ++ (stampedAt.map stamp).getD ""

end StateHolders.Source
