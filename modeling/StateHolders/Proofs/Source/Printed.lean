import StateHolders.Proofs.DottedName
import StateHolders.Proofs.Source.Lines
import StateHolders.Proofs.Source.Naming

/-! What is printed in a line of generated source. Types and symbols are printed without the marks that
lines are made of, and an identifier keeps its characters between the quotes it may need. -/

namespace StateHolders

namespace TypeExpr

def isPrintChar (c : Char) : Bool := c ∈ marks || c = ' ' || isNameChar c

theorem isPrintChar_of_isName {n : List Char} (hn : IsName n) : ∀ c ∈ n, isPrintChar c = true := by
  intro c hc
  rcases hn with rfl | ⟨-, hall, -⟩
  · obtain rfl := List.mem_singleton.mp hc
    decide +kernel
  · simp [isPrintChar, hall c hc]

mutual
theorem isPrintChar_of_mem_print : ∀ t : TypeExpr, t.Grammatical →
    ∀ c ∈ t.print.toList, isPrintChar c = true
  | ⟨name, args, nullable⟩, h => by
    obtain ⟨hname, hargs⟩ := grammatical_mk.mp h
    have hmark : (if nullable then "?" else "").toList.all isPrintChar = true := by
      cases nullable <;> rfl
    simp only [print, String.toList_append, List.mem_append]
    rintro c ((hc | hc) | hc)
    · exact isPrintChar_of_isName hname c hc
    · exact isPrintChar_of_mem_printBracketed args hargs c hc
    · exact List.all_eq_true.mp hmark c hc

theorem isPrintChar_of_mem_printBracketed : ∀ ts : List TypeExpr, GrammaticalArgs ts →
    ∀ c ∈ (printBracketed ts).toList, isPrintChar c = true
  | [], _ => by simp [printBracketed]
  | t :: ts, h => by
    obtain ⟨ht, hts⟩ := grammaticalArgs_cons.mp h
    have hopen : "<".toList.all isPrintChar = true := rfl
    simp only [printBracketed, String.toList_append, List.mem_append]
    rintro c ((hc | hc) | hc)
    · exact List.all_eq_true.mp hopen c hc
    · exact isPrintChar_of_mem_print t ht c hc
    · exact isPrintChar_of_mem_printRest ts hts c hc

theorem isPrintChar_of_mem_printRest : ∀ ts : List TypeExpr, GrammaticalArgs ts →
    ∀ c ∈ (printRest ts).toList, isPrintChar c = true
  | [], _ => by
    have hclose : ">".toList.all isPrintChar = true := rfl
    exact List.all_eq_true.mp hclose
  | t :: ts, h => by
    obtain ⟨ht, hts⟩ := grammaticalArgs_cons.mp h
    have hcomma : ", ".toList.all isPrintChar = true := rfl
    simp only [printRest, String.toList_append, List.mem_append]
    rintro c ((hc | hc) | hc)
    · exact List.all_eq_true.mp hcomma c hc
    · exact isPrintChar_of_mem_print t ht c hc
    · exact isPrintChar_of_mem_printRest ts hts c hc
end

end TypeExpr

namespace Source

open QualifiedName (IsIdentifier)
open TypeExpr (IsName isPrintChar)

namespace Symbol

theorem isName_qualifiedName (s : Symbol) : IsName s.qualifiedName.toList := by
  -- the dot comes first, since there are many letters to look through
  have hchars : (s.qualifiedName.toList.all fun c => c = '.' || Text.isAlphanumeric c) = true := by
    cases s <;> decide +kernel
  have hdots : s.qualifiedName.toList ≠ [] ∧
      TypeExpr.hasStrayDot s.qualifiedName.toList = false := by
    cases s <;> decide
  refine TypeExpr.isName_iff.mpr (.inr ⟨hdots.1, fun c hc => ?_, hdots.2⟩)
  have hchar := List.all_eq_true.mp hchars c hc
  rw [Bool.or_eq_true, decide_eq_true_eq] at hchar
  rcases hchar with rfl | halpha
  · simp [TypeExpr.isNameChar]
  · simp [TypeExpr.isNameChar, halpha]

theorem qualifiedName_ne_star (s : Symbol) : s.qualifiedName ≠ "*" := by
  cases s <;> decide

end Symbol

namespace ImportTable

variable (t : ImportTable)

theorem isPrintChar_of_mem_typeName {type : TypeExpr} (h : type.Grammatical) :
    ∀ c ∈ (t.typeName type).toList, isPrintChar c = true :=
  TypeExpr.isPrintChar_of_mem_print _ (t.grammatical_rename_nameFor h)

theorem isPrintChar_of_mem_symbolName (s : Symbol) :
    ∀ c ∈ (t.symbolName s).toList, isPrintChar c = true :=
  TypeExpr.isPrintChar_of_isName (t.isName_nameFor s.isName_qualifiedName s.qualifiedName_ne_star).1

end ImportTable

def lineMarks : List Char := ['\n', ':', '=', '(', ')']

theorem isPrintChar_eq_false {c : Char} (h : c ∈ lineMarks) : isPrintChar c = false := by
  have hall : (lineMarks.all fun c => !isPrintChar c) = true := by decide +kernel
  simpa using List.all_eq_true.mp hall c h

theorem notMem_of_isPrintChar {s : List Char} (hs : ∀ c ∈ s, isPrintChar c = true) {c : Char}
    (hc : c ∈ lineMarks) : c ∉ s := by
  intro h
  have hprint := hs c h
  rw [isPrintChar_eq_false hc] at hprint
  cases hprint

theorem isNameChar_eq_false {c : Char} (h : c ∈ ',' :: ' ' :: lineMarks) :
    TypeExpr.isNameChar c = false := by
  rw [List.mem_cons, List.mem_cons] at h
  rcases h with rfl | rfl | h
  · exact TypeExpr.isNameChar_eq_false_of_mem_marks (by decide)
  · cases hname : TypeExpr.isNameChar ' ' with
    | false => rfl
    | true => cases TypeExpr.isBlank_eq_false_of_isNameChar hname
  · have hprint := isPrintChar_eq_false h
    simp only [isPrintChar, Bool.or_eq_false_iff] at hprint
    exact hprint.2

theorem toList_identifier (name : String) : ∃ quotes : List Char,
    (∀ c ∈ quotes, c = '\x60') ∧ (identifier name).toList = quotes ++ name.toList ++ quotes := by
  unfold identifier
  split
  · refine ⟨['\x60'], by simp, ?_⟩
    simp only [String.toList_append]
    rfl
  · exact ⟨[], by simp, by simp⟩

theorem notMem_identifier_of_mark {name : String} (h : IsIdentifier name.toList) {c : Char}
    (halpha : Text.isAlphanumeric c = false) (hunderscore : c ≠ '_') (hquote : c ≠ '\x60') :
    c ∉ (identifier name).toList := by
  obtain ⟨quotes, hquotes, heq⟩ := toList_identifier name
  rw [heq, List.mem_append, List.mem_append]
  rintro ((hmem | hmem) | hmem)
  · exact hquote (hquotes c hmem)
  · exact h.notMem halpha hunderscore hmem
  · exact hquote (hquotes c hmem)

theorem notMem_identifier {name : String} (h : IsIdentifier name.toList) {c : Char}
    (hc : c ∈ ',' :: ' ' :: lineMarks) : c ∉ (identifier name).toList := by
  have hname := isNameChar_eq_false hc
  simp only [TypeExpr.isNameChar, Bool.or_eq_false_iff, decide_eq_false_iff_not] at hname
  obtain ⟨⟨⟨halpha, hunderscore⟩, -⟩, -⟩ := hname
  have hquote : c ≠ '\x60' := by
    rintro rfl
    simp [lineMarks] at hc
  exact notMem_identifier_of_mark h halpha hunderscore hquote

namespace Fragment

theorem isWhole_type (t : ImportTable) {type : TypeExpr} (h : type.Grammatical) :
    (Fragment.type type).IsWhole t.naming := by
  have hbreak : '\n' ∉ (t.typeName type).toList :=
    notMem_of_isPrintChar (t.isPrintChar_of_mem_typeName h) (by decide)
  simpa only [IsWhole, render, ImportTable.naming] using hbreak

theorem isWhole_symbol (t : ImportTable) (s : Symbol) : (symbol s).IsWhole t.naming := by
  have hbreak : '\n' ∉ (t.symbolName s).toList :=
    notMem_of_isPrintChar (t.isPrintChar_of_mem_symbolName s) (by decide)
  simpa only [IsWhole, render, ImportTable.naming] using hbreak

theorem isWhole_identifier {n : Naming} {name : String} (h : IsIdentifier name.toList) :
    (text (identifier name)).IsWhole n :=
  notMem_identifier h (by decide)

end Fragment
end Source
end StateHolders
