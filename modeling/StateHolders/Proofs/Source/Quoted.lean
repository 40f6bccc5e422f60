import StateHolders.Source.Quoted

/-! Reading string literals back. An escape is two characters, the first of which is a backslash and ends
no literal, so a literal ends at its first quote without one. -/

namespace StateHolders.Source

def escaped? : Char → Option Char
  | 't' => some '\t'
  | 'b' => some '\x08'
  | 'n' => some '\n'
  | 'r' => some '\r'
  | '\'' => some '\''
  | '"' => some '"'
  | '\\' => some '\\'
  | '$' => some '$'
  | _ => none

/-- Reads a literal from behind its opening quote, and leaves what follows the closing one. A literal ends on its
line, and a dollar sign that is not escaped would start a template. -/
def readLiteral? : List Char → Option (List Char × List Char)
  | [] => none
  | '"' :: rest => some ([], rest)
  | '\\' :: c :: rest =>
    match escaped? c, readLiteral? rest with
    | some d, some (s, after) => some (d :: s, after)
    | _, _ => none
  | c :: rest =>
    if c ∈ ['\\', '$', '\n', '\r'] then none
    else (readLiteral? rest).map fun (s, after) => (c :: s, after)

theorem readLiteral?_escape {c d : Char} (hd : escaped? c = some d) (s : List Char) :
    readLiteral? ('\\' :: c :: s) = (readLiteral? s).map fun (s, after) => (d :: s, after) := by
  rw [readLiteral?, hd]
  cases readLiteral? s <;> rfl

theorem readLiteral?_plain {c : Char} (hc : c ∉ ['"', '\\', '$', '\n', '\r']) (s : List Char) :
    readLiteral? (c :: s) = (readLiteral? s).map fun (s, after) => (c :: s, after) := by
  rw [List.mem_cons, not_or] at hc
  obtain ⟨hquote, hbarred⟩ := hc
  have hescape : c ≠ '\\' := fun h => hbarred (h ▸ List.mem_cons_self)
  simp [readLiteral?, hescape, hbarred]

theorem escapeChar_cases (c : Char) :
    (∃ d ∈ ['"', '\\', '$', 'n', 'r', 't'], escapeChar c = ['\\', d] ∧ escaped? d = some c) ∨
      escapeChar c = [c] ∧ c ∉ ['"', '\\', '$', '\n', '\r', '\t'] := by
  unfold escapeChar
  split
  · exact .inl ⟨'"', by decide, rfl, rfl⟩
  · exact .inl ⟨'\\', by decide, rfl, rfl⟩
  · exact .inl ⟨'$', by decide, rfl, rfl⟩
  · exact .inl ⟨'n', by decide, rfl, rfl⟩
  · exact .inl ⟨'r', by decide, rfl, rfl⟩
  · exact .inl ⟨'t', by decide, rfl, rfl⟩
  · next hquote hbackslash hdollar hbreak hreturn htab =>
    refine .inr ⟨rfl, ?_⟩
    simp only [List.mem_cons, List.not_mem_nil, or_false, not_or]
    exact ⟨hquote, hbackslash, hdollar, hbreak, hreturn, htab⟩

theorem notMem_flatMap_escapeChar {c : Char} (hc : c ∈ ['\n', '\r', '\t']) (s : List Char) :
    c ∉ s.flatMap escapeChar := by
  intro h
  obtain ⟨x, -, hx⟩ := List.mem_flatMap.mp h
  rcases escapeChar_cases x with ⟨d, hd, hescape, -⟩ | ⟨hescape, hplain⟩
  · have hwritten : ∀ c ∈ ['\n', '\r', '\t'], ∀ d ∈ ['"', '\\', '$', 'n', 'r', 't'], c ∉ ['\\', d] := by
      simp
    exact hwritten c hc d hd (hescape ▸ hx)
  · rw [hescape, List.mem_singleton] at hx
    exact hplain (hx ▸ List.mem_append_right ['"', '\\', '$'] hc)

theorem readLiteral?_flatMap_escapeChar (s rest : List Char) :
    readLiteral? (s.flatMap escapeChar ++ '"' :: rest) = some (s, rest) := by
  induction s with
  | nil => rfl
  | cons c s ih =>
    rw [List.flatMap_cons, List.append_assoc]
    rcases escapeChar_cases c with ⟨d, -, hescape, hd⟩ | ⟨hescape, hplain⟩
    · rw [hescape, List.cons_append, List.singleton_append, readLiteral?_escape hd, ih]
      rfl
    · have hsub : ['"', '\\', '$', '\n', '\r'] ⊆ ['"', '\\', '$', '\n', '\r', '\t'] := by decide
      rw [hescape, List.singleton_append, readLiteral?_plain (fun h => hplain (hsub h)), ih]
      rfl

/-! What is behind a literal is left as it is. -/

theorem readLiteral?_append {s value rest : List Char} (h : readLiteral? s = some (value, rest))
    (more : List Char) : readLiteral? (s ++ more) = some (value, rest ++ more) := by
  fun_induction readLiteral? s generalizing value with
  | case1 => cases h
  | case2 s =>
    cases h
    rfl
  | case3 c s d value rest hvalue hescaped ih =>
    cases h
    rw [List.cons_append, List.cons_append, readLiteral?_escape hescaped, ih hvalue]
    rfl
  | case4 => cases h
  | case5 => cases h
  | case6 c s hquote _ hbarred ih =>
    obtain ⟨⟨value, rest⟩, hvalue, heq⟩ := Option.map_eq_some_iff.mp h
    cases heq
    rw [List.cons_append, readLiteral?_plain (by simpa [not_or] using ⟨hquote, by simpa using hbarred⟩), ih hvalue]
    rfl

theorem toList_quoted (s : String) :
    (quoted s).toList = '"' :: (s.toList.flatMap escapeChar ++ ['"']) := by
  rw [quoted, String.toList_ofList]
  rfl

theorem notMem_quoted {c : Char} (hc : c ∈ ['\n', '\r', '\t']) (s : String) :
    c ∉ (quoted s).toList := by
  have hquote : c ≠ '"' := by
    rintro rfl
    exact absurd hc (by decide)
  rw [toList_quoted]
  simp [hquote, notMem_flatMap_escapeChar hc]

theorem lineBreak_notMem_quoted (s : String) : '\n' ∉ (quoted s).toList :=
  notMem_quoted (by decide) s

end StateHolders.Source
