import StateHolders.Holder.Defaults
import StateHolders.Holder.Extraction
import StateHolders.Proofs.Source.Quoted
import StateHolders.Saver.Source

/-! String literals in generated source. A literal stands on one line, and nothing in it ends it early or starts a
template. It has one value, whatever comes behind it, so strings that differ are printed differently wherever a
literal is printed for them. -/

namespace StateHolders

namespace Source

variable {s : List Char} {text text' value value' rest rest' : String}

def endsInEscape (s : List Char) : Bool := s.foldl (fun isEscaped c => !isEscaped && c = '\\') false

/-- The text is a literal for the string: one line between quotes, in which each quote and each dollar sign is
behind a backslash that belongs to no other escape. -/
structure IsLiteral (text value : String) : Prop where
  single_line : ∀ c ∈ ['\n', '\r', '\t'], c ∉ text.toList
  quotes : ∃ body, text.toList = '"' :: (body ++ ['"']) ∧
    (∀ before c after, body = before ++ c :: after → c ∈ ['"', '$'] → endsInEscape before = true) ∧
    readLiteral? (body ++ ['"']) = some (value.toList, [])

/-! A literal has one value, whatever comes behind it. -/

theorem IsLiteral.eq_of_append (h : IsLiteral text value) (h' : IsLiteral text' value')
    (happend : text ++ rest = text' ++ rest') : value = value' := by
  obtain ⟨body, htext, -, hvalue⟩ := h.quotes
  obtain ⟨body', htext', -, hvalue'⟩ := h'.quotes
  have hchars := congrArg String.toList happend
  rw [String.toList_append, String.toList_append, htext, htext', List.cons_append, List.cons_append] at hchars
  have hread := readLiteral?_append hvalue rest.toList
  rw [(List.cons.inj hchars).2, readLiteral?_append hvalue'] at hread
  exact (String.toList_inj.mp (Prod.mk.inj (Option.some.inj hread)).1).symm

/-! Strings that are quoted. -/

theorem endsInEscape_escape (d : Char) (s : List Char) :
    endsInEscape ('\\' :: d :: s) = endsInEscape s := rfl

theorem endsInEscape_cons {c : Char} (hc : c ≠ '\\') (s : List Char) :
    endsInEscape (c :: s) = endsInEscape s := by
  simp [endsInEscape, hc]

theorem endsInEscape_of_flatMap_escapeChar {before after : List Char} {c : Char}
    (h : s.flatMap escapeChar = before ++ c :: after) (hc : c ∈ ['"', '$']) :
    endsInEscape before = true := by
  induction s generalizing before with
  | nil => simp at h
  | cons x s ih =>
    rw [List.flatMap_cons] at h
    rcases escapeChar_cases x with ⟨d, -, hescape, -⟩ | ⟨hescape, hplain⟩
    · rw [hescape, List.cons_append, List.singleton_append] at h
      -- the character is behind the backslash of this escape, or after the escape
      rcases before with _ | ⟨b, _ | ⟨b', before⟩⟩
      · obtain ⟨rfl, -⟩ := List.cons.inj h
        exact absurd hc (by decide)
      · obtain ⟨rfl, -⟩ := List.cons.inj h
        rfl
      · obtain ⟨rfl, htail⟩ := List.cons.inj h
        obtain ⟨rfl, hrest⟩ := List.cons.inj htail
        rw [endsInEscape_escape]
        exact ih hrest
    · rw [hescape, List.singleton_append] at h
      rcases before with _ | ⟨b, before⟩
      · obtain ⟨rfl, -⟩ := List.cons.inj h
        have hsub : ['"', '$'] ⊆ ['"', '\\', '$', '\n', '\r', '\t'] := by decide
        exact absurd (hsub hc) hplain
      · obtain ⟨rfl, hrest⟩ := List.cons.inj h
        rw [endsInEscape_cons (fun hbackslash => hplain (by simp [hbackslash]))]
        exact ih hrest

theorem isLiteral_quoted (s : String) : IsLiteral (quoted s) s where
  single_line _ hc := notMem_quoted hc s
  quotes := ⟨_, toList_quoted s, fun _ _ _ => endsInEscape_of_flatMap_escapeChar,
    readLiteral?_flatMap_escapeChar _ []⟩

/-! Where strings are printed. -/

/-- Behind `opening` the text goes on with a literal for the string. -/
def PrintsLiteral (opening text value : String) : Prop :=
  ∃ literal rest, text = opening ++ (literal ++ rest) ∧ IsLiteral literal value

theorem PrintsLiteral.eq {opening : String} (h : PrintsLiteral opening text value)
    (h' : PrintsLiteral opening text value') : value = value' := by
  obtain ⟨literal, rest, rfl, hliteral⟩ := h
  obtain ⟨literal', rest', htext, hliteral'⟩ := h'
  exact hliteral.eq_of_append hliteral' ((String.append_right_inj opening).mp htext)

theorem quoted_injective : Function.Injective quoted := by
  intro s s' h
  exact (isLiteral_quoted s).eq_of_append (isLiteral_quoted s') (congrArg (· ++ "") h)

end Source

open Source

namespace Saver

theorem printsLiteral_saveEntry (n : Naming) (inst : String) (e : SaveEntry) :
    PrintsLiteral (margin 3) ((saveEntry inst e).render n) e.key := by
  refine ⟨quoted e.key, Fragment.renderAll n (saveEntry inst e).content.tail ++ "\n", ?_, isLiteral_quoted _⟩
  rw [← String.append_assoc, ← String.append_assoc]
  rfl

theorem printsLiteral_restoreValue (n : Naming) (map param key : String) (type : TypeExpr) :
    PrintsLiteral (map ++ "[") (Fragment.renderAll n (restoreValue map ⟨param, .map key⟩ type)) key := by
  refine ⟨quoted key, Fragment.renderAll n ["] as ", .type type], ?_, isLiteral_quoted _⟩
  rw [String.append_assoc]
  rfl

end Saver

theorem Param.isLiteral_default {p : Param} {value : String}
    (hp : p.policy = .ofMarker (.literalString value)) (ctx : DefaultContext) (n : Naming) :
    ∃ e, p.default? ctx = .ok (some e) ∧ IsLiteral (e.render n) value := by
  have hdefault : p.default? ctx = .ok (some (.verbatim (quoted value))) := by
    rw [Param.default?, hp]
    rfl
  have htext : (DefaultExpr.verbatim (quoted value)).render n = quoted value := String.append_empty
  refine ⟨_, hdefault, ?_⟩
  rw [htext]
  exact isLiteral_quoted value

/-- A quoted string is a literal for it, which has no other value. Saved entries, restored arguments and defaults
print their strings so; hence what is printed for strings that differ differs, whatever follows. -/
theorem quoting_lossless_and_safe :
    (∀ s, IsLiteral (quoted s) s) ∧ Function.Injective quoted ∧
    (∀ n inst e, PrintsLiteral (margin 3) ((Saver.saveEntry inst e).render n) e.key) ∧
    (∀ n map param key type, PrintsLiteral (map ++ "[")
      (Fragment.renderAll n (Saver.restoreValue map ⟨param, .map key⟩ type)) key) ∧
    (∀ (p : Param) value, p.policy = .ofMarker (.literalString value) → ∀ ctx n,
      ∃ e, p.default? ctx = .ok (some e) ∧ IsLiteral (e.render n) value) ∧
    ∀ opening text text' value value', PrintsLiteral opening text value →
      PrintsLiteral opening text' value' → value ≠ value' → text ≠ text' := by
  refine ⟨isLiteral_quoted, quoted_injective, Saver.printsLiteral_saveEntry, Saver.printsLiteral_restoreValue,
    fun _ _ hp => Param.isLiteral_default hp, ?_⟩
  rintro opening text _ value value' h h' hne rfl
  exact hne (h.eq h')

example : quoted "$x\\" = "\"\\$x\\\\\"" := by decide

def price : Param := ⟨"price", .named "String", .ofMarker (.literalString "$x\\"), false, none⟩

theorem quoting_lossless_and_safe_price :
    price.policy = .ofMarker (.literalString "$x\\") ∧
    (∃ e, price.default? ⟨"app.Till", none, .none⟩ = .ok (some e) ∧
      IsLiteral (e.render .asWritten) "$x\\") ∧
    PrintsLiteral (margin 3) ((Saver.saveEntry "it" ⟨"$", "price"⟩).render .asWritten) "$" ∧
    PrintsLiteral (margin 3) ((Saver.saveEntry "it" ⟨"\\$", "price"⟩).render .asWritten) "\\$" ∧
    (Saver.saveEntry "it" ⟨"$", "price"⟩).render .asWritten ≠
      (Saver.saveEntry "it" ⟨"\\$", "price"⟩).render .asWritten := by
  obtain ⟨-, -, hsave, -, hdefault, hapart⟩ := quoting_lossless_and_safe
  have hdollar := hsave .asWritten "it" ⟨"$", "price"⟩
  have hescaped := hsave .asWritten "it" ⟨"\\$", "price"⟩
  exact ⟨rfl, hdefault price _ rfl _ _, hdollar, hescaped,
    hapart _ _ _ _ _ hdollar hescaped (by decide)⟩

end StateHolders
