import StateHolders.Declaration.Decode
import StateHolders.Declaration.Encode
import StateHolders.Proofs.TypeExpr.Reading

/-! Printing and reading again. Whatever is read has grammatical names throughout, and a type with
such names is spelled by its canonical text; any other name spoils the round trip. -/

namespace StateHolders.TypeExpr

open Text (Blanks)

/-- Every name in the expression, at any depth, is one that the grammar has. -/
def Grammatical (t : TypeExpr) : Prop := ∀ n ∈ t.names, IsName n.toList

def GrammaticalArgs (ts : List TypeExpr) : Prop := ∀ n ∈ namesOfArgs ts, IsName n.toList

theorem grammatical_mk {name : String} {args : List TypeExpr} {nullable : Bool} :
    Grammatical ⟨name, args, nullable⟩ ↔ IsName name.toList ∧ GrammaticalArgs args := by
  simp [Grammatical, GrammaticalArgs, names]

theorem grammaticalArgs_cons {t : TypeExpr} {ts : List TypeExpr} :
    GrammaticalArgs (t :: ts) ↔ t.Grammatical ∧ GrammaticalArgs ts := by
  simp only [GrammaticalArgs, Grammatical, namesOfArgs, List.mem_append]
  constructor
  · exact fun h => ⟨fun n hn => h n (.inl hn), fun n hn => h n (.inr hn)⟩
  · exact fun h n hn => hn.elim (h.1 n) (h.2 n)

theorem grammaticalArgs_nil : GrammaticalArgs [] := by
  simp [GrammaticalArgs, namesOfArgs]

mutual
theorem grammatical_of_spells {s : List Char} {t : TypeExpr} : Spells s t → t.Grammatical
  | .intro _ hn ha _ =>
    grammatical_mk.mpr ⟨by rwa [String.toList_ofList], grammaticalArgs_of_spellsArgs ha⟩

theorem grammaticalArgs_of_spellsArgs {s : List Char} {ts : List TypeExpr} :
    SpellsArgs s ts → GrammaticalArgs ts
  | .absent => grammaticalArgs_nil
  | .bracketed _ ha => grammaticalArgs_of_spellsItems ha

theorem grammaticalArgs_of_spellsItems {s : List Char} {ts : List TypeExpr} :
    SpellsItems s ts → GrammaticalArgs ts
  | .last ht _ => grammaticalArgs_cons.mpr ⟨grammatical_of_spells ht, grammaticalArgs_nil⟩
  | .next ht _ ha =>
    grammaticalArgs_cons.mpr ⟨grammatical_of_spells ht, grammaticalArgs_of_spellsItems ha⟩
end

/-! The canonical text spells its type. The blank after a comma is a blank before the next type. -/

theorem blanks_nil : Blanks [] := by
  intro c hc
  cases hc

theorem Spells.blank_cons {s : List Char} {t : TypeExpr} (h : Spells s t) : Spells (' ' :: s) t := by
  cases h with
  | @intro w n a m _ _ hw hn ha hm =>
    have hw' : Blanks (' ' :: w) := by
      intro c hc
      rcases List.mem_cons.mp hc with rfl | hc
      · decide
      · exact hw c hc
    exact .intro hw' hn ha hm

theorem spellsMark_print (nullable : Bool) :
    SpellsMark (if nullable then "?" else "").toList nullable := by
  cases nullable with
  | false => exact .absent
  | true => exact .present (w := []) blanks_nil

mutual
theorem spells_print : ∀ t : TypeExpr, t.Grammatical → Spells t.print.toList t
  | ⟨name, args, nullable⟩, h => by
    obtain ⟨hn, hargs⟩ := grammatical_mk.mp h
    have ha := spellsArgs_print args hargs
    have hs := Spells.intro (w := []) blanks_nil hn ha (spellsMark_print nullable)
    simpa [print] using hs

theorem spellsArgs_print : ∀ ts : List TypeExpr, GrammaticalArgs ts →
    SpellsArgs (printBracketed ts).toList ts
  | [], _ => .absent
  | t :: ts, h => by
    obtain ⟨ht, hts⟩ := grammaticalArgs_cons.mp h
    have hitems := spellsItems_print ts hts t.print.toList t (spells_print t ht)
    have hs := SpellsArgs.bracketed (w := []) blanks_nil hitems
    simpa [printBracketed] using hs

theorem spellsItems_print : ∀ ts : List TypeExpr, GrammaticalArgs ts →
    ∀ (u : List Char) (t : TypeExpr), Spells u t →
      SpellsItems (u ++ (printRest ts).toList) (t :: ts)
  | [], _, u, t, hu => by
    have hs := SpellsItems.last hu blanks_nil
    simpa [printRest] using hs
  | t' :: ts, h, u, t, hu => by
    obtain ⟨ht, hts⟩ := grammaticalArgs_cons.mp h
    have hitems := spellsItems_print ts hts (' ' :: t'.print.toList) t' (spells_print t' ht).blank_cons
    have hs := SpellsItems.next hu blanks_nil hitems
    simpa [printRest] using hs
end

theorem parse_print {t : TypeExpr} (h : t.Grammatical) : parse t.print = .ok t :=
  parse_eq_ok_iff.mpr ⟨t.print.toList, [], by simp, spells_print t h, blanks_nil⟩

theorem grammatical_of_parse {text : String} {t : TypeExpr} (h : parse text = .ok t) :
    t.Grammatical := by
  obtain ⟨u, w, -, hu, -⟩ := parse_eq_ok_iff.mp h
  exact grammatical_of_spells hu

theorem parse_print_iff {t : TypeExpr} : parse t.print = .ok t ↔ t.Grammatical :=
  ⟨grammatical_of_parse, parse_print⟩

theorem decode_encode_iff {t : TypeExpr} :
    Decode.type (Encode.type t) = .ok t ↔ t.Grammatical := by
  rw [← parse_print_iff, Encode.type, Decode.type, mapError_eq_ok_iff]

/-- The canonical text, which is also the JSON form, reads back exactly for grammatical names; only
types with such names are read, so what has been read once is read back for good. -/
theorem print_round_trip :
    (∀ t : TypeExpr, parse t.print = .ok t ↔ t.Grammatical) ∧
    (∀ t : TypeExpr, Encode.type t = .string t.print ∧
      (Decode.type (Encode.type t) = .ok t ↔ t.Grammatical)) ∧
    (∀ (text : String) (t : TypeExpr), parse text = .ok t → t.Grammatical) ∧
    ∀ (text : String) (t : TypeExpr), parse text = .ok t →
      parse t.print = .ok t ∧ (parse t.print).map print = .ok t.print := by
  refine ⟨fun t => parse_print_iff, fun t => ⟨rfl, decode_encode_iff⟩,
    fun text t => grammatical_of_parse, fun text t h => ?_⟩
  have hprint := parse_print (grammatical_of_parse h)
  exact ⟨hprint, by rw [hprint]; rfl⟩

end StateHolders.TypeExpr
