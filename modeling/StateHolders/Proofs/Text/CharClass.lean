import StateHolders.Text.Alphanumeric
import StateHolders.Text.Blank

/-! Blanks and alphanumeric characters are different characters. Both sets are given by ranges, so
it is enough that no range of the one meets a range of the other. -/

namespace StateHolders.Text
namespace CharSet

def apart (a b : CharSet) : Bool :=
  a.all fun r => b.all fun s => r.2 < s.1 || s.2 < r.1

theorem contains_eq_false_of_apart {a b : CharSet} (h : a.apart b = true) {c : Char}
    (hc : a.contains c = true) : b.contains c = false := by
  obtain ⟨r, hr, hcr⟩ := List.any_eq_true.mp hc
  have hlow : r.1 ≤ c.toNat := by simpa using (Bool.and_eq_true_iff.mp hcr).1
  have hhigh : c.toNat ≤ r.2 := by simpa using (Bool.and_eq_true_iff.mp hcr).2
  apply List.any_eq_false.mpr
  intro s hs hcs
  have hcs : s.1 ≤ c.toNat ∧ c.toNat ≤ s.2 := by simpa using hcs
  have hrs : r.2 < s.1 ∨ s.2 < r.1 := by
    simpa using List.all_eq_true.mp (List.all_eq_true.mp h r hr) s hs
  omega

end CharSet

theorem blank_apart_alphanumeric : blank.apart alphanumeric = true := by decide +kernel

theorem isAlphanumeric_eq_false_of_isBlank {c : Char} (h : isBlank c = true) :
    isAlphanumeric c = false :=
  CharSet.contains_eq_false_of_apart blank_apart_alphanumeric h

end StateHolders.Text
