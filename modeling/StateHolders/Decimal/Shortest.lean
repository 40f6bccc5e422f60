import StateHolders.Decimal.Magnitude

/-! The shortest decimal that reads back as a given magnitude. For one digit, two, and so on, the
two decimals around the magnitude are tried; the first count of digits at which one of them lies
among the numbers that round to the magnitude is taken; of two the nearer one, and of two that are
equally near the even one. -/

namespace StateHolders.Decimal

structure Scientific where
  digits : Nat
  exponent : Int
deriving DecidableEq, Repr

namespace Scientific

def dropZeros : Nat → Scientific → Scientific
  | 0, s => s
  | count + 1, s =>
    if s.digits % 10 = 0 then dropZeros count ⟨s.digits / 10, s.exponent + 1⟩ else s

end Scientific

namespace Magnitude

def commonScale (d : Scientific) (quarters : Nat) : Nat × Nat :=
  if 0 ≤ d.exponent then (d.digits * Nat.pow 10 d.exponent.toNat * (4 * one), quarters)
  else (d.digits * (4 * one), quarters * Nat.pow 10 (-d.exponent).toNat)

def isReadFrom (x : Magnitude) (d : Scientific) : Bool :=
  let above := gap x.units
  let below := if x.units = Nat.pow 2 x.units.log2 && 1 < above then above / 2 else above
  let even := x.units / above % 2 = 0
  let (low, l) := commonScale d (4 * x.units - 2 * below)
  let (high, h) := commonScale d (4 * x.units + 2 * above)
  if even then l ≤ low && high ≤ h else l < low && high < h

def leadingExponent (x : Magnitude) : Int :=
  if one ≤ x.units then ((Nat.toDigits 10 (x.units / one)).length : Int) - 1
  else
    let count := (Nat.toDigits 10 (one / x.units)).length
    if x.units * Nat.pow 10 (count - 1) = one then 1 - (count : Int) else -(count : Int)

/-- The decimal of `count` digits that rounds to the magnitude. Of two the nearer one is taken, and
of two that are equally near the even one. -/
def withDigits? (x : Magnitude) (count : Nat) : Option Scientific :=
  let exponent := x.leadingExponent - count + 1
  let (num, den) :=
    if 0 ≤ exponent then (x.units, one * Nat.pow 10 exponent.toNat)
    else (x.units * Nat.pow 10 (-exponent).toNat, one)
  let low : Scientific := ⟨num / den, exponent⟩
  let high : Scientific := ⟨num / den + 1, exponent⟩
  match x.isReadFrom low, x.isReadFrom high with
  | true, true =>
    if 2 * (num % den) < den || 2 * (num % den) = den && low.digits % 2 = 0 then some low
    else some high
  | true, false => some low
  | false, true => some high
  | false, false => none

def shortest (x : Magnitude) : Scientific :=
  if x.units = 0 then ⟨0, 0⟩
  else
    match (List.range 17).findSome? fun n => x.withDigits? (n + 1) with
    | some d => d.dropZeros 17
    | none => ⟨0, 0⟩

end Magnitude
end StateHolders.Decimal
