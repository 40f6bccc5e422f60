/-! Magnitudes of finite doubles, as whole numbers of the smallest one, `2 ^ (-1074)`. A number of
units is a magnitude if it has at most 53 significant bits and is less than `2 ^ 2098`. Every
operation rounds its exact result to the nearest magnitude, a half to the even one, and has no
result where that is out of range. -/

namespace StateHolders.Decimal

structure Magnitude where
  units : Nat
deriving DecidableEq, Repr

namespace Magnitude

def one : Nat := Nat.pow 2 1074

def gap (units : Nat) : Nat := Nat.pow 2 (units.log2 - 52)

def nearest? (num den : Nat) : Option Magnitude :=
  let step := den * gap (num / den)
  let quotient := num / step
  let remainder := num % step
  let up := step < 2 * remainder || step = 2 * remainder && quotient % 2 = 1
  let units := (quotient + if up then 1 else 0) * gap (num / den)
  if units < Nat.pow 2 2098 then some ⟨units⟩ else none

def ofNat? (n : Nat) : Option Magnitude := nearest? (n * one) 1

def mul? (x y : Magnitude) : Option Magnitude := nearest? (x.units * y.units) one

def div? (x y : Magnitude) : Option Magnitude := nearest? (x.units * one) y.units

@[irreducible]
def powerOfTen? (n : Nat) : Option Magnitude := ofNat? (Nat.pow 10 n)

def maxPower : Nat := 308

/-- Multiplies by a power of ten in steps of at most `10 ^ maxPower`, rounding each. -/
def scale? (x : Magnitude) (exponent : Int) : Option Magnitude :=
  if exponent.natAbs ≤ maxPower then do
    let power ← powerOfTen? exponent.natAbs
    if 0 ≤ exponent then x.mul? power else x.div? power
  else if x.units = 0 then some x
  else if 0 ≤ exponent then none
  else do
    let power ← powerOfTen? maxPower
    let y ← x.div? power
    y.scale? (exponent + maxPower)
termination_by (-exponent).toNat
decreasing_by
  have h : maxPower = 308 := rfl
  omega

end Magnitude
end StateHolders.Decimal
