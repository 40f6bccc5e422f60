import StateHolders.Decimal.Shortest

/-! JSON values. A number written without point and exponent is whole if 64 bits hold it, and else
a double, as every other number is; minus zero is a double. -/

namespace StateHolders

inductive Json.Number where
  | whole (value : Int)
  | double (negative : Bool) (magnitude : Decimal.Magnitude)
deriving DecidableEq, Repr

inductive Json where
  | null
  | bool (value : Bool)
  | number (value : Json.Number)
  | string (value : String)
  | array (items : List Json)
  | object (fields : List (String × Json))
deriving Repr

namespace Json

/-- How doubles are written: the shortest digits, with a point while its place is at most 16 digits
to the right of the first digit and 5 to its left, and with a signed exponent from there on. -/
def Number.text : Number → String
  | .whole n => toString n
  | .double negative x =>
    let d := x.shortest
    let digits := Nat.toDigits 10 d.digits
    let point := (digits.length : Int) + d.exponent
    let body :=
      if 0 ≤ d.exponent ∧ point ≤ 16 then
        String.ofList (digits ++ List.replicate d.exponent.toNat '0') ++ ".0"
      else if 0 < point ∧ point ≤ 16 then
        String.ofList (digits.take point.toNat) ++ "." ++ String.ofList (digits.drop point.toNat)
      else if -5 < point ∧ point ≤ 0 then
        "0." ++ String.ofList (List.replicate (-point).toNat '0' ++ digits)
      else
        let tail := digits.drop 1
        String.ofList (digits.take 1) ++ (if tail = [] then "" else "." ++ String.ofList tail)
          ++ (if 0 < point then "e+" else "e") ++ toString (point - 1)
    (if negative then "-" else "") ++ body

end Json
end StateHolders
