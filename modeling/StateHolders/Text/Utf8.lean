/-! Bytes as text. A byte that cannot belong to a character, and a character that breaks off, show
as the replacement character. -/

namespace StateHolders.Text

/-- What the first byte of a character tells: its own bits, how many bytes follow, and the range of
the next one. -/
structure Lead where
  bits : Nat
  following : Nat
  low : Nat
  high : Nat
deriving DecidableEq, Repr

def lead? (b : Nat) : Option Lead :=
  if b < 0x80 then some ⟨b, 0, 0x80, 0xBF⟩
  else if 0xC2 ≤ b ∧ b ≤ 0xDF then some ⟨b - 0xC0, 1, 0x80, 0xBF⟩
  else if b = 0xE0 then some ⟨0, 2, 0xA0, 0xBF⟩
  else if b = 0xED then some ⟨0xD, 2, 0x80, 0x9F⟩
  else if 0xE1 ≤ b ∧ b ≤ 0xEF then some ⟨b - 0xE0, 2, 0x80, 0xBF⟩
  else if b = 0xF0 then some ⟨0, 3, 0x90, 0xBF⟩
  else if 0xF1 ≤ b ∧ b ≤ 0xF3 then some ⟨b - 0xF0, 3, 0x80, 0xBF⟩
  else if b = 0xF4 then some ⟨4, 3, 0x80, 0x8F⟩
  else none

def decodeFrom : (pending : Option Lead) → List UInt8 → List Char
  | none, [] => []
  | some _, [] => ['\ufffd']
  | none, b :: bs =>
    match lead? b.toNat with
    | none => '\ufffd' :: decodeFrom none bs
    | some l => if l.following = 0 then Char.ofNat l.bits :: decodeFrom none bs
      else decodeFrom (some l) bs
  | some l, b :: bs =>
    if l.low ≤ b.toNat ∧ b.toNat ≤ l.high then
      let bits := l.bits * 64 + (b.toNat - 0x80)
      if l.following = 1 then Char.ofNat bits :: decodeFrom none bs
      else decodeFrom (some ⟨bits, l.following - 1, 0x80, 0xBF⟩) bs
    else
      match lead? b.toNat with
      | none => '\ufffd' :: '\ufffd' :: decodeFrom none bs
      | some l' => '\ufffd' :: if l'.following = 0 then Char.ofNat l'.bits :: decodeFrom none bs
        else decodeFrom (some l') bs

def decodeLossy (bytes : List UInt8) : String := String.ofList (decodeFrom none bytes)

end StateHolders.Text
