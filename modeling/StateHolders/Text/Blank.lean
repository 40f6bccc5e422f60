import StateHolders.Text.CharSet
import StateHolders.Text.Scan

/-! Blank characters, those with the Unicode property White_Space, and trimming. -/

namespace StateHolders.Text

def blank : CharSet :=
  [(0x9, 0xd), (0x20, 0x20), (0x85, 0x85), (0xa0, 0xa0), (0x1680, 0x1680), (0x2000, 0x200a),
   (0x2028, 0x2029), (0x202f, 0x202f), (0x205f, 0x205f), (0x3000, 0x3000)]

def isBlank (c : Char) : Bool := blank.contains c

def skipBlanks (s : List Char) : List Char := s.dropWhile isBlank

def trim (s : List Char) : List Char := (skipBlanks (skipBlanks s).reverse).reverse

def isBlankText (s : String) : Bool := s.toList.all isBlank

theorem length_skipBlanks_le (s : List Char) : (skipBlanks s).length ≤ s.length :=
  (List.dropWhile_suffix isBlank).length_le

end StateHolders.Text
