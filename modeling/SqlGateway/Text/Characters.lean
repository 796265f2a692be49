/-
Classes of characters and octets: white space, hexadecimal digits, and letters without regard to case. White space in a
text is what has the property White_Space; among octets it is that of ASCII. Only the letters of ASCII have a case here.
-/

namespace SqlGateway.Text

/-! ## White space -/

/-- white space in a text -/
def isBlank (c : Char) : Bool :=
  let n := c.toNat
  (9 ≤ n && n ≤ 13) || n == 0x20 || n == 0x85 || n == 0xA0 || n == 0x1680 || (0x2000 ≤ n && n ≤ 0x200A) ||
    n == 0x2028 || n == 0x2029 || n == 0x202F || n == 0x205F || n == 0x3000

/-- white space among octets: space, tab, line feed, form feed, carriage return -/
def isBlankOctet (b : UInt8) : Bool :=
  b == 32 || b == 9 || b == 10 || b == 12 || b == 13

/-- without the white space at its beginning -/
def trimStart (cs : List Char) : List Char := cs.dropWhile isBlank

/-- without the white space at either end -/
def trim (cs : List Char) : List Char := (trimStart (trimStart cs).reverse).reverse

/-! ## Digits and letters -/

/-- the value of a hexadecimal digit, in letters of either case -/
def hexDigit? (b : UInt8) : Option Nat :=
  if 48 ≤ b.toNat ∧ b.toNat ≤ 57 then some (b.toNat - 48)
  else if 65 ≤ b.toNat ∧ b.toNat ≤ 70 then some (b.toNat - 55)
  else if 97 ≤ b.toNat ∧ b.toNat ≤ 102 then some (b.toNat - 87)
  else none

/-- the characters of a text, capital letters made small -/
def lowered (s : String) : List Char := s.toList.map Char.toLower

/-- the same text up to the case of its letters -/
def sameLetters (s t : String) : Bool := lowered s == lowered t

end SqlGateway.Text
