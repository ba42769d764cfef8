import KnotAtlas.Text.Ranges
import KnotAtlas.Text.DigitZeros

/-!
Digits of any script. A decimal digit has a value and may stand in a number; a loose digit, such as
a superscript, only counts as a digit.
-/

namespace KnotAtlas.Text

def decimalValue? (c : Char) : Option Nat :=
  (digitZeros.find? fun first => first ≤ c.toNat && c.toNat < first + 10).map (c.toNat - ·)

def isDecimalDigit (c : Char) : Bool :=
  (decimalValue? c).isSome

def isAnyDigit (c : Char) : Bool :=
  isDecimalDigit c || inRanges looseDigitRanges c.toNat

/-- Whether a text is not empty and holds digits only. -/
def isAllDigits (s : String) : Bool :=
  !s.toList.isEmpty && s.toList.all isAnyDigit

end KnotAtlas.Text
