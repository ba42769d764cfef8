import KnotAtlas.Decimal.DigitLimit
import KnotAtlas.Decimal.Reading
import KnotAtlas.Text.Blank

/-!
Integers as texts in records. Blanks may stand around one, a plus sign or zeros before it, a point
with zeros behind it, and single underscores between its digits. Zeros in front are dropped together
with underscores among them, before the sign is looked at.
-/

namespace KnotAtlas.Wire

def isIntegerBlank (c : Char) : Bool :=
  Text.isBlank c && !(28 ≤ c.toNat && c.toNat ≤ 31)

/-- Drops a plus sign; no other sign may follow it. -/
def dropPlus? : List Char → Option (List Char)
  | '+' :: '-' :: _ => none
  | '+' :: rest => some rest
  | cs => some cs

/-- Drops a point with nothing but zeros behind it, of which there must be some. -/
def dropZeroFraction (cs : List Char) : List Char :=
  match cs.dropWhile (· != '.') with
  | '.' :: zeros =>
    if !zeros.isEmpty && zeros.all (· == '0') then cs.takeWhile (· != '.') else cs
  | _ => cs

/-- Drops zeros in front; of zeros and underscores alone the last character stays. -/
def dropLeadingZeros (cs : List Char) : List Char :=
  match cs with
  | '0' :: rest =>
    match rest.dropWhile fun c => c = '0' || c = '_' with
    | [] => cs.drop (cs.length - 1)
    | later => later
  | cs => cs

def hasDoubleUnderscore : List Char → Bool
  | '_' :: '_' :: _ => true
  | _ :: rest => hasDoubleUnderscore rest
  | [] => false

/-- Drops underscores; none may stand at an end or next to another. -/
def dropSingleUnderscores? (cs : List Char) : Option (List Char) :=
  if cs.head? = some '_' || cs.getLast? = some '_' || hasDoubleUnderscore cs then none
  else some (cs.filter (· != '_'))

/-- The sign and the digits of an integer in a text; zeros are not left in front. -/
def integerDigits? (s : String) : Option (Bool × List Char) := do
  let cs ← dropPlus? (Text.trimBy isIntegerBlank s).toList
  let cs ← dropSingleUnderscores? (dropLeadingZeros (dropZeroFraction cs))
  let (negative, digits) :=
    match cs with
    | '-' :: rest => (true, rest)
    | cs => (false, cs)
  if digits.isEmpty || !digits.all Decimal.isAsciiDigit then none
  else if digits.head? = some '0' && 1 < digits.length then none
  else some (negative, digits)

/-- The integer that a sign and digits stand for; none if there are too many digits. -/
def integerOfDigits? (negative : Bool) (digits : List Char) : Option Int :=
  if Decimal.digitLimit < digits.length then none
  else
    let n : Int := Decimal.digitsValue digits
    some (if negative then -n else n)

end KnotAtlas.Wire
