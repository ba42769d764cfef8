import KnotAtlas.Decimal.Layout

/-!
Floating numbers rounded to a number of places or of digits. Rounding starts from the exact value,
and a half goes to the even neighbour.
-/

namespace KnotAtlas.Decimal

/-- Digits followed by a point and the last `places` of them; without places the point is left out
unless it is kept on purpose. -/
def withPoint (keepPoint : Bool) (places : Nat) (digits : List Char) : List Char :=
  let whole := digits.take (digits.length - places)
  if places = 0 then whole ++ (if keepPoint then ['.'] else [])
  else whole ++ '.' :: digits.drop (digits.length - places)

def fixed (keepPoint : Bool) (places : Nat) (b : Binary) : List Char :=
  let (num, den) := b.ratio
  withPoint keepPoint places (padded (places + 1) (roundHalfEven (num * Nat.pow 10 places) den))

/-- A magnitude rounded to `count` digits: the digits as a number, and the exponent of the first;
zero has exponent zero. -/
def significant (count : Nat) (b : Binary) : Nat × Int :=
  let (num, den) := b.ratio
  let e := if num = 0 then 0 else leadingExponent num den
  let shift := (count : Int) - 1 - e
  let n := roundHalfEven (num * Nat.pow 10 shift.toNat) (den * Nat.pow 10 (-shift).toNat)
  if Nat.pow 10 count ≤ n then (n / 10, e + 1) else (n, e)

def exponentPart (e : Int) : List Char :=
  'e' :: (if e < 0 then '-' else '+') :: padded 2 e.natAbs

/-- A magnitude with one digit before the point and `places` behind it, and an exponent part. -/
def exponential (keepPoint : Bool) (places : Nat) (b : Binary) : List Char :=
  let (n, e) := significant (places + 1) b
  withPoint keepPoint places (padded (places + 1) n) ++ exponentPart e

/-- Digits without the zeros behind a point, and without a point that nothing follows. -/
def dropTrailingZeros (cs : List Char) : List Char :=
  if cs.contains '.' then
    (cs.reverse.dropWhile (· = '0')).dropWhile (· = '.') |>.reverse
  else cs

/-- A magnitude with `count` digits, positional where its exponent is small; zeros at the end are
kept on purpose only. -/
def general (keepZeros : Bool) (count : Nat) (b : Binary) : List Char :=
  let count := max count 1
  let (n, e) := significant count b
  let tidy (cs : List Char) : List Char := if keepZeros then cs else dropTrailingZeros cs
  if -4 ≤ e ∧ e < count then
    let places := (count - 1 - e : Int).toNat
    tidy (fixed keepZeros places b)
  else tidy (withPoint keepZeros (count - 1) (padded count n)) ++ exponentPart e

end KnotAtlas.Decimal
