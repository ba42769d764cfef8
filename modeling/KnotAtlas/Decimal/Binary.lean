/-!
Binary floating numbers as exact ratios, and the nearest floating number to a ratio. A finite number
is `m · 2^e` with a whole `m`; of two equally near numbers the one with even `m` is taken.
-/

namespace KnotAtlas.Decimal

/-- A whole number times a power of two. -/
structure Binary where
  mantissa : Nat
  exponent : Int
  deriving DecidableEq, Repr

def leastExponent : Int := -1074

/-- The magnitude of a finite number; none for infinities and what is no number. -/
def Binary.ofFloat? (x : Float) : Option Binary :=
  let bits := x.toBits.toNat
  let field : Nat := bits / Nat.pow 2 52 % 2048
  let fraction : Nat := bits % Nat.pow 2 52
  if field = 2047 then none
  else if field = 0 then some ⟨fraction, leastExponent⟩
  else some ⟨fraction + Nat.pow 2 52, (field : Int) - 1075⟩

/-- Whether the sign of a number is minus; zero has a sign too. -/
def isNegative (x : Float) : Bool :=
  x.toBits.toNat / Nat.pow 2 63 % 2 == 1

def Binary.ratio (b : Binary) : Nat × Nat :=
  (b.mantissa * Nat.pow 2 b.exponent.toNat, Nat.pow 2 (-b.exponent).toNat)

/-- The whole number nearest to `num / den`, of two the even one. -/
def roundHalfEven (num den : Nat) : Nat :=
  let q := num / den
  let r := num % den
  if 2 * r < den then q
  else if den < 2 * r then q + 1
  else if q % 2 = 0 then q else q + 1

/-- `num / den` in units of `2 ^ e`, rounded. -/
def roundInUnits (num den : Nat) (e : Int) : Nat :=
  roundHalfEven (num * Nat.pow 2 (-e).toNat) (den * Nat.pow 2 e.toNat)

/-- The exponent at which `num / den` has a mantissa of full width, or the least exponent. -/
def unitFor (num den : Nat) : Int :=
  let guess := (num.log2 : Int) - den.log2 - 52
  let short := num * Nat.pow 2 (-guess).toNat < Nat.pow 2 52 * (den * Nat.pow 2 guess.toNat)
  max leastExponent (if short then guess - 1 else guess)

/-- The bits of the non-negative floating number nearest to `num / den`; a ratio past the greatest
number gives infinity. -/
def nearestBits (num den : Nat) : Nat :=
  if num = 0 then 0
  else
    let e := unitFor num den
    let bits := (e - leastExponent).toNat * Nat.pow 2 52 + roundInUnits num den e
    min bits (2047 * Nat.pow 2 52)

/-- The non-negative floating number nearest to `num / den`. -/
def nearest (num den : Nat) : Float :=
  Float.ofBits (UInt64.ofNat (nearestBits num den))

/-- The same number with a minus sign if `negative`. -/
def withSign (negative : Bool) (x : Float) : Float :=
  if negative then -x else x

/-- The floating number nearest to an integer; none if it lies past the greatest number. -/
def ofInt? (n : Int) : Option Float :=
  let x := nearest n.natAbs 1
  if x.isInf then none else some (withSign (n < 0) x)

def infinity : Float := Float.ofBits 0x7FF0000000000000

def notANumber : Float := Float.ofBits 0x7FF8000000000000

end KnotAtlas.Decimal
