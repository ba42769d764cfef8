import KnotAtlas.Decimal.Shortest

/-!
How a floating number is written. The record `Layout` holds a format's decisions; `Layout.plain` is
the format of this library. A number with fixed places is rounded from its exact value.
-/

namespace KnotAtlas.Decimal

/-- The decisions of a format for floating numbers. -/
structure Layout where
  /-- Leading digits with an exponent below this one are written with an exponent part. -/
  leastPositional : Int
  /-- Leading digits with an exponent from this one on are written with an exponent part. -/
  endPositional : Int
  /-- The least number of digits in an exponent part. -/
  exponentWidth : Nat
  infinity : String
  notANumber : String

/-- Positional from `10^-4` to below `10^16`; `.0` is kept; exponents have a sign and two digits. -/
def Layout.plain : Layout :=
  ⟨-4, 16, 2, "inf", "nan"⟩

def padded (width n : Nat) : List Char :=
  let digits := Nat.toDigits 10 n
  List.replicate (width - digits.length) '0' ++ digits

/-- Digits with the point after the first `point` of them, filled with zeros as needed. -/
def positional (digits : List Char) (point : Int) : List Char :=
  if point ≤ 0 then ['0', '.'] ++ List.replicate (-point).toNat '0' ++ digits
  else
    let whole := digits.take point.toNat
    let fraction := digits.drop point.toNat
    whole ++ List.replicate (point.toNat - whole.length) '0' ++
      '.' :: (if fraction.isEmpty then ['0'] else fraction)

/-- Digits with an exponent part; the point stands after the first digit if there are more. -/
def scientific (l : Layout) (digits : List Char) (exponent : Int) : List Char :=
  let fraction := digits.drop 1
  digits.take 1 ++ (if fraction.isEmpty then [] else '.' :: fraction) ++
    'e' :: (if exponent < 0 then '-' else '+') :: padded l.exponentWidth exponent.natAbs

def Layout.magnitude (l : Layout) (b : Binary) : List Char :=
  let d := shortest b
  let digits := Nat.toDigits 10 d.digits
  let leading := d.exponent + digits.length - 1
  if l.leastPositional ≤ leading && leading < l.endPositional then positional digits (leading + 1)
  else scientific l digits leading

def Layout.write (l : Layout) (x : Float) : String :=
  if x.isNaN then l.notANumber
  else
    let sign := if isNegative x then "-" else ""
    match Binary.ofFloat? x with
    | some b => sign ++ String.ofList (l.magnitude b)
    | none => sign ++ l.infinity

def floatText (x : Float) : String :=
  Layout.plain.write x

/-- A number with two decimal places, rounded from its exact value; a half goes to the even
neighbour. -/
def twoPlaces (x : Float) : String :=
  match Binary.ofFloat? x with
  | none => Layout.plain.write x
  | some b =>
    let (num, den) := b.ratio
    let hundredths := roundHalfEven (num * 100) den
    let sign := if isNegative x then "-" else ""
    sign ++ toString (hundredths / 100) ++ "." ++ String.ofList (padded 2 (hundredths % 100))

end KnotAtlas.Decimal
