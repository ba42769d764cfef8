import KnotAtlas.Decimal.Binary

/-!
The shortest decimal that reads back as a given floating number. Digits are tried in rising number;
on each decimal grid only the two neighbours of the number can do, and the nearer of those that lie
in the interval of reals that round to it wins.
-/

namespace KnotAtlas.Decimal

/-- A decimal: `digits · 10^exponent`. -/
structure Digits where
  digits : Nat
  exponent : Int
  deriving DecidableEq, Repr

def digitCount (n : Nat) : Nat :=
  (Nat.toDigits 10 n).length

/-- Powers of ten past this one exceed what any floating number needs. -/
def scale : Nat := 330

/-- The exponent of the leading decimal digit of `num / den`. -/
def leadingExponent (num den : Nat) : Int :=
  (digitCount (num * Nat.pow 10 scale / den) : Int) - 1 - scale

/-- A ratio in units of `10 ^ e`, rounded down. -/
def floorInUnits (num den : Nat) (e : Int) : Nat :=
  num * Nat.pow 10 (-e).toNat / (den * Nat.pow 10 e.toNat)

/-- The distance of `d · 10^e` from `num / den`, in units of `1 / (den · 10^-e)` where `e` is
negative and of `1 / den` where it is not. -/
def distance (num den d : Nat) (e : Int) : Nat :=
  let value := num * Nat.pow 10 (-e).toNat
  let point := d * den * Nat.pow 10 e.toNat
  if value ≤ point then point - value else value - point

/-- Whether `d · 10^e` lies in the interval of reals that round to `b`. In quarters of a unit of
`b`, the interval reaches up by two and down by two, or by one where the numbers below are twice as
dense; its ends belong to it if the mantissa is even. -/
def readsBack (b : Binary) (d : Nat) (e : Int) : Bool :=
  let dense := b.mantissa = Nat.pow 2 52 && leastExponent < b.exponent
  let low := 4 * b.mantissa - (if dense then 1 else 2)
  let high := 4 * b.mantissa + 2
  let q := b.exponent - 2
  -- both sides of `d · 10^e ~ x · 2^q` as whole numbers
  let point := d * Nat.pow 10 e.toNat * Nat.pow 2 (-q).toNat
  let atEnd (x : Nat) := x * Nat.pow 2 q.toNat * Nat.pow 10 (-e).toNat
  if b.mantissa % 2 = 0 then atEnd low ≤ point && point ≤ atEnd high
  else atEnd low < point && point < atEnd high

/-- The decimal with digits from unit `10^e` on that reads back as `b`, if there is one. -/
def onGrid? (b : Binary) (e : Int) : Option Digits :=
  let (num, den) := b.ratio
  let d := floorInUnits num den e
  match readsBack b d e, readsBack b (d + 1) e with
  | true, true =>
    let below := distance num den d e
    let above := distance num den (d + 1) e
    some ⟨if below < above || (below == above && d % 2 == 0) then d else d + 1, e⟩
  | true, false => some ⟨d, e⟩
  | false, true => some ⟨d + 1, e⟩
  | false, false => none

/-- The first grid with a hit; seventeen digits always suffice. -/
def shortestFrom (b : Binary) (leading : Int) : (tries : Nat) → (count : Nat) → Digits
  | 0, _ => ⟨b.mantissa, 0⟩
  | tries + 1, count =>
    match onGrid? b (leading - count) with
    | some d => d
    | none => shortestFrom b leading tries (count + 1)

/-- Moves final zeros of the digits into the exponent. -/
def Digits.strip (d : Digits) : (fuel : Nat) → Digits
  | 0 => d
  | fuel + 1 =>
    if d.digits % 10 = 0 && d.digits != 0 then strip ⟨d.digits / 10, d.exponent + 1⟩ fuel else d

/-- The shortest decimal that reads back as `b`; zero has the digit zero. -/
def shortest (b : Binary) : Digits :=
  if b.mantissa = 0 then ⟨0, 0⟩
  else
    let (num, den) := b.ratio
    (shortestFrom b (leadingExponent num den) 18 0).strip 20

end KnotAtlas.Decimal
