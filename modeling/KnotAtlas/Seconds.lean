import KnotAtlas.Decimal.Binary
import KnotAtlas.Value

/-!
Readings of a clock in seconds. A clock that was set and moved by whole seconds gives whole
readings; any fraction on the way gives floating ones. Comparison is exact between the two kinds,
but a whole reading and a floating one can be added or subtracted only if a floating number comes
near the whole one.
-/

namespace KnotAtlas

inductive Seconds where
  | whole (n : Int)
  | floating (x : Float)
  deriving Inhabited

namespace Seconds

def toFloat : Seconds → Float
  | .whole n => Decimal.withSign (n < 0) (Decimal.nearest n.natAbs 1)
  | .floating x => x

def toValue : Seconds → Value
  | .whole n => .int n
  | .floating x => .float x

def ofValue? : Value → Option Seconds
  | .int n => some (.whole n)
  | .bool b => some (.whole b.toNat)
  | .float x => some (.floating x)
  | _ => none

instance : Add Seconds where
  add
    | .whole a, .whole b => .whole (a + b)
    | a, b => .floating (a.toFloat + b.toFloat)

instance : Sub Seconds where
  sub
    | .whole a, .whole b => .whole (a - b)
    | a, b => .floating (a.toFloat - b.toFloat)

def tooLarge : String := "int too large to convert to float"

def hasFloat : Seconds → Bool
  | .whole n => (Decimal.ofInt? n).isSome
  | .floating _ => true

def agree (a b : Seconds) : Bool :=
  match a, b with
  | .whole _, .whole _ => true
  | a, b => a.hasFloat && b.hasFloat

def add? (a b : Seconds) : Option Seconds :=
  if a.agree b then some (a + b) else none

def age? (now since : Seconds) : Option Seconds :=
  if now.agree since then some (now - since) else none

/-- A reading for comparison with infinities and with what is no number; there, one whole number is
as good as another. -/
def roughly : Seconds → Float
  | .whole _ => 0
  | .floating x => x

/-- The sign and the exact ratio of a finite reading. -/
def ratio? : Seconds → Option (Int × Nat)
  | .whole n => some (n, 1)
  | .floating x =>
    (Decimal.Binary.ofFloat? x).map fun b =>
      let (num, den) := b.ratio
      (if Decimal.isNegative x then -(num : Int) else num, den)

/-- Whether one reading is before another; nothing is before or after what is no number. -/
def before : Seconds → Seconds → Bool
  | .whole a, .whole b => a < b
  | .floating a, .floating b => a < b
  | a, b =>
    match a.ratio?, b.ratio? with
    | some (m, p), some (n, q) => m * q < n * p
    | _, _ => a.roughly < b.roughly

def notAfter : Seconds → Seconds → Bool
  | .whole a, .whole b => a ≤ b
  | .floating a, .floating b => a ≤ b
  | a, b =>
    match a.ratio?, b.ratio? with
    | some (m, p), some (n, q) => m * q ≤ n * p
    | _, _ => a.roughly ≤ b.roughly

instance : LT Seconds := ⟨fun a b => before a b = true⟩

instance : LE Seconds := ⟨fun a b => notAfter a b = true⟩

instance : DecidableLT Seconds := fun a b => inferInstanceAs (Decidable (before a b = true))

instance : DecidableLE Seconds := fun a b => inferInstanceAs (Decidable (notAfter a b = true))

end Seconds
end KnotAtlas
