/-!
Long integers. Text of more digits than the limit is not read as an integer in base ten, and an
integer of more digits is not shown.
-/

namespace KnotAtlas.Decimal

/-- The most digits with which an integer is read or shown. -/
def digitLimit : Nat := 4300

def isShowable (n : Int) : Bool :=
  n.natAbs < Nat.pow 10 digitLimit

/-- Tells that an integer is too long; where one is read, its digits are counted. -/
def tooLong (digits : Option Nat) : String :=
  let count := match digits with | some n => s!": value has {n} digits" | none => ""
  s!"Exceeds the limit ({digitLimit} digits) for integer string conversion{count}; " ++
    "use sys.set_int_max_str_digits() to increase the limit"

end KnotAtlas.Decimal
