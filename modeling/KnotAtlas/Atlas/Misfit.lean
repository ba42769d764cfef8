import KnotAtlas.Age
import KnotAtlas.Decimal.Reading
import KnotAtlas.Settings.Basic

/-!
Settings that do not fit. An override is taken as it is given, whatever its kind, and nothing is
wrong with it until it is used.
-/

namespace KnotAtlas

inductive Misfit where
  | age (f : AgeFault)
  /-- A fallback in which something may change is not looked for among knots. -/
  | changingFallback (kind : String)
  deriving DecidableEq, Repr

def Misfit.message : Misfit → String
  | .age f => f.message
  | .changingFallback kind => s!"unhashable type: '{kind}'"

namespace Setting

/-- A lifetime from a value; a text stands for the number that it names. -/
def lifetime (v : Value) : Setting Float :=
  match v.text?.bind Decimal.ofText? with
  | some x => .own x
  | none => .verbatim v

def wrongKind? : Setting Float → Option String
  | .own _ => none
  | .verbatim v => if (Seconds.ofValue? v).isSome then none else some v.kind
  | .misplaced _ => some "dict"

/-- The span that a lifetime holds; one that is no number is never asked for it. -/
def span : Setting Float → Seconds
  | .own x => .floating x
  | .verbatim v => (Seconds.ofValue? v).getD (.whole 0)
  | .misplaced _ => .whole 0

def fallbackMisfit? : Setting (Option String) → Option Misfit
  | .verbatim (.list _) => some (.changingFallback "list")
  | .verbatim (.object _) => some (.changingFallback "dict")
  | .misplaced _ => some (.changingFallback "dict")
  | _ => none

end Setting
end KnotAtlas
