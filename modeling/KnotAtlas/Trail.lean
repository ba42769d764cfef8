import KnotAtlas.Value

/-!
The trail of a session: which knots it passed through. A step that stays in its knot counts as a
step only; one that enters another knot counts a visit and adds a transition. Old transitions may
be dropped; visits and steps are never forgotten before a reset.
-/

namespace KnotAtlas

/-- One change of knot. -/
structure Transition where
  step : Nat
  source : Option String
  target : String
  deriving DecidableEq, Repr

/-- What is remembered of a session; `limit` is how many transitions are kept, none for all. -/
structure Trail where
  limit : Option Nat := some 1000
  history : List Transition := []
  visits : OrderedMap String Nat := []
  current : Option String := none
  steps : Nat := 0
  deriving DecidableEq, Repr

namespace Trail

/-- The last `limit` items of a list. -/
def lastOf {α : Type} (limit : Option Nat) (xs : List α) : List α :=
  match limit with
  | some n => xs.drop (xs.length - n)
  | none => xs

def visitCount (t : Trail) (knot : String) : Nat :=
  (t.visits.find? knot).getD 0

/-- Records a step in `knot`; true if the step entered it. -/
def record (t : Trail) (knot : String) : Bool × Trail :=
  let step := t.steps + 1
  if t.current = some knot then (false, { t with steps := step })
  else
    (true,
      { t with
        steps := step
        current := some knot
        visits := t.visits.insert knot (t.visitCount knot + 1)
        history := lastOf t.limit (t.history ++ [⟨step, t.current, knot⟩]) })

/-- Records steps one after the other; gives for each whether it entered a knot. -/
def recordAll (t : Trail) : List String → List Bool × Trail
  | [] => ([], t)
  | knot :: rest =>
    let (entered, t) := t.record knot
    let (later, t) := t.recordAll rest
    (entered :: later, t)

def reset (t : Trail) : Trail :=
  { limit := t.limit }

inductive LimitError where
  | tooLarge
  | negative
  | notAnInteger
  deriving DecidableEq, Repr

def LimitError.message : LimitError → String
  | .tooLarge => "Python int too large to convert to C ssize_t"
  | .negative => "maxlen must be non-negative"
  | .notAnInteger => "an integer is required"

/-- The first limit that does not fit a machine word. -/
def limitBound : Nat := Nat.pow 2 63

/-- The limit that a value asks for; the absent value asks for none. -/
def limitOf : Value → Except LimitError (Option Nat)
  | .null => .ok none
  | .int n =>
    if n < -(limitBound : Int) || (limitBound : Int) ≤ n then .error .tooLarge
    else if n < 0 then .error .negative
    else .ok (some n.toNat)
  | .bool b => .ok (some b.toNat)
  | _ => .error .notAnInteger

/-- An empty trail with the limit that a value asks for. -/
def openWith (limit : Value) : Except LimitError Trail :=
  (limitOf limit).map fun limit => { limit }

end Trail
end KnotAtlas
