import KnotAtlas.Story.Recording
import KnotAtlas.Text.CloseMatch

/-!
What a story's author should know about the building of its graph: faults of the document, knots
that were passed over, and dangling diverts, with known names that a target may have been meant
for.
-/

namespace KnotAtlas.Story

def Dangling.suggestions (d : Dangling) (available : List String) : List String :=
  Text.CloseMatch.closest (targetHead d.target) available

/-- What was found while a graph was built. -/
structure Diagnostics where
  errors : List String := []
  skippedKnots : List String := []
  dangling : List Dangling := []
  deriving DecidableEq, Repr

namespace Diagnostics

def hasProblems (d : Diagnostics) : Bool :=
  !d.errors.isEmpty || !d.skippedKnots.isEmpty || !d.dangling.isEmpty

def listedDangling : Nat := 20

def danglingLine (available : List String) (d : Dangling) : String :=
  let place := if d.inChoice then "choice" else "flow"
  let line := s!"dangling: {d.source} -> {d.target} ({place})"
  match d.suggestions available with
  | [] => line
  | hints => line ++ "; did you mean " ++ ", ".intercalate hints ++ "?"

/-- A readable report; empty if nothing was found. -/
def report (d : Diagnostics) (available : List String) : String :=
  let more := d.dangling.length - listedDangling
  let lines :=
    d.errors.map (fun e => s!"error: {e}") ++
    d.skippedKnots.map (fun k => s!"skipped: knot '{k}' has a malformed body") ++
    (d.dangling.take listedDangling).map (danglingLine available) ++
    (if more = 0 then [] else [s!"... and {more} more dangling diverts"])
  "\n".intercalate lines

end Diagnostics
end KnotAtlas.Story
