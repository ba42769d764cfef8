import KnotAtlas.Graph.Basic
import KnotAtlas.Story.Walk
import KnotAtlas.Text.Blank
import KnotAtlas.Text.Lines

/-!
What a knot's walk amounts to: its links and its dangling diverts, recorded meeting by meeting. Of
the diverts outside choices only the first to a known knot counts; in a choice each counts. A divert
to no knot is dangling unless it is one of the compiler's own targets.
-/

namespace KnotAtlas.Story

/-- A divert whose target names no knot. -/
structure Dangling where
  source : String
  target : String
  inChoice : Bool := false
  deriving DecidableEq, Repr

def targetHead (target : String) : String :=
  Text.before '.' target

/-- Whether an unknown target is meant to name a knot: relative paths, paths that start with an
index, and places inside a known knot are not. -/
def namesMissingKnot (known : List String) (target : String) : Bool :=
  !".".isPrefixOf target && targetHead target ∉ known && !Text.isAllDigits (targetHead target)

/-- What was recorded so far: the text seen last, whether the main line has its link, the links, and
the dangling diverts. -/
structure Recording where
  lastText : String := ""
  mainLineUsed : Bool := false
  links : List Link := []
  dangling : List Dangling := []
  deriving DecidableEq, Repr

namespace Recording

def label (r : Recording) : String :=
  if r.lastText = "" then blankLabel else r.lastText

def divert (known : List String) (source : String) (r : Recording) (target : String)
    (inChoice : Bool) : Recording :=
  if target ∈ known then
    if inChoice then { r with links := r.links ++ [⟨source, target, r.label, true⟩] }
    else if r.mainLineUsed then r
    else { r with mainLineUsed := true, links := r.links ++ [⟨source, target, r.label, false⟩] }
  else if namesMissingKnot known target then
    { r with dangling := r.dangling ++ [⟨source, target, inChoice⟩] }
  else r

def meet (known : List String) (source : String) (r : Recording) : Meeting → Recording
  | .text fragment => { r with lastText := Text.trim fragment }
  | .divert target inChoice => r.divert known source target inChoice
  | .enter _ _ | .choice _ _ _ => r

end Recording

/-- What the body of one knot gives. A walk that was cut off gives no links, but the dangling
diverts met before. -/
structure Extract where
  name : String
  links : List Link
  dangling : List Dangling
  cutOff : Bool
  deriving DecidableEq, Repr

/-- At most this many arrays are walked inside each other. The program itself is limited in the calls
under way, of which the walk of an array may take two, and cuts off earlier than here. -/
def walkLimit : Nat := 1000

/-- Extracts the links of one knot; `known` are the names of all knots. The recording is made while
the walk is under way. -/
def extractWithin (limit : Nat) (known : List String) (name : String) (body : List Value) :
    Extract :=
  match walkBody (Recording.meet known name) {} limit body with
  | .ok tour => ⟨name, tour.kept.links, tour.kept.dangling, false⟩
  | .error tour => ⟨name, [], tour.kept.dangling, true⟩

/-- Extracts the links of one knot under the library's limit. -/
def extract (known : List String) (name : String) (body : List Value) : Extract :=
  extractWithin walkLimit known name body

end KnotAtlas.Story
