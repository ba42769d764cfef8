import KnotAtlas.Graph.Structure
import KnotAtlas.Decimal.Layout
import KnotAtlas.Integrity.Report
import KnotAtlas.Story.Diagnostics
import KnotAtlas.Text.Lowercase

/-!
The checks of a compiled story: entry points, reachability, dead ends, branching, and dangling
diverts. Only the lack of an entry point fails; the others warn.
-/

namespace KnotAtlas.Integrity

def maxEntryPoints : Nat := 3

def linearBranching : Float := 1.2

def complexBranching : Float := 3.0

def joined (names : List String) : String :=
  ", ".intercalate names

def occursIn (word : List Char) : List Char → Bool
  | [] => word.isEmpty
  | c :: rest => word.isPrefixOf (c :: rest) || occursIn word rest

def isEndingName (knot : String) : Bool :=
  knot = "DONE" || knot = "END" || occursIn "end".toList (Text.lower knot).toList

def entryPointCheck (entries : List String) : Check :=
  if entries.isEmpty then
    ⟨"entry_points", .fail, "No entry points found - story may have circular dependencies"⟩
  else if maxEntryPoints < entries.length then
    ⟨"entry_points", .warn,
      s!"Multiple entry points found ({entries.length}): {joined entries}"⟩
  else ⟨"entry_points", .pass, s!"Entry points: {joined entries}"⟩

def reachabilityCheck (unreachable : List String) : Check :=
  if unreachable.isEmpty then ⟨"reachability", .pass, "All knots reachable"⟩
  else
    ⟨"reachability", .warn,
      s!"Found {unreachable.length} unreachable knots: {joined unreachable}"⟩

def openEnds (deadEnds : List String) : List String :=
  deadEnds.filter fun k => !isEndingName k

def deadEndCheck (openEnds : List String) : Check :=
  if openEnds.isEmpty then ⟨"dead_ends", .pass, "No unexpected dead ends"⟩
  else
    ⟨"dead_ends", .warn, s!"Found {openEnds.length} potential dead ends: {joined openEnds}"⟩

def branchingCheck (knotCount linkCount : Int) : Check :=
  let factor := branchingFactor knotCount linkCount
  let average := Decimal.twoPlaces factor
  if factor < linearBranching then
    ⟨"branching", .warn,
      s!"Story appears quite linear (average {average} connections per knot)"⟩
  else if complexBranching < factor then
    ⟨"branching", .warn, s!"Story has high complexity (average {average} connections per knot)"⟩
  else ⟨"branching", .pass, s!"Average {average} connections per knot"⟩

/-- The check for dangling diverts, made only if there are any. -/
def danglingChecks (dangling : List Story.Dangling) : List Check :=
  if dangling.isEmpty then []
  else
    [⟨"dangling_diverts", .warn, s!"Found {dangling.length} diverts to unknown knots"⟩]

def missingStory : Report :=
  { checks :=
      [⟨"compiled_story", .fail, "No compiled story structure available for validation"⟩] }

def unreachableAdvice : String :=
  "Consider adding diverts to unreachable knots or removing unused content"

def openEndAdvice : String :=
  "Check that dead end knots are intentional endings or add continuation choices"

/-- The report of a story with the given structure and diagnostics; `known` are the names that a
dangling divert may have been meant for. -/
def inspect (found : StructureReport) (diagnostics : Story.Diagnostics)
    (known : List String) : Report :=
  let ends := openEnds found.deadEnds
  { checks :=
      [entryPointCheck found.entryPoints, reachabilityCheck found.unreachable,
        deadEndCheck ends, branchingCheck found.totalKnots found.totalLinks] ++
      danglingChecks diagnostics.dangling
    suggestions :=
      (if found.unreachable.isEmpty then [] else [unreachableAdvice]) ++
      (if ends.isEmpty then [] else [openEndAdvice]) ++
      (if diagnostics.dangling.isEmpty then [] else [diagnostics.report known]) }

end KnotAtlas.Integrity
