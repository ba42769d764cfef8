import KnotAtlas.Detect.Detector
import KnotAtlas.Graph.Path
import KnotAtlas.Graph.Structure
import KnotAtlas.Story.Build

/-!
Detection checked against the graph of a story. The graph is kept for a limited time. While it is
fresh and checking is on, a name that the graph does not know is replaced by the best one that it
does; otherwise the detector's answers pass through as they are.
-/

namespace KnotAtlas

/-- A graph with what stands out in it, as far as detection goes. -/
structure Analysis where
  graph : Graph
  unreachable : List String
  deadEnds : List String
  deriving DecidableEq, Repr

namespace Analysis

def entryCandidates : List String := ["game_start", "start"]

/-- The knots from which reachability is measured: the usual first knots that the graph has, and its
first one. -/
def starts (knots : List String) : List String :=
  (entryCandidates ++ knots.take 1).filter (· ∈ knots)

def ofGraph (g : Graph) : Analysis :=
  { graph := g
    unreachable := KnotAtlas.unreachable g.knots g.links (starts g.knots)
    deadEnds := KnotAtlas.deadEnds g.knots g.links }

def contains (a : Analysis) (knot : String) : Bool :=
  knot ∈ a.graph.knots

end Analysis

/-- A detector with the graph that it is checked against. -/
structure Validated (τ : Type) where
  detector : Detector
  enabled : Bool := true
  ttl : τ
  debug : Bool := false
  cached : Option (Analysis × τ) := none

namespace Validated

variable {τ : Type}

def logger : String := "inkscope.runtime.validation"

def reset (v : Validated τ) : Validated τ :=
  { v with cached := none }

def withDetector (v : Validated τ) (d : Detector) : Validated τ :=
  { v with detector := d }

/-- Keeps a graph from `now` on; an empty graph drops the old one. -/
def setGraph (v : Validated τ) (now : τ) (g : Graph) : Logged (Option Analysis × Validated τ) :=
  if g.isEmpty then do
    Log.emit .warning logger "static_structure_unavailable" []
    return (none, v.reset)
  else do
    let a := Analysis.ofGraph g
    Log.emit .info logger "static_structure_updated"
      [("knots", .int g.knots.length), ("links", .int g.links.length),
        ("unreachable", .int a.unreachable.length), ("dead_ends", .int a.deadEnds.length)]
    return (some a, { v with cached := some (a, now) })

/-- What keeping the graph of a story gives. -/
structure StorySet (τ : Type) where
  analysis : Option Analysis
  diagnostics : Story.Diagnostics
  layer : Validated τ

def setStory (v : Validated τ) (now : τ) (source : Story.Source) :
    Logged (Except Story.BuildError (StorySet τ)) := do
  match ← source.build with
  | .error e => return .error e
  | .ok built =>
    let (analysis, layer) ← v.setGraph now built.graph
    return .ok ⟨analysis, built.diagnostics, layer⟩

def tell (v : Validated τ) (name : String) (context : OrderedMap String Value) : Logged Unit :=
  Log.emitIf v.debug .debug logger name context

section Times

variable [Sub τ] [LT τ] [DecidableLT τ] {ε σ : Type} [StoryEngine ε σ]

def fresh? (v : Validated τ) (now : τ) : Option Analysis :=
  match v.cached with
  | some (a, since) => if now - since < v.ttl then some a else none
  | none => none

def checking? (v : Validated τ) (now : τ) : Option Analysis :=
  if v.enabled then v.fresh? now else none

/-- Replaces a name that the graph does not know, by what was remembered before, the fallback, or
the first knot of the graph. -/
def substitute? (a : Analysis) (previous fallback : Option String) : Option String :=
  let known (name : Option String) : Option String := name.filter a.contains
  ((known previous).or (known fallback)).or a.graph.knots.head?

def unknownEvent (knot : String) : Log.Event :=
  ⟨.warning, logger, "runtime_knot_not_in_static_structure", [("knot", .str knot)]⟩

def currentKnot (v : Validated τ) (now : τ) (e : ε) (fallback : Option String) :
    Logged (String × Validated τ) := do
  let previous := v.detector.lastKnown
  let (knot, d) ← v.detector.currentKnot e fallback
  let v := v.withDetector d
  match v.checking? now with
  | none => return (knot, v)
  | some a =>
    if a.contains knot then return (knot, v)
    else
      Log.emitEvent (unknownEvent knot)
      match substitute? a previous fallback with
      | none => return (knot, v)
      | some better =>
        v.tell "static_substitute" [("knot", .str better), ("rejected", .str knot)]
        let d ← d.remember better
        return (better, v.withDetector d)

/-- The knot that a choice is made in: what is remembered, where the graph does not know the knot
that was given. -/
def choiceKnot (v : Validated τ) (now : τ) (knot : String) : Logged String :=
  match v.checking? now with
  | none => pure knot
  | some a =>
    if a.contains knot then pure knot
    else do
      Log.emit .warning logger "current_knot_not_in_static_structure" [("knot", .str knot)]
      return v.detector.lastKnown.getD knot

/-- The target of the link out of a knot that a choice comes closest to. -/
def closestTarget? (links : List Link) (knot : String) (index : Int) : Option String :=
  let targets := targetsOf links knot
  targets[min index.toNat (targets.length - 1)]?

def afterChoice (v : Validated τ) (now : τ) (e : ε) (knot : String) (index : Int)
    (verified : Bool) : Logged (String × Validated τ × ε) := do
  let knot ← v.choiceKnot now knot
  let (predicted, d, e) ← v.detector.afterChoice e knot index verified
  let v := v.withDetector d
  match v.checking? now with
  | none => return (predicted, v, e)
  | some a =>
    if a.contains predicted then return (predicted, v, e)
    else
      Log.emit .warning logger "predicted_knot_not_in_static_structure"
        [("knot", .str predicted)]
      match closestTarget? a.graph.links knot index with
      | none => return (predicted, v, e)
      | some target =>
        v.tell "static_target_substitute" [("knot", .str target), ("rejected", .str predicted)]
        return (target, v, e)

def knots (v : Validated τ) (now : τ) : Logged (List String) :=
  match v.fresh? now with
  | some a => pure a.graph.knots
  | none => do
    Log.emit .warning logger "static_structure_stale" []
    return []

def isReachable (v : Validated τ) (now : τ) (knot : String) : Bool :=
  (v.fresh? now).all fun a => knot ∉ a.unreachable

def isDeadEnd (v : Validated τ) (now : τ) (knot : String) : Bool :=
  (v.fresh? now).any fun a => knot ∈ a.deadEnds

def links (v : Validated τ) (now : τ) : List Link :=
  ((v.fresh? now).map (·.graph.links)).getD []

def targets (v : Validated τ) (now : τ) (knot : String) : List String :=
  targetsOf (v.links now) knot

def sources (v : Validated τ) (now : τ) (knot : String) : List String :=
  sourcesOf (v.links now) knot

def path? (v : Validated τ) (now : τ) (start goal : String) : Option (List String) :=
  (v.fresh? now).bind fun a => findPath? a.graph.links start goal

end Times

end Validated
end KnotAtlas
