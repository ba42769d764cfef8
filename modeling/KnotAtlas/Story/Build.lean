import KnotAtlas.Log.Event
import KnotAtlas.Story.Diagnostics
import KnotAtlas.Story.Document

/-!
Building the graph of a story. Each knot is extracted on its own, so one bad body costs its own
links only. A document with a fault gives the empty graph and one error; only a bad knot name and an
integer that is too long stop the building.
-/

namespace KnotAtlas.Story

inductive BuildError where
  | name (fault : Graph.NameFault)
  | integerTooLong (digits : Nat)
  deriving DecidableEq, Repr

def BuildError.message : BuildError → String
  | .name fault => fault.message
  | .integerTooLong digits => Decimal.tooLong (some digits)

/-- A graph with what was found while it was built. -/
structure Built where
  graph : Graph
  diagnostics : Diagnostics
  deriving DecidableEq, Repr

def logger : String := "inkscope.graph.bytecode"

def bodies (named : OrderedMap String Value) : OrderedMap String (List Value) :=
  named.filterMap fun (name, body) => body.items?.map (name, ·)

/-- The names whose content is no array, each with its content. -/
def bodiless (named : OrderedMap String Value) : OrderedMap String Value :=
  named.filter fun entry => entry.2.items?.isNone

def extracts (bodies : OrderedMap String (List Value)) : List Extract :=
  bodies.map fun (name, body) => extract bodies.keys name body

/-- The graph and the diagnostics that named content and its extracts give. -/
def assemble (named : OrderedMap String Value) (extracts : List Extract) : Built :=
  { graph := ⟨(bodies named).keys, extracts.flatMap (·.links)⟩
    diagnostics :=
      { skippedKnots := (bodiless named).keys ++ (extracts.filter (·.cutOff)).map (·.name)
        dangling := extracts.flatMap (·.dangling) } }

def danglingEvent (d : Dangling) : Log.Event :=
  ⟨.debug, logger, "divert_target_unresolved",
    [("source", .str d.source), ("target", .str d.target), ("in_choice", .bool d.inChoice)]⟩

def Extract.events (e : Extract) : List Log.Event :=
  e.dangling.map danglingEvent ++
    (if e.cutOff then [⟨.warning, logger, "knot_body_too_deep", [("knot", .str e.name)]⟩] else [])

def bodilessEvents (named : OrderedMap String Value) : List Log.Event :=
  (bodiless named).map fun (name, content) =>
    ⟨.warning, logger, "knot_body_not_array",
      [("knot", .str name), ("kind", .str content.kind)]⟩

def buildNamed (named : OrderedMap String Value) : Logged (Except BuildError Built) :=
  match (bodies named).keys.findSome? Graph.nameFault? with
  | some fault => ⟨.error (.name fault), bodilessEvents named⟩
  | none =>
    let extracts := extracts (bodies named)
    let built := assemble named extracts
    ⟨.ok built,
      bodilessEvents named ++ extracts.flatMap (·.events) ++
      [⟨.debug, logger, "story_graph_built",
        [("nodes", .int built.graph.knots.length), ("links", .int built.graph.links.length),
          ("dangling", .int built.diagnostics.dangling.length)]⟩]⟩

def buildFaulty (fault : Fault) : Logged (Except BuildError Built) :=
  ⟨.ok ⟨{}, { errors := [fault.reason] }⟩,
    [⟨.warning, logger, "bytecode_structure_invalid", [("reason", .str fault.reason)]⟩]⟩

def buildDecoded (document : Value) : Logged (Except BuildError Built) :=
  match namedContent document with
  | .ok named => buildNamed named
  | .error fault => buildFaulty fault

def Source.build (source : Source) : Logged (Except BuildError Built) :=
  match source.load with
  | .ok document => buildDecoded document
  | .error (.malformed fault) => buildFaulty fault
  | .error (.integerTooLong digits) => pure (.error (.integerTooLong digits))

end KnotAtlas.Story
