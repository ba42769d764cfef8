import KnotAtlas.Atlas.Misfit
import KnotAtlas.Detect.Validated
import KnotAtlas.Source.Cache
import KnotAtlas.Trail

/-!
The atlas of a story: source scans, the compiled graph, detection and the trail behind one object,
each with a lifetime of its own. Accepting a story renews the compiled graph, the graph that
detection is checked against, and the flow map together; a story that gives no knots changes
nothing.
-/

namespace KnotAtlas

/-- A compiled story with its graph's report and what was found while it was built. -/
structure CompiledStory (τ : Type) where
  report : StructureReport
  diagnostics : Story.Diagnostics
  compiledAt : τ

namespace CompiledStory

variable {τ : Type}

def graph (c : CompiledStory τ) : Graph :=
  c.report.graph

def knots (c : CompiledStory τ) : List String :=
  c.graph.knots

def ofBuilt (now : τ) (built : Story.Built) : CompiledStory τ :=
  ⟨built.graph.analyze, built.diagnostics, now⟩

end CompiledStory

structure Atlas (τ : Type) where
  settings : Settings
  layer : Validated τ
  sources : Source.Cache τ
  compiledTtl : τ
  compiled : Option (CompiledStory τ) := none
  trail : Trail := {}

namespace Atlas

variable {τ : Type}

def logger : String := "inkscope.manager"

def create (settings : Settings) : Atlas Seconds :=
  let debug := settings.debug.isOn
  { settings
    layer :=
      { detector := Detector.create settings.flows.flows settings.useSample.isOn debug none
        ttl := settings.staticTtl.span
        enabled := settings.staticValidation.isOn
        debug }
    sources := { ttl := settings.sourceTtl.span, enabled := settings.sourceCache.isOn }
    compiledTtl := settings.compiledTtl.span }

def detector (a : Atlas τ) : Detector :=
  a.layer.detector

def withLayer (a : Atlas τ) (layer : Validated τ) : Atlas τ :=
  { a with layer }

def withDetector (a : Atlas τ) (d : Detector) : Atlas τ :=
  a.withLayer (a.layer.withDetector d)

/-- The flow map of a graph: its links, then the entries of the settings for knots without links,
then those of the sample if it is in use. -/
def flowsFor (settings : Settings) (g : Graph) : FlowMap :=
  let sample : FlowMap := if settings.useSample.isOn then FlowMap.sample else []
  (sample.update settings.flows.flows).update (FlowMap.ofLinks g.links)

def addSource (a : Atlas τ) (now : τ) (path content : String) :
    Logged (Source.Scan τ × Atlas τ) := do
  let added ← a.sources.add now path content
  Log.emit .info logger "source_file_added"
    [("file", .str path), ("knots", .int added.scan.knots.length)]
  return (added.scan, { a with sources := added.cache })

/-- Drops a source file; true if it was there. -/
def removeSource (a : Atlas τ) (path : String) : Bool × Atlas τ :=
  (a.sources.entries.has path, { a with sources := a.sources.remove path })

/-- Holds a compiled story, if compiled stories are kept. -/
def hold (a : Atlas τ) (story : CompiledStory τ) : Atlas τ :=
  if a.settings.compiledCache.isOn then { a with compiled := some story } else a

/-- Accepts a graph with what was found while it was built. The clock is read for the story, and
again for the graph that detection is checked against. -/
def accept (a : Atlas τ) (now later : τ) (built : Story.Built) :
    Logged (CompiledStory τ × Atlas τ) := do
  let story := CompiledStory.ofBuilt now built
  let detector := a.detector.setFlows (flowsFor a.settings built.graph) true
  let (_, layer) ← (a.layer.withDetector detector).setGraph later built.graph
  Log.emit .info logger "compiled_story_set"
    [("knots", .int built.graph.knots.length), ("links", .int built.graph.links.length),
      ("dangling_diverts", .int built.diagnostics.dangling.length)]
  return (story, (a.hold story).withLayer layer)

/-- Builds the graph of a story and accepts it if it has knots. The atlas goes on when the graph
cannot be built. -/
def setStory (a : Atlas τ) (now later : τ) (source : Story.Source) :
    Logged (Except Story.BuildError (Option (CompiledStory τ)) × Atlas τ) := do
  match ← source.build with
  | .error e => return (.error e, a)
  | .ok built =>
    if built.graph.isEmpty then
      Log.emit .error logger "compiled_story_rejected"
        [("errors", .list (built.diagnostics.errors.map .str))]
      return (.ok none, a)
    else
      let (story, a) ← a.accept now later built
      return (.ok (some story), a)

/-- Forgets sources, the compiled story and the graph that detection is checked against. -/
def clear (a : Atlas τ) : Logged (Atlas τ) := do
  Log.emit .debug logger "knot_caches_cleared" []
  return { a with
    sources := a.sources.clear
    compiled := none
    layer := a.layer.reset }

end Atlas
end KnotAtlas
