import KnotAtlas.Detect.FileStem
import KnotAtlas.Detect.Strategy
import KnotAtlas.Engine.Scripted
import KnotAtlas.Flow.Basic

/-!
Detectors. A detector names the knot that an engine is in, from the engine's signals or else from
what it was told or remembers, and predicts where a choice leads from its flow map. It remembers
the last knot it was sure of. A prediction can be verified by one speculative step of the engine.
-/

namespace KnotAtlas

open Detect (isKnotName startKnot Strategy)

/-- A detector: whether it tells each of its decisions, its flow map, and the knot it remembers. -/
structure Detector where
  debug : Bool := false
  flows : FlowMap := []
  lastKnown : Option String := none
  deriving DecidableEq, Repr

namespace Detector

variable {ε σ : Type} [StoryEngine ε σ]

/-- A detector with the given settings; a name that belongs to no knot is not remembered. -/
def create (flows : FlowMap) (useSample debug : Bool) (initial : Option String) : Detector :=
  { debug
    flows := OrderedMap.update (if useSample then FlowMap.sample else []) flows
    lastKnown := Detect.knotName? initial }

def tell (d : Detector) (name : String) (context : OrderedMap String Value) : Logged Unit :=
  Log.emitIf d.debug .debug Detect.logger name context

/-- Whether `remember` would change what a detector remembers. -/
def isNews (d : Detector) (name : String) : Bool :=
  isKnotName name && d.lastKnown != some name

def remember (d : Detector) (name : String) : Logged Detector :=
  if d.isNews name then do
    d.tell "last_known_knot_updated" [("knot", .str name)]
    return { d with lastKnown := some name }
  else pure d

def addFlow (d : Detector) (knot : String) (flow : Flow) : Logged Detector := do
  d.tell "knot_flow_mapping_added"
    [("knot", .str knot), ("choices", .int flow.choices.length)]
  return { d with flows := d.flows.insert knot flow }

/-- Adds the entries of a flow map, or takes it in place of the old one. -/
def setFlows (d : Detector) (flows : FlowMap) (replace : Bool) : Detector :=
  { d with flows := if replace then flows else d.flows.update flows }

def mapped? (d : Detector) (knot : String) (index : Int) : Option String :=
  (d.flows.find? knot).bind (·.targetFor? index)

/-- The knot that a choice leads to; without an entry the story stays where it is. -/
def predict (d : Detector) (knot : String) (index : Int) : Logged String :=
  match d.mapped? knot index with
  | some target => do
    d.tell "target_predicted"
      [("knot", .str knot), ("choice_index", .int index), ("predicted", .str target)]
    return target
  | none => do
    d.tell "no_flow_mapping" [("knot", .str knot), ("choice_index", .int index)]
    return knot

def tellHit (d : Detector) (hit : Option (Strategy × String)) : Logged (Option String) :=
  match hit with
  | some (strategy, knot) => do
    d.tell "knot_detected" [("strategy", .str strategy.name), ("knot", .str knot)]
    return some knot
  | none => pure none

def ofSignal (d : Detector) (signal : Signal) : Logged (Option String) :=
  d.tellHit (Detect.resolve? Strategy.all signal)

def ofRawSignal (d : Detector) (signal : Detect.RawSignal) : Logged (Option String) := do
  let hit ← Detect.resolveRaw signal Strategy.all
  d.tellHit hit

def detect (d : Detector) (e : ε) : Logged (Option String) := do
  let signal ← StoryEngine.signal e
  d.ofSignal signal

/-- What a detector says when the signals name no knot: the fallback, what it remembers, or the
start. -/
def withoutSignal (d : Detector) (fallback : Option String) : Logged String :=
  match Detect.knotName? fallback, d.lastKnown with
  | some knot, _ => do
    d.tell "knot_from_fallback" [("knot", .str knot)]
    return knot
  | none, some knot => do
    d.tell "knot_from_last_known" [("knot", .str knot)]
    return knot
  | none, none => do
    d.tell "knot_detection_exhausted" [("result", .str startKnot)]
    return startKnot

def currentKnot (d : Detector) (e : ε) (fallback : Option String) :
    Logged (String × Detector) := do
  match ← d.detect e with
  | some knot =>
    let d ← d.remember knot
    return (knot, d)
  | none =>
    let knot ← d.withoutSignal fallback
    return (knot, d)

def look (d : Detector) (e : ε) : Logged (Except Attribute.Fault (Option String) × ε) :=
  (.ok ·, e) <$> d.detect e

def lookAhead (d : Detector) (e : ε) : Logged (Except Attribute.Fault (Option String) × ε) :=
  StoryEngine.speculate e d.look

def verify (d : Detector) (e : ε) (predicted : String) :
    Logged (String × Detector × ε) := do
  let (detected, e) ← d.lookAhead e
  match detected with
  | .error f =>
    Log.emit .warning Detect.logger "knot_verification_failed"
      [("predicted", .str predicted), ("error", .str f.message)]
    return (predicted, d, e)
  | .ok none =>
    let d ← d.remember predicted
    return (predicted, d, e)
  | .ok (some knot) =>
    if knot = predicted then
      let d ← d.remember predicted
      return (predicted, d, e)
    else
      d.tell "knot_verification_adjusted"
        [("predicted", .str predicted), ("detected", .str knot)]
      let d ← d.remember knot
      return (knot, d, e)

def confirm (d : Detector) (e : ε) (predicted : String) : Logged (String × Detector × ε) :=
  match StoryEngine.canContinue e with
  | .ok true => d.verify e predicted
  | .ok false => return (predicted, d, e)
  | .error f => do
    Log.emit .debug Detect.logger "engine_can_continue_unreadable" [("error", .str f.message)]
    return (predicted, d, e)

/-- The knot that a choice leads to, verified on request if the engine has more to tell. -/
def afterChoice (d : Detector) (e : ε) (knot : String) (index : Int) (verified : Bool) :
    Logged (String × Detector × ε) := do
  let predicted ← d.predict knot index
  let d ← d.remember predicted
  if verified then d.confirm e predicted else return (predicted, d, e)

/-- The knot that a story starts in when it is entered through a file: the file's stem if that is a
known knot, else the first known knot, else the start. -/
def initialKnot (file : String) (known : Option (List String)) : String :=
  let stem := Detect.fileStem file
  if isKnotName stem && known.all (stem ∈ ·) then stem
  else ((known.getD []).head?).getD startKnot

def enter (d : Detector) (file : String) (known : Option (List String)) :
    Logged (String × Detector) := do
  let knot := initialKnot file known
  let d ← d.remember knot
  Log.emit .debug Detect.logger "initial_knot_determined"
    [("file", .str file), ("knot", .str knot)]
  return (knot, d)

end Detector

def Engine.quickKnot (e : Engine) (fallback : Option String) : Logged String :=
  Prod.fst <$> ({} : Detector).currentKnot e fallback

end KnotAtlas
