import KnotAtlas.Detect.Name
import KnotAtlas.Engine.Signal
import KnotAtlas.Text.Lines

/-!
Ways to tell the knot from a signal: by the call stack, newest frame first, by the current pointer,
by the path. They are tried in order and the first that names a knot wins. A signal that was not
read from an engine may have parts of the wrong kind; a way that cannot work with its part is
passed over.
-/

namespace KnotAtlas.Detect

inductive Strategy where
  | callStack
  | currentPointer
  | pathString
  deriving DecidableEq, Repr

namespace Strategy

def name : Strategy → String
  | .callStack => "call_stack"
  | .currentPointer => "current_pointer"
  | .pathString => "path_string"

/-- The strategies in the order in which they are tried. -/
def all : List Strategy := [.callStack, .currentPointer, .pathString]

def ofName? (s : String) : Option Strategy :=
  all.find? (·.name = s)

end Strategy

def knotName? (name : Option String) : Option String :=
  name.filter isKnotName

def knotOfFrames? (frames : List (Option String)) : Option String :=
  frames.reverse.findSome? knotName?

def knotOfPath? (path : String) : Option String :=
  (Text.splitOn '.' path).find? isKnotName

def Strategy.knot? (s : Strategy) (signal : Signal) : Option String :=
  match s with
  | .callStack => signal.frames.bind knotOfFrames?
  | .currentPointer => knotName? signal.pointer
  | .pathString => signal.path.bind knotOfPath?

/-- A signal whose parts may be of any kind. -/
structure RawSignal where
  frames : Value := .null
  pointer : Value := .null
  path : Value := .null

namespace RawSignal

/-- The frames of a raw signal; an empty value of any kind stands for none. -/
def frames? (r : RawSignal) : Except Value.Misuse (Option (List (Option String))) :=
  if r.frames.isTruthy then
    match r.frames.parts with
    | .ok parts => .ok (some (parts.map Value.text?))
    | .error _ => .error (.notReversible r.frames.kind)
  else .ok none

/-- The path of a raw signal; an empty value of any kind stands for none. -/
def path? (r : RawSignal) : Except Value.Misuse (Option String) :=
  if r.path.isTruthy then
    match r.path with
    | .str s => .ok (some s)
    | other => .error (.noAttribute other.kind "split")
  else .ok none

end RawSignal

def Strategy.rawKnot? (s : Strategy) (r : RawSignal) : Except Value.Misuse (Option String) :=
  match s with
  | .callStack => r.frames?.map (·.bind knotOfFrames?)
  | .currentPointer => .ok (knotName? r.pointer.text?)
  | .pathString => r.path?.map (·.bind knotOfPath?)

def logger : String := "inkscope.runtime.detector"

/-- The first strategy that names a knot, with that knot. -/
def resolve? (strategies : List Strategy) (signal : Signal) : Option (Strategy × String) :=
  strategies.findSome? fun s => (s.knot? signal).map (s, ·)

def strategyEvent (s : Strategy) (m : Value.Misuse) : Log.Event :=
  ⟨.debug, logger, "knot_strategy_failed",
    [("strategy", .str s.name), ("error", .str m.message)]⟩

/-- `resolve?` for a raw signal; tells which strategies could not work. -/
def resolveRaw (r : RawSignal) : List Strategy → Logged (Option (Strategy × String))
  | [] => pure none
  | s :: rest =>
    match s.rawKnot? r with
    | .ok (some knot) => pure (some (s, knot))
    | .ok none => resolveRaw r rest
    | .error m =>
      let later := resolveRaw r rest
      ⟨later.value, strategyEvent s m :: later.events⟩

end KnotAtlas.Detect
