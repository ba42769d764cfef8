import KnotAtlas.Engine.Basic
import KnotAtlas.Log.Event

/-!
Position signals: three places in an engine that tell where the story is. Each is read on its own; a
fault while reading one leaves that one blank and adds one entry to the errors.
-/

namespace KnotAtlas

open Attribute (Fault)

/-- One reading of the position signals. A frame without a named container counts as a frame. -/
structure Signal where
  frames : Option (List (Option String)) := none
  pointer : Option String := none
  path : Option String := none
  errors : List String := []
  deriving DecidableEq, Repr

namespace Signal

def callStackNames : List String := ["callStack", "call_stack"]

def pointerNames : List String := ["currentPointer", "current_pointer"]

def pathNames : List String := ["currentPathString", "current_path_string"]

def containerName (pointer : Attribute) : Except Fault (Option String) := do
  let container ← pointer.read ["container"]
  let name ← container.read ["name"]
  return name.text?

def pointerName (owner : Attribute) : Except Fault (Option String) := do
  let pointer ← owner.read pointerNames
  containerName pointer

/-- The names of the frames of the call stack, oldest first. -/
def frameNames (state : Attribute) : Except Fault (Option (List (Option String))) := do
  let stack ← state.read callStackNames
  let elements ← stack.read ["elements"]
  match elements with
  | .scalar .null => return none
  | elements =>
    let frames ← elements.parts
    some <$> frames.mapM pointerName

/-- The path of the state; an empty path and the word for none count as no path. -/
def pathString (state : Attribute) : Except Fault (Option String) := do
  let path ← state.read pathNames
  return path.text?.filter fun s => s != "" && s != "null"

def logger : String := "inkscope.runtime.engine"

def errorEntry (part : String) (f : Fault) : String :=
  part ++ ": " ++ f.message

def errorEvent (part : String) (f : Fault) : Log.Event :=
  ⟨.debug, logger, "engine_signal_unreadable",
    [("signal", .str part), ("error", .str f.message)]⟩

def orBlank {α : Type} (part : Except Fault (Option α)) : Option α :=
  match part with
  | .ok a => a
  | .error _ => none

/-- The fault of a signal with its name, if it could not be read. -/
def fault? {α : Type} (name : String) (part : Except Fault (Option α)) :
    List (String × Fault) :=
  match part with
  | .ok _ => []
  | .error f => [(name, f)]

def ofState (state : Attribute) : Logged Signal :=
  let frames := frameNames state
  let pointer := pointerName state
  let path := pathString state
  let faults :=
    fault? "frame_names" frames ++ fault? "pointer_name" pointer ++ fault? "path_string" path
  ⟨⟨orBlank frames, orBlank pointer, orBlank path, faults.map fun (n, f) => errorEntry n f⟩,
    faults.map fun (n, f) => errorEvent n f⟩

end Signal

def StoryEngine.signal {ε σ : Type} [StoryEngine ε σ] (e : ε) : Logged Signal :=
  match state e with
  | .ok state => Signal.ofState state
  | .error f =>
    ⟨{ errors := [Signal.errorEntry "state" f] },
      [⟨.debug, Signal.logger, "engine_state_unreadable", [("error", .str f.message)]⟩]⟩

end KnotAtlas
