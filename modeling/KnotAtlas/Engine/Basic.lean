import KnotAtlas.Engine.Attribute

/-!
Running engines. An engine comes from elsewhere: it is known by the attributes that can be read and
by the functions that are called to step, to save the state and to restore it. Each of those may be
missing, fail when it is looked up or fail when it is called, and a call may leave the engine in
another condition whether it fails or not.
-/

namespace KnotAtlas

open Attribute (Fault)

/-- What an engine is to this library. `ε` are the conditions that the engine can be in and `σ` the
snapshots that it gives. A method is looked up by one name at a time; what is found says what
calling it gives and the condition that the call leaves the engine in. -/
class StoryEngine (ε : Type) (σ : outParam Type) where
  /-- The engine as it reads, its state among the attributes. Reading changes nothing. -/
  attributes : ε → Attribute
  /-- The words that messages use for the engine and for its state. -/
  kind : ε → String
  stateKind : ε → String
  /-- A function of the engine. -/
  stepMethod : ε → String → Except Fault (Option (Except Fault Unit × ε))
  /-- A function of the state. -/
  saveMethod : ε → String → Except Fault (Option (Except Fault σ × ε))
  /-- A function of the state that takes a snapshot. -/
  loadMethod : ε → String → Except Fault (Option (σ → Except Fault Unit × ε))

namespace StoryEngine

-- Ports of the engine spell its names in another way; the first spelling that is there counts.

def stepNames : List String := ["Continue", "continue_story"]

def saveNames : List String := ["ToJson", "to_json"]

def loadNames : List String := ["LoadJson", "load_json"]

def canContinueNames : List String := ["canContinue", "can_continue"]

def stateNames : List String := ["state"]

/-- The first method that one of `names` finds. -/
def findMethod {μ : Type} (find : String → Except Fault (Option μ)) :
    List String → Except Fault (Option μ)
  | [] => .ok none
  | name :: rest =>
    match find name with
    | .error f => .error f
    | .ok (some m) => .ok (some m)
    | .ok none => findMethod find rest

/-- `findMethod` where a missing method is a fault. -/
def method {μ : Type} (kind : String) (names : List String)
    (find : String → Except Fault (Option μ)) : Except Fault μ :=
  match findMethod find names with
  | .ok (some m) => .ok m
  | .ok none => .error (.missingMethod kind names)
  | .error f => .error f

variable {ε σ : Type} [StoryEngine ε σ]

def state (e : ε) : Except Fault Attribute :=
  (attributes e).read stateNames

def canContinue (e : ε) : Except Fault Bool := do
  match ← (attributes e).read canContinueNames with
  | .callable a => return (← a.result).isTruthy
  | a => return a.isTruthy

def stepper (e : ε) : Except Fault (Except Fault Unit × ε) :=
  method (kind e) stepNames (stepMethod e)

def saver (e : ε) : Except Fault (Except Fault σ × ε) := do
  let _ ← state e
  method (stateKind e) saveNames (saveMethod e)

def loader (e : ε) : Except Fault (σ → Except Fault Unit × ε) := do
  let _ ← state e
  method (stateKind e) loadNames (loadMethod e)

def calling {α : Type} (e : ε) (call : Except Fault (Except Fault α × ε)) :
    Except Fault α × ε :=
  match call with
  | .ok outcome => outcome
  | .error f => (.error f, e)

def step (e : ε) : Except Fault Unit × ε :=
  calling e (stepper e)

def save (e : ε) : Except Fault σ × ε :=
  calling e (saver e)

def load (e : ε) (saved : σ) : Except Fault Unit × ε :=
  calling e ((loader e).map (· saved))

end StoryEngine
end KnotAtlas
