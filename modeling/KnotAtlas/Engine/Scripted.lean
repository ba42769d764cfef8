import KnotAtlas.Engine.Speculation

/-!
Engines given as data. Such an engine is a tree of attributes, among them its state, with methods of
its own to step, to save the state and to restore it. A function that stands among the attributes
gives what it gives and does nothing else. The engine keeps a record of the calls of its own methods.
-/

namespace KnotAtlas

open Attribute (Members Fault)

namespace Engine

/-- What saving gives: the attributes of the state, or whatever a function gave that stands in the
place of the method. -/
inductive Snapshot where
  | taken (members : Members)
  | foreign (a : Attribute)

/-- A call of one of the engine's own methods. -/
inductive Call where
  | step
  | save
  | load (saved : Snapshot)

/-- The methods of an engine: under which name each stands, if it is there; what a step does to the
state; and with which message each fails, if it does. -/
structure Methods where
  stepName : Option String := some "Continue"
  advance : Members → Members := id
  stepFails : Option String := none
  saveName : Option String := some "ToJson"
  saveFails : Option String := none
  loadName : Option String := some "LoadJson"
  loadFails : Option String := none

/-- An engine that is an object. `live` are the attributes of its state if that is an object too;
otherwise what stands for the state is among `members`. -/
structure Handle where
  members : Members
  live : Option Members
  methods : Methods := {}
  calls : List Call := []

def Handle.called (h : Handle) (c : Call) : Handle :=
  { h with calls := h.calls ++ [c] }

def failing {α : Type} (message : Option String) (a : α) : Except Fault α :=
  match message with
  | some m => .error (.raised m)
  | none => .ok a

/-- What can be called under a name: the engine's own method, or a function among the attributes,
which is said by what it gives. -/
def callable {μ : Type} (own : Option String) (method : μ) (members : Members)
    (function : Attribute → μ) (name : String) : Except Fault (Option μ) :=
  if own = some name then .ok (some method)
  else
    match members.find? name with
    | some (.raises m) => .error (.raised m)
    | some (.callable result) => .ok (some (function result))
    | _ => .ok none

end Engine

/-- An engine given as data; something that is no object has nothing that can be called. -/
inductive Engine where
  | inert (a : Attribute)
  | object (h : Engine.Handle)

namespace Engine

def live? : Engine → Option Members
  | .inert _ => none
  | .object h => h.live

def calls : Engine → List Call
  | .inert _ => []
  | .object h => h.calls

def attributes : Engine → Attribute
  | .inert a => a
  | .object h =>
    match h.live with
    | some members => .object (("state", .object members) :: h.members)
    | none => .object h.members

def kind : Engine → String
  | .inert a => a.kind
  | .object _ => "Engine"

def stateKind (e : Engine) : String :=
  match e.live?, e.attributes.read StoryEngine.stateNames with
  | some _, _ => "State"
  | none, .ok a => a.kind
  | none, .error _ => ""

def stepMethod (e : Engine) (name : String) : Except Fault (Option (Except Fault Unit × Engine)) :=
  match e with
  | .inert _ => .ok none
  | .object h =>
    callable h.methods.stepName
      (failing h.methods.stepFails (),
        .object { h.called .step with live := h.live.map h.methods.advance })
      h.members (fun a => (a.result.map fun _ => (), e)) name

def saveMethod (e : Engine) (name : String) :
    Except Fault (Option (Except Fault Snapshot × Engine)) :=
  match e with
  | .inert _ => .ok none
  | .object h =>
    match h.live with
    | none => .ok none
    | some members =>
      callable h.methods.saveName
        (failing h.methods.saveFails (.taken members), .object (h.called .save))
        members (fun a => (a.result.map .foreign, e)) name

def Handle.restored (h : Handle) : Snapshot → Handle
  | .taken members => { h with live := some members }
  | .foreign _ => h

def Handle.load (h : Handle) (saved : Snapshot) : Except Fault Unit × Engine :=
  match h.methods.loadFails with
  | some m => (.error (.raised m), .object (h.called (.load saved)))
  | none => (.ok (), .object ((h.called (.load saved)).restored saved))

def loadMethod (e : Engine) (name : String) :
    Except Fault (Option (Snapshot → Except Fault Unit × Engine)) :=
  match e with
  | .inert _ => .ok none
  | .object h =>
    match h.live with
    | none => .ok none
    | some members =>
      callable h.methods.loadName h.load members
        (fun a _ => (a.result.map fun _ => (), e)) name

instance : StoryEngine Engine Snapshot where
  attributes := attributes
  kind := kind
  stateKind := stateKind
  stepMethod := stepMethod
  saveMethod := saveMethod
  loadMethod := loadMethod

def canContinue (e : Engine) : Except Fault Bool :=
  StoryEngine.canContinue e

def save (e : Engine) : Except Fault Snapshot × Engine :=
  StoryEngine.save e

def signal (e : Engine) : Logged Signal :=
  StoryEngine.signal e

def speculate {α : Type} (e : Engine) (look : Engine → Logged (Except Fault α)) :
    Logged (Except Fault α × Engine) :=
  StoryEngine.speculate e fun ahead => (·, ahead) <$> look ahead

end Engine
end KnotAtlas
