import KnotAtlas.Engine.Signal

/-!
Speculative steps. The state is saved, the engine makes one step, something is done with the engine
as it is then, and the state is restored, also if the step or what came after it failed. Without a
snapshot no step is made.
-/

namespace KnotAtlas.StoryEngine

open Attribute (Fault)

variable {ε σ : Type} [StoryEngine ε σ]

def restoreEvent : Log.Event :=
  .ofFailure Signal.logger "story_state_restore_failed" []

def restoreEvents (restored : Except Fault Unit) : List Log.Event :=
  match restored with
  | .ok _ => []
  | .error _ => [restoreEvent]

/-- Makes one step and goes on with `body`, unless the step fails. -/
def stepThen {α : Type} (e : ε) (body : ε → Logged (Except Fault α × ε)) :
    Logged (Except Fault α × ε) :=
  match step e with
  | (.ok _, e) => body e
  | (.error f, e) => pure (.error f, e)

/-- Runs `body` on the engine one step further on and restores its state. -/
def speculate {α : Type} (e : ε) (body : ε → Logged (Except Fault α × ε)) :
    Logged (Except Fault α × ε) :=
  match save e with
  | (.error f, e) => pure (.error f, e)
  | (.ok saved, e) => do
    let (outcome, e) ← stepThen e body
    let (restored, e) := load e saved
    ⟨(outcome, e), restoreEvents restored⟩

end KnotAtlas.StoryEngine
