import KnotAtlas.Detect.Detector
import KnotAtlas.Proofs.Engine.Independence
import KnotAtlas.Proofs.Engine.ScriptedSpelling

/-!
Detection in engines spelled anew. A detector says the same of two engines that are the same but for
spelling: the signals, the current knot and the knot that a choice leads to, verified or not, with
what it remembers and tells. The calls made on the way are the same ones in both.
-/

namespace KnotAtlas.Detector

open Attribute (Respelled SameKey)
open StoryEngine (Exchange Respelling Watched WatchedAlike pointerInto)

variable {ε ε' σ σ' : Type} [StoryEngine ε σ] [StoryEngine ε' σ'] {R : ε → ε' → Prop}
  {S : σ → σ' → Prop} {e : ε} {e' : ε'}

/-- Answers in common, with corresponding conditions of the engines. -/
def AnswerAlike (R : ε → ε' → Prop) (out : String × Detector × ε)
    (out' : String × Detector × ε') : Prop :=
  out.1 = out'.1 ∧ out.2.1 = out'.2.1 ∧ R out.2.2 out'.2.2

theorem detect_respelled (d : Detector) (h : Respelling R S) (he : R e e') :
    d.detect e = d.detect e' := by
  rw [detect, detect, h.signal_eq he]

theorem currentKnot_respelled (d : Detector) (h : Respelling R S) (he : R e e')
    (fallback : Option String) : d.currentKnot e fallback = d.currentKnot e' fallback := by
  rw [currentKnot, currentKnot, d.detect_respelled h he]

theorem lookAhead_respelled (d : Detector) (h : Respelling R S) (he : R e e') :
    Logged.Alike (StoryEngine.Outcome Eq R) (d.lookAhead e) (d.lookAhead e') := by
  refine h.speculate_alike he fun e e' he => ?_
  rw [look, look, d.detect_respelled h he]
  exact ⟨⟨.ok rfl, he⟩, rfl⟩

theorem verify_respelled (d : Detector) (h : Respelling R S) (he : R e e') (predicted : String) :
    Logged.Alike (AnswerAlike R) (d.verify e predicted) (d.verify e' predicted) := by
  refine (d.lookAhead_respelled h he).bind fun out out' hout => ?_
  obtain ⟨detected, after⟩ := out
  obtain ⟨detected', after'⟩ := out'
  obtain ⟨hdetected, hafter⟩ := hout
  cases hdetected.eq
  have hanswer : ∀ (knot : String) (d : Detector),
      AnswerAlike R (knot, d, after) (knot, d, after') := fun _ _ => ⟨rfl, rfl, hafter⟩
  rcases detected with fault | (- | knot)
  · exact .after fun _ => .pure (hanswer predicted d)
  · exact .after fun d => .pure (hanswer predicted d)
  · dsimp only
    split
    · exact .after fun d => .pure (hanswer predicted d)
    · exact .after fun _ => .after fun d => .pure (hanswer knot d)

theorem confirm_respelled (d : Detector) (h : Respelling R S) (he : R e e') (predicted : String) :
    Logged.Alike (AnswerAlike R) (d.confirm e predicted) (d.confirm e' predicted) := by
  have hanswer : AnswerAlike R (predicted, d, e) (predicted, d, e') := ⟨rfl, rfl, he⟩
  rw [confirm, confirm, h.canContinue_eq he]
  split
  · exact d.verify_respelled h he predicted
  · exact .pure hanswer
  · exact .after fun _ => .pure hanswer

theorem afterChoice_respelled (d : Detector) (h : Respelling R S) (he : R e e') (knot : String)
    (index : Int) (verified : Bool) :
    Logged.Alike (AnswerAlike R) (d.afterChoice e knot index verified)
      (d.afterChoice e' knot index verified) := by
  refine .after fun predicted => .after fun d => ?_
  cases verified with
  | true => exact d.confirm_respelled h he predicted
  | false => exact .pure ⟨rfl, rfl, he⟩

/-- The calls made on an engine to tell the knot that a choice leads to. -/
def choiceCalls (d : Detector) (e : ε) (knot : String) (index : Int) (verified : Bool) :
    List (Exchange σ) :=
  (d.afterChoice (⟨e, []⟩ : Watched ε σ) knot index verified).value.2.2.log

theorem choiceCalls_respelled (d : Detector) (h : Respelling R S) (he : R e e') (knot : String)
    (index : Int) (verified : Bool) :
    List.Forall₂ (Exchange.Alike S) (d.choiceCalls e knot index verified)
      (d.choiceCalls e' knot index verified) := by
  have hwatched : WatchedAlike R S ⟨e, []⟩ ⟨e', []⟩ := ⟨he, .nil⟩
  exact (d.afterChoice_respelled h.watched hwatched knot index verified).value.2.2.2

/-- Which of its two names a member goes by, at each place, changes nothing: two engines that are the
same but for spelling give the same signal with the same errors and the same current knot, and a
choice, verified or not, gives the same answer, memory and events in both, by the same calls with the
same answers, and leaves both in the same condition but for spelling. -/
theorem spelling_changes_nothing (h : Respelling R S) (he : R e e') :
    StoryEngine.signal e = StoryEngine.signal e' ∧
    (∀ (d : Detector) fallback, d.currentKnot e fallback = d.currentKnot e' fallback) ∧
    ∀ (d : Detector) knot index verified,
      let run := d.afterChoice e knot index verified
      let run' := d.afterChoice e' knot index verified
      run.value.1 = run'.value.1 ∧ run.value.2.1 = run'.value.2.1 ∧ run.events = run'.events ∧
        R run.value.2.2 run'.value.2.2 ∧
        List.Forall₂ (Exchange.Alike S) (d.choiceCalls e knot index verified)
          (d.choiceCalls e' knot index verified) := by
  refine ⟨h.signal_eq he, fun d => d.currentKnot_respelled h he, ?_⟩
  intro d knot index verified run run'
  obtain ⟨⟨hanswer, hmemory, hengine⟩, hevents⟩ := d.afterChoice_respelled h he knot index verified
  exact ⟨hanswer, hmemory, hevents, hengine, d.choiceCalls_respelled h he knot index verified⟩

/-- A state in a knot that was entered from the shop. -/
def enteredAt (stack older newer pointer knot : String) : Attribute.Members :=
  [(stack, .object [("elements", .list
      [.object [(older, pointerInto "shop")], .object [(newer, pointerInto knot)]])]),
    (pointer, pointerInto knot)]

def camelAt : String → Attribute.Members :=
  enteredAt "callStack" "currentPointer" "currentPointer" "currentPointer"

def mixedAt : String → Attribute.Members :=
  enteredAt "call_stack" "currentPointer" "current_pointer" "current_pointer"

theorem mixedAt_respelled (knot : String) :
    Respelled (.object (camelAt knot)) (.object (mixedAt knot)) := by
  have hstate : List.Forall₂
      (SameKey ["callStack", "currentPointer"] ["call_stack", "current_pointer"])
      ["callStack", "currentPointer"] ["call_stack", "current_pointer"] := by
    decide
  have hpointer : List.Forall₂ (SameKey ["currentPointer"] ["current_pointer"]) ["currentPointer"]
      ["current_pointer"] := by
    decide
  have helements : List.Forall₂ (SameKey ["elements"] ["elements"]) ["elements"] ["elements"] := by
    decide
  have hnewer : Respelled (.object [("currentPointer", pointerInto knot)])
      (.object [("current_pointer", pointerInto knot)]) :=
    .object hpointer (.cons (.same _) .nil)
  exact .object hstate (.cons (.object helements (.cons
    (.list (.cons (.same _) (.cons hnewer .nil))) .nil)) (.cons (.same _) .nil))

def camelMethods : Engine.Methods :=
  { advance := fun _ => camelAt "forest" }

def mixedMethods : Engine.Methods :=
  { stepName := some "continue_story", loadName := some "load_json"
    advance := fun _ => mixedAt "forest" }

theorem mixedAt_live (knot : String) :
    Engine.LiveAlike camelMethods mixedMethods (camelAt knot) (mixedAt knot) where
  respelled := mixedAt_respelled knot
  save := by
    have hfree : ∀ other ∈ StoryEngine.saveNames, other ∉ ["callStack", "currentPointer"] ∧
        other ∉ ["call_stack", "current_pointer"] := by
      decide
    exact .own (.head _) (.head _) rfl rfl (fun other h => (hfree other h).1)
      fun other h => (hfree other h).2
  load := by
    have hfree : ∀ other ∈ StoryEngine.loadNames, other ∉ ["callStack", "currentPointer"] ∧
        other ∉ ["call_stack", "current_pointer"] := by
      decide
    exact .own (.head _) (.tail _ (.head _)) rfl rfl (fun other h => (hfree other h).1)
      fun other h => (hfree other h).2

theorem mixedMethods_alike : Engine.Methods.Alike camelMethods mixedMethods where
  advance _ _ _ := mixedAt_live "forest"
  stepFails := rfl
  saveFails := rfl
  loadFails := rfl

/-- An engine in the cave that moves on to the forest. -/
def wandering : Engine :=
  .object ⟨[("canContinue", .callable (.scalar (.bool true)))], some (camelAt "cave"),
    camelMethods, []⟩

/-- That engine with its names spelled in either way. -/
def mixedWandering : Engine :=
  .object ⟨[("can_continue", .callable (.scalar (.bool true)))], some (mixedAt "cave"),
    mixedMethods, []⟩

theorem mixedWandering_alike :
    Engine.Alike camelMethods mixedMethods wandering mixedWandering := by
  have hkeys : List.Forall₂ (SameKey ["canContinue"] ["can_continue"]) ["canContinue"]
      ["can_continue"] := by
    decide
  have hstep : Engine.MethodAlike StoryEngine.stepNames (some "Continue") (some "continue_story")
      [("canContinue", .callable (.scalar (.bool true)))]
      [("can_continue", .callable (.scalar (.bool true)))] :=
    .own (.head _) (.tail _ (.head _)) rfl rfl (by decide) (by decide)
  exact .object (.object hkeys (.cons (.same _) .nil)) hstep (.some (mixedAt_live "cave")) .nil

theorem mixedWandering_same :
    let d : Detector := { flows := [("cave", ⟨["lake"], none⟩)] }
    let run := d.afterChoice mixedWandering "cave" 0 true
    StoryEngine.signal wandering = StoryEngine.signal mixedWandering ∧
      (d.currentKnot mixedWandering none).value.1 = "cave" ∧
      run.value.1 = "forest" ∧ run.value.2.1.lastKnown = some "forest" ∧
      (d.choiceCalls mixedWandering "cave" 0 true).length = 3 := by
  intro d run
  obtain ⟨hsignal, hcurrent, hchoice⟩ := spelling_changes_nothing
    (Engine.respelling mixedMethods_alike) mixedWandering_alike
  obtain ⟨hanswer, hmemory, -, -, hcalls⟩ := hchoice d "cave" 0 true
  refine ⟨hsignal, ?_, ?_, ?_, ?_⟩
  · rw [← hcurrent d none]
    decide
  · rw [← hanswer]
    decide
  · rw [← hmemory]
    decide
  · rw [← hcalls.length_eq]
    rfl

end KnotAtlas.Detector
