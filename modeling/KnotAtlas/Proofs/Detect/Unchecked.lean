import KnotAtlas.Proofs.Detect.Rejection
import KnotAtlas.Proofs.Engine.Watched

/-!
Detection while it is not checked. A layer that is switched off, has no graph or has one that is too
old does what its detector alone would do, call by call and event by event, and asks of the engines
what the detector would ask. So a run of such calls cannot be told from a run on the detector.
-/

namespace KnotAtlas

open StoryEngine (Watched)

namespace Validated

/-- What a call shows: the knot that it named, what is remembered and mapped after it, the engine
that it left behind and the events that it emitted. -/
structure Reply (ε : Type) where
  knot : String
  lastKnown : Option String
  flows : FlowMap
  engine : ε
  events : List Log.Event

def Reply.of {ε : Type} (out : Logged (String × Detector × ε)) : Reply ε :=
  ⟨out.value.1, out.value.2.1.lastKnown, out.value.2.1.flows, out.value.2.2, out.events⟩

end Validated

namespace Detector

open Validated (Call Reply)

variable {ε σ : Type} [StoryEngine ε σ]

/-- What a detector alone makes of a call. -/
def answer (d : Detector) : Call ε → Logged (String × Detector × ε)
  | .current e fallback => (fun out => (out.1, out.2, e)) <$> d.currentKnot e fallback
  | .choice e knot index verified => d.afterChoice e knot index verified

/-- The replies to calls that are made one after the other. -/
def replies (d : Detector) : List (Call ε) → List (Reply ε)
  | [] => []
  | call :: rest =>
    let out := d.answer call
    .of out :: out.value.2.1.replies rest

end Detector

namespace Validated

variable {τ ε σ : Type} [StoryEngine ε σ] [Sub τ] [LT τ] [DecidableLT τ]

/-- What a layer makes of a call. -/
def answer (v : Validated τ) (now : τ) : Call ε → Logged (String × Validated τ × ε)
  | .current e fallback => (fun out => (out.1, out.2, e)) <$> v.currentKnot now e fallback
  | .choice e knot index verified => v.afterChoice now e knot index verified

/-- The replies to calls that are made one after the other, each at its time. -/
def replies (v : Validated τ) : List (τ × Call ε) → List (Reply ε)
  | [] => []
  | call :: rest =>
    let out := v.answer call.1 call.2
    .of ((fun o => (o.1, o.2.1.detector, o.2.2)) <$> out) :: out.value.2.1.replies rest

/-- Whether a layer checks nothing at a time: it is switched off, it has no graph, or the graph is
as old as it may get, or older. -/
def Idle (v : Validated τ) (now : τ) : Prop :=
  v.enabled = false ∨ v.cached = none ∨
    ∃ a since, v.cached = some (a, since) ∧ ¬ now - since < v.ttl

theorem checking?_eq_none_iff {v : Validated τ} {now : τ} :
    v.checking? now = none ↔ v.Idle now := by
  rw [checking?, fresh?, Idle]
  cases v.enabled with
  | false => exact ⟨fun _ => .inl rfl, fun _ => rfl⟩
  | true =>
      cases hcached : v.cached with
      | none => exact ⟨fun _ => .inr (.inl rfl), fun _ => rfl⟩
      | some kept =>
          obtain ⟨a, since⟩ := kept
          by_cases hage : now - since < v.ttl
          · simp [hage]
          · simp only [if_neg hage, if_true, true_iff]
            exact .inr (.inr ⟨a, since, rfl, hage⟩)

theorem currentKnot_idle {v : Validated τ} {now : τ} (h : v.checking? now = none) (e : ε)
    (fallback : Option String) :
    v.currentKnot now e fallback =
      (fun out => (out.1, v.withDetector out.2)) <$> v.detector.currentKnot e fallback := by
  have hcheck : ∀ d, (v.withDetector d).checking? now = none := fun _ => h
  simp only [currentKnot, hcheck, map_eq_pure_bind]

theorem afterChoice_idle {v : Validated τ} {now : τ} (h : v.checking? now = none) (e : ε)
    (knot : String) (index : Int) (verified : Bool) :
    v.afterChoice now e knot index verified =
      (fun out => (out.1, v.withDetector out.2.1, out.2.2)) <$>
        v.detector.afterChoice e knot index verified := by
  have hcheck : ∀ d, (v.withDetector d).checking? now = none := fun _ => h
  simp only [afterChoice, choiceKnot, h, hcheck, map_eq_pure_bind, pure_bind]

theorem answer_idle {v : Validated τ} {now : τ} (h : v.Idle now) (call : Call ε) :
    v.answer now call =
      (fun out => (out.1, v.withDetector out.2.1, out.2.2)) <$> v.detector.answer call := by
  have hcheck := checking?_eq_none_iff.mpr h
  cases call with
  | current e fallback =>
      rw [answer, Detector.answer, currentKnot_idle hcheck, Functor.map_map, Functor.map_map]
  | choice e knot index verified => exact afterChoice_idle hcheck e knot index verified

/-- While a layer checks nothing, calls on it have the replies that its detector would give to them
alone, whatever the engines do. A watched engine is left behind with the record of what was called
on it, so that is the same too. -/
theorem replies_of_idle (v : Validated τ) (calls : List (τ × Call (Watched ε σ)))
    (h : ∀ call ∈ calls, v.Idle call.1) :
    v.replies calls = v.detector.replies (calls.map (·.2)) := by
  induction calls generalizing v with
  | nil => rfl
  | cons call rest ih =>
      have hanswer := answer_idle (h call (.head rest)) call.2
      rw [replies, List.map_cons, Detector.replies, hanswer, Functor.map_map]
      -- Another detector leaves the layer as idle as it was.
      have hlater : ∀ later ∈ rest,
          (v.withDetector (v.detector.answer call.2).value.2.1).Idle later.1 :=
        fun later hmem => h later (.tail call hmem)
      simp only [detector_withDetector, id_map', Logged.value_map]
      exact congrArg _ (ih _ hlater)

/-- At the end of its time the graph is not asked: the detector's own names stand, also the one that
a step of the engine led to. -/
theorem loop_expired :
    let calls : List (Seconds × Call (Watched Engine Engine.Snapshot)) :=
      [(.whole 300, .current ⟨engineAt "gone", []⟩ none),
        (.whole 301, .choice ⟨straying, []⟩ "A" 0 true)]
    loopLayer.replies calls = loopLayer.detector.replies (calls.map (·.2)) ∧
      (loopLayer.replies calls).map (fun reply => (reply.knot, reply.engine.log.length)) =
        [("gone", 0), ("gone", 3)] := by
  intro calls
  have hidle : ∀ call ∈ calls, loopLayer.Idle call.1 := by
    intro call hcall
    simp only [calls, List.mem_cons, List.not_mem_nil, or_false] at hcall
    obtain rfl | rfl := hcall
    · exact .inr (.inr ⟨Analysis.ofGraph loop, .whole 0, rfl, by decide⟩)
    · exact .inr (.inr ⟨Analysis.ofGraph loop, .whole 0, rfl, by decide⟩)
  have hsame := replies_of_idle loopLayer calls hidle
  refine ⟨hsame, ?_⟩
  rw [hsame]
  decide

end Validated
end KnotAtlas
