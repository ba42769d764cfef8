import KnotAtlas.Proofs.Detect.Checked

/-!
What a rejected name leaves behind. While the graph is fresh, naming the current knot keeps the
memory among the knots of the graph. Predicting a choice does so exactly if the detector's own
prediction is not rejected: a rejected one is replaced in the answer and stays in the memory.
-/

namespace KnotAtlas

open Detect (isKnotName seen?)

namespace Validated

variable {τ ε σ : Type} [StoryEngine ε σ] [Sub τ] [LT τ] [DecidableLT τ]
  {a : Analysis} {v : Validated τ} {now : τ}

/-- Whether what a layer remembers is a knot of a graph. -/
def InGraph (v : Validated τ) (a : Analysis) : Prop :=
  ∃ knot ∈ a.graph.knots, v.detector.lastKnown = some knot

theorem InGraph.currentKnot (hcheck : v.checking? now = some a) (hd : v.detector.Remembers)
    (h : v.InGraph a) (e : ε) (fallback : Option String) :
    (v.currentKnot now e fallback).value.2.InGraph a := by
  obtain ⟨last, hmem, hlast⟩ := h
  rw [currentKnot_checked hcheck]
  dsimp only
  by_cases hnamed : (v.detector.currentKnot e fallback).value.1 ∈ a.graph.knots
  · rw [correction?_of_mem hnamed]
    rw [Detector.currentKnot_value] at hnamed ⊢
    cases hseen : seen? e with
    | none => exact ⟨last, hmem, hlast⟩
    | some knot =>
        rw [hseen] at hnamed
        exact ⟨knot, hnamed, rfl⟩
  · -- What was remembered comes first among the replacements, so it is put back.
    have hback : correction? a v.detector.lastKnown fallback
        (v.detector.currentKnot e fallback).value.1 = some last := by
      rw [correction?_of_not_mem hnamed, hlast]
      exact List.find?_cons_of_pos (decide_eq_true hmem)
    rw [hback]
    exact ⟨last, hmem, Detector.heard_of_isKnotName _ (hd last hlast)⟩

/-- What can be asked of a layer. -/
inductive Call (ε : Type) where
  | current (e : ε) (fallback : Option String)
  | choice (e : ε) (knot : String) (index : Int) (verified : Bool)

/-- The layer after a call. -/
def afterCall (v : Validated τ) (now : τ) : Call ε → Validated τ
  | .current e fallback => (v.currentKnot now e fallback).value.2
  | .choice e knot index verified => (v.afterChoice now e knot index verified).value.2.1

/-- The layer after calls, each at its time. -/
def afterCalls (v : Validated τ) (calls : List (τ × Call ε)) : Validated τ :=
  calls.foldl (fun v call => v.afterCall call.1 call.2) v

/-- Whether a call is a choice whose prediction could be a knot but is none of the graph. -/
def Rejects (v : Validated τ) (a : Analysis) (now : τ) : Call ε → Prop
  | .current _ _ => False
  | .choice e knot index verified =>
    isKnotName (v.foretold now e knot index verified) = true ∧
      v.foretold now e knot index verified ∉ a.graph.knots

theorem afterCall_eq (v : Validated τ) (now : τ) (call : Call ε) :
    ∃ last, v.afterCall now call = v.withDetector (v.detector.recalling last) ∧
      (v.detector.Remembers → (v.detector.recalling last).Remembers) := by
  cases call with
  | current e fallback => exact v.currentKnot_layer now e fallback
  | choice e knot index verified =>
      exact ⟨_, v.afterChoice_layer now e knot index verified, fun hd => hd.heard _⟩

theorem inGraph_afterChoice_iff (h : v.InGraph a) (now : τ) (e : ε) (knot : String) (index : Int)
    (verified : Bool) :
    (v.afterChoice now e knot index verified).value.2.1.InGraph a ↔
      ¬ v.Rejects a now (.choice e knot index verified) := by
  rw [afterChoice_layer, Rejects]
  generalize v.foretold now e knot index verified = named
  simp only [InGraph, detector_withDetector, Detector.lastKnown_recalling]
  by_cases hname : isKnotName named = true
  · rw [Detector.heard_of_isKnotName _ hname]
    constructor
    · rintro ⟨last, hmem, hlast⟩ ⟨-, hnot⟩
      cases hlast
      exact hnot hmem
    · exact fun hkept => ⟨named, Classical.byContradiction fun hnot => hkept ⟨hname, hnot⟩, rfl⟩
  · rw [Detector.heard, if_neg hname]
    exact ⟨fun _ hrejected => hname hrejected.1, fun _ => h⟩

theorem InGraph.afterCall {call : Call ε} (hcheck : v.checking? now = some a)
    (hd : v.detector.Remembers) (h : v.InGraph a) (hcall : ¬ v.Rejects a now call) :
    (v.afterCall now call).InGraph a := by
  cases call with
  | current e fallback => exact h.currentKnot hcheck hd e fallback
  | choice e knot index verified =>
      exact (inGraph_afterChoice_iff h now e knot index verified).mpr hcall

theorem InGraph.afterCalls {calls : List (τ × Call ε)}
    (hcheck : ∀ call ∈ calls, v.checking? call.1 = some a) (hd : v.detector.Remembers)
    (h : v.InGraph a)
    (hcalls : ∀ before call after, calls = before ++ call :: after →
      ¬ (v.afterCalls before).Rejects a call.1 call.2) :
    (v.afterCalls calls).InGraph a := by
  induction calls generalizing v with
  | nil => exact h
  | cons call rest ih =>
      have hnext := h.afterCall (hcheck call (.head rest)) hd (hcalls [] call rest rfl)
      obtain ⟨d, heq, hkept⟩ := v.afterCall_eq call.1 call.2
      refine ih (v := v.afterCall call.1 call.2) ?_ ?_ hnext ?_
      · intro later hlater
        rw [heq]
        exact hcheck later (.tail call hlater)
      · rw [heq]
        exact hkept hd
      · intro before later after hrest
        exact hcalls (call :: before) later after (congrArg (call :: ·) hrest)

/-- What is remembered stays a knot of the graph while the graph is fresh: after naming the current
knot always, after a choice exactly if the prediction was not rejected, and so after any calls that
reject no prediction. -/
theorem memory_in_graph (hd : v.detector.Remembers) (h : v.InGraph a) :
    (∀ (now : τ) (e : ε) (fallback : Option String), v.checking? now = some a →
      (v.currentKnot now e fallback).value.2.InGraph a) ∧
    (∀ (now : τ) (e : ε) (knot : String) (index : Int) (verified : Bool),
      (v.afterChoice now e knot index verified).value.2.1.InGraph a ↔
        ¬ v.Rejects a now (.choice e knot index verified)) ∧
    (∀ calls : List (τ × Call ε), (∀ call ∈ calls, v.checking? call.1 = some a) →
      (∀ before call after, calls = before ++ call :: after →
        ¬ (v.afterCalls before).Rejects a call.1 call.2) →
      (v.afterCalls calls).InGraph a) := by
  refine ⟨?_, ?_, ?_⟩
  · intro now e fallback hcheck
    exact h.currentKnot hcheck hd e fallback
  · intro now e knot index verified
    exact inGraph_afterChoice_iff h now e knot index verified
  · intro calls hcheck hcalls
    exact h.afterCalls hcheck hd hcalls

/-- The graph of a story with one knot that leads to itself. -/
def loop : Graph :=
  ⟨["A"], [⟨"A", "A", "again", false⟩]⟩

/-- The story of that graph. -/
def loopStory : Value :=
  .object [("root", .list [.object
    [("A", .list [.str "^again", .object [("->", .str "A")]])]])]

/-- A layer that has the graph and remembers its knot. -/
def loopLayer : Validated Seconds :=
  { detector := { lastKnown := some "A" }
    ttl := .whole 300
    cached := some (Analysis.ofGraph loop, .whole 0) }

theorem loop_memory_kept :
    (loopLayer.afterCalls [(.whole 10, .current (engineAt "gone") none),
      (.whole 20, .choice (engineAt "A") "A" 0 false)]).InGraph (Analysis.ofGraph loop) := by
  have hremembers : loopLayer.detector.Remembers := by
    intro knot hknot
    cases hknot
    decide
  have hmem : loopLayer.InGraph (Analysis.ofGraph loop) := ⟨"A", .head _, rfl⟩
  refine (memory_in_graph hremembers hmem).2.2 _ ?_ ?_
  · intro call hcall
    simp only [List.mem_cons, List.not_mem_nil, or_false] at hcall
    obtain rfl | rfl := hcall
    · rfl
    · rfl
  · intro before call after hsplit hrejects
    rcases before with - | ⟨first, - | ⟨second, before⟩⟩
    · cases hsplit
      exact hrejects
    · cases hsplit
      exact hrejects.2 (.head _)
    · simp at hsplit

/-- An engine at the knot, which moves on to a place that the graph does not know. -/
def straying : Engine :=
  .object
    { members := [("canContinue", .scalar (.bool true))]
      live := some (Detector.stateAt "A")
      methods := { advance := fun _ => Detector.stateAt "gone" } }

/-- The answer of a verified choice is corrected; the rejected name is remembered all the same. -/
theorem loop_rejected_remembered :
    (Story.Source.decoded loopStory).build.value.toOption.map (·.graph) = some loop ∧
    loopLayer.checking? (.whole 10) = some (Analysis.ofGraph loop) ∧
    loopLayer.detector.lastKnown = some "A" ∧
    let out := (loopLayer.afterChoice (.whole 10) straying "A" 0 true).value
    out.1 = "A" ∧ out.2.1.detector.lastKnown = some "gone" ∧ "gone" ∉ loop.knots := by
  refine ⟨by decide +kernel, rfl, rfl, ?_⟩
  exact ⟨by decide, by decide, by decide⟩

end Validated
end KnotAtlas
