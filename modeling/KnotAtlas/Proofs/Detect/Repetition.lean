import KnotAtlas.Proofs.Detect.Checked

/-!
Asking twice. What a detector answers is what it answers when it is asked again, and the second time
nothing changes. The same holds while the answer is checked: a substitute that is remembered is the
first choice the next time, and one that no detector remembers stands for lack of a remembered knot,
which is still lacking then.
-/

namespace KnotAtlas

open Detect (isKnotName seen?)

namespace Detector

variable {ε σ : Type} [StoryEngine ε σ]

theorem currentKnot_again (d : Detector) (e : ε) (fallback : Option String) :
    ((d.currentKnot e fallback).value.2.currentKnot e fallback).value =
      (d.currentKnot e fallback).value := by
  simp only [currentKnot_value]
  cases seen? e with
  | none => rfl
  | some knot => rfl

theorem heard_of_not_isKnotName (d : Detector) {name : String} (h : ¬ isKnotName name = true) :
    d.recalling (d.heard name) = d := by
  rw [heard, if_neg h, recalling_lastKnown]

/-- Once a name is remembered, it is the answer unless the engine or the fallback gave the last
one. -/
theorem currentKnot_recalling (d : Detector) (e : ε) (fallback : Option String) (name : String) :
    let out := ((d.recalling (some name)).currentKnot e fallback).value
    out.1 = (d.currentKnot e fallback).value.1 ∨ out = (name, d.recalling (some name)) := by
  simp only [currentKnot_value, lastKnown_recalling, recalling_recalling]
  cases seen? e with
  | some knot => exact .inl rfl
  | none =>
      cases Detect.knotName? fallback with
      | some knot => exact .inl rfl
      | none => exact .inr rfl

end Detector

namespace Validated

variable {τ ε σ : Type} [StoryEngine ε σ] {a : Analysis} {previous fallback : Option String}
  {named better : String}

theorem not_mem_of_correction? (h : correction? a previous fallback named = some better) :
    named ∉ a.graph.knots := by
  intro hmem
  rw [correction?_of_mem hmem] at h
  cases h

theorem mem_of_correction? (h : correction? a previous fallback named = some better) :
    better ∈ a.graph.knots := by
  rw [correction?_of_not_mem (not_mem_of_correction? h)] at h
  simpa using List.find?_some h

/-- Whether a name is corrected does not depend on what was remembered. -/
theorem correction?_none_congr (h : correction? a previous fallback named = none)
    (other : Option String) : correction? a other fallback named = none := by
  by_cases hmem : named ∈ a.graph.knots
  · exact correction?_of_mem hmem
  · rw [correction?_of_not_mem hmem, List.find?_eq_none] at h ⊢
    -- Nothing is a knot of a graph that has none of its own.
    have hnone : ∀ knot, knot ∉ a.graph.knots := by
      intro knot hknot
      exact h knot (List.mem_append_right _ hknot) (decide_eq_true hknot)
    intro knot _
    simpa using hnone knot

theorem correction?_remembered (hnamed : named ∉ a.graph.knots) (hbetter : better ∈ a.graph.knots) :
    correction? a (some better) fallback named = some better := by
  rw [correction?_of_not_mem hnamed]
  exact List.find?_cons_of_pos (decide_eq_true hbetter)

/-- What was remembered but is no knot of the graph has no part in a correction. -/
theorem correction?_unremembered (hnamed : named ∉ a.graph.knots)
    (hprevious : ∀ knot, previous = some knot → knot ∉ a.graph.knots) :
    correction? a previous fallback named = correction? a none fallback named := by
  rw [correction?_of_not_mem hnamed, correction?_of_not_mem hnamed]
  cases previous with
  | none => rfl
  | some knot =>
      have hknot : ¬ decide (knot ∈ a.graph.knots) = true := by
        simpa using hprevious knot rfl
      exact List.find?_cons_of_neg hknot

/-- If no detector remembers a substitute, nothing that is remembered is a knot of the graph, before
the detection and after it. -/
theorem unremembered_of_correction? {v : Validated τ} {e : ε} (hd : v.detector.Remembers)
    (h : correction? a v.detector.lastKnown fallback
      (v.detector.currentKnot e fallback).value.1 = some better)
    (hname : ¬ isKnotName better = true) :
    (∀ knot, v.detector.lastKnown = some knot → knot ∉ a.graph.knots) ∧
      ∀ knot, (v.detector.currentKnot e fallback).value.2.lastKnown = some knot →
        knot ∉ a.graph.knots := by
  have hnamed := not_mem_of_correction? h
  have hlast : ∀ knot, v.detector.lastKnown = some knot → knot ∉ a.graph.knots := by
    intro knot hknot hmem
    rw [hknot, correction?_remembered hnamed hmem] at h
    cases h
    exact hname (hd better hknot)
  refine ⟨hlast, fun knot hknot => ?_⟩
  rw [Detector.currentKnot_value] at hknot hnamed
  cases hseen : seen? e with
  | none =>
      rw [hseen] at hknot
      exact hlast knot hknot
  | some shown =>
      rw [hseen] at hknot hnamed
      cases hknot
      exact hnamed

section Times

variable [Sub τ] [LT τ] [DecidableLT τ] {v : Validated τ} {now later : τ}

theorem fresh?_congr (h : (v.fresh? later).isSome = (v.fresh? now).isSome) :
    v.fresh? later = v.fresh? now := by
  simp only [fresh?] at h ⊢
  cases hcached : v.cached with
  | none => rfl
  | some kept =>
      simp only [hcached] at h ⊢
      by_cases hlater : later - kept.2 < v.ttl
      · by_cases hnow : now - kept.2 < v.ttl
        · rw [if_pos hlater, if_pos hnow]
        · simp [hlater, hnow] at h
      · by_cases hnow : now - kept.2 < v.ttl
        · simp [hlater, hnow] at h
        · rw [if_neg hlater, if_neg hnow]

theorem checking?_congr (h : (v.fresh? later).isSome = (v.fresh? now).isSome) :
    v.checking? later = v.checking? now := by
  rw [checking?, checking?, fresh?_congr h]

section Answers

variable {e : ε} (hcheck : v.checking? now = some a)

include hcheck

theorem currentKnot_uncorrected
    (h : correction? a v.detector.lastKnown fallback
      (v.detector.currentKnot e fallback).value.1 = none) :
    (v.currentKnot now e fallback).value =
      ((v.detector.currentKnot e fallback).value.1,
        v.withDetector (v.detector.currentKnot e fallback).value.2) := by
  rw [currentKnot_checked hcheck]
  dsimp only
  rw [h]

theorem currentKnot_corrected
    (h : correction? a v.detector.lastKnown fallback
      (v.detector.currentKnot e fallback).value.1 = some better) :
    (v.currentKnot now e fallback).value =
      (better, v.withDetector ((v.detector.currentKnot e fallback).value.2.recalling
        ((v.detector.currentKnot e fallback).value.2.heard better))) := by
  rw [currentKnot_checked hcheck]
  dsimp only
  rw [h]

end Answers

/-- A substitute that was remembered is given again. -/
theorem currentKnot_remembered (hcheck : v.checking? now = some a) {e : ε}
    (h : correction? a v.detector.lastKnown fallback
      (v.detector.currentKnot e fallback).value.1 = some better)
    (hname : isKnotName better = true) :
    ((v.withDetector (v.detector.recalling (some better))).currentKnot now e fallback).value =
      (better, v.withDetector (v.detector.recalling (some better))) := by
  have hmem := mem_of_correction? h
  rcases v.detector.currentKnot_recalling e fallback better with hsame | hbetter
  · have hagain : correction? a (some better) fallback
        ((v.detector.recalling (some better)).currentKnot e fallback).value.1 = some better := by
      rw [hsame]
      exact correction?_remembered (not_mem_of_correction? h) hmem
    rw [currentKnot_corrected (v := v.withDetector (v.detector.recalling (some better))) hcheck
      hagain, detector_withDetector, Detector.heard_of_isKnotName _ hname,
      Detector.currentKnot_value]
    rfl
  · have hagain : correction? a (some better) fallback
        ((v.detector.recalling (some better)).currentKnot e fallback).value.1 = none := by
      rw [hbetter]
      exact correction?_of_mem hmem
    rw [currentKnot_uncorrected (v := v.withDetector (v.detector.recalling (some better))) hcheck
      hagain, detector_withDetector, hbetter]
    rfl

theorem currentKnot_checked_again (hcheck : v.checking? now = some a) (hd : v.detector.Remembers)
    (e : ε) (fallback : Option String) :
    ((v.currentKnot now e fallback).value.2.currentKnot now e fallback).value =
      (v.currentKnot now e fallback).value := by
  have hlater : ∀ d, (v.withDetector d).checking? now = some a := fun _ => hcheck
  have hagain := v.detector.currentKnot_again e fallback
  cases hcorrect : correction? a v.detector.lastKnown fallback
      (v.detector.currentKnot e fallback).value.1 with
  | none =>
      rw [currentKnot_uncorrected hcheck hcorrect, currentKnot_uncorrected (hlater _),
        detector_withDetector, hagain]
      · rfl
      · rw [detector_withDetector, hagain]
        exact correction?_none_congr hcorrect _
  | some better =>
      rw [currentKnot_corrected hcheck hcorrect]
      by_cases hname : isKnotName better = true
      · have hsame : (v.detector.currentKnot e fallback).value.2.recalling
            ((v.detector.currentKnot e fallback).value.2.heard better) =
            v.detector.recalling (some better) := by
          rw [Detector.heard_of_isKnotName _ hname, Detector.currentKnot_value]
          rfl
        rw [hsame]
        exact currentKnot_remembered hcheck hcorrect hname
      · obtain ⟨hlast, hkept⟩ := unremembered_of_correction? hd hcorrect hname
        have hnamed := not_mem_of_correction? hcorrect
        rw [correction?_unremembered hnamed hlast,
          ← correction?_unremembered hnamed hkept] at hcorrect
        rw [Detector.heard_of_not_isKnotName _ hname, currentKnot_corrected (hlater _),
          detector_withDetector, hagain, Detector.heard_of_not_isKnotName _ hname]
        · rfl
        · rw [detector_withDetector, hagain]
          exact hcorrect

theorem currentKnot_unchecked_again (hcheck : v.checking? now = none) (e : ε)
    (fallback : Option String) :
    ((v.currentKnot now e fallback).value.2.currentKnot now e fallback).value =
      (v.currentKnot now e fallback).value := by
  have hlater : ∀ d, (v.withDetector d).checking? now = none := fun _ => hcheck
  rw [currentKnot_unchecked hcheck, currentKnot_unchecked (hlater _), detector_withDetector,
    v.detector.currentKnot_again]
  rfl

theorem currentKnot_congr (h : v.checking? later = v.checking? now) (e : ε)
    (fallback : Option String) :
    (v.currentKnot later e fallback).value = (v.currentKnot now e fallback).value := by
  cases hcheck : v.checking? now with
  | none => rw [currentKnot_unchecked hcheck, currentKnot_unchecked (h.trans hcheck)]
  | some a => rw [currentKnot_checked hcheck, currentKnot_checked (h.trans hcheck)]

/-- Naming the knot of an engine twice gives the same name and changes nothing the second time: by
a detector alone, whatever it remembers and maps, and by a layer as long as its graph is as fresh the
second time as the first. What a layer's detector remembers is a name that can belong to a knot, as
every memory is. -/
theorem currentKnot_idempotent :
    (∀ (d : Detector) (e : ε) (fallback : Option String),
      let out := (d.currentKnot e fallback).value
      (out.2.currentKnot e fallback).value = out) ∧
    (∀ (v : Validated τ) (now later : τ) (e : ε) (fallback : Option String),
      v.detector.Remembers → (v.fresh? later).isSome = (v.fresh? now).isSome →
      let out := (v.currentKnot now e fallback).value
      (out.2.currentKnot later e fallback).value = out) := by
  refine ⟨fun d e fallback => d.currentKnot_again e fallback, ?_⟩
  intro v now later e fallback hd hfresh out
  obtain ⟨last, hkept, -⟩ := v.currentKnot_layer now e fallback
  have hlater : out.2.checking? later = out.2.checking? now := by
    simp only [out, hkept]
    exact checking?_congr hfresh
  rw [currentKnot_congr hlater]
  cases hcheck : v.checking? now with
  | none => exact currentKnot_unchecked_again hcheck e fallback
  | some a => exact currentKnot_checked_again hcheck hd e fallback

end Times

/-- A layer with a graph whose first knot no detector remembers; it remembers no knot of it. -/
def forgetfulLayer : Validated Seconds :=
  { bareLayer with
    detector := { lastKnown := some "gone" }
    cached := some (Analysis.ofGraph branchGraph, .whole 0) }

/-- The second call finds another memory than the first and takes the same substitute. -/
theorem forgetful_again :
    let out := (forgetfulLayer.currentKnot (.whole 60) (engineAt "ghost") none).value
    out.1 = "b" ∧ out.2.detector.lastKnown = some "ghost" ∧
      (out.2.currentKnot (.whole 299) (engineAt "ghost") none).value = out := by
  obtain ⟨-, hlayer⟩ := currentKnot_idempotent (τ := Seconds) (ε := Engine)
  refine ⟨by decide, by decide, ?_⟩
  apply hlayer
  · intro knot hknot
    cases hknot
    decide
  · decide

end Validated
end KnotAtlas
