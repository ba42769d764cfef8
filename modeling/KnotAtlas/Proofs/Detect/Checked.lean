import KnotAtlas.Detect.Validated
import KnotAtlas.Proofs.Detect.Memory
import KnotAtlas.Proofs.Detect.Verification
import KnotAtlas.Seconds

/-!
Detection while it is checked. The knot that an engine is in is always a knot of the graph: the
first one that the graph has among the detected name, what was remembered, the fallback, and the
graph's own knots. A name that replaces another is remembered. A prediction that the graph does not
know is replaced as well, but the detector goes on remembering the prediction.
-/

namespace KnotAtlas

open Detect (isKnotName knotName? seen?)

namespace Validated

variable {τ ε σ : Type} [StoryEngine ε σ] {a : Analysis}

@[simp] theorem detector_withDetector (v : Validated τ) (d : Detector) :
    (v.withDetector d).detector = d := rfl

theorem contains_eq_true_iff {knot : String} : a.contains knot = true ↔ knot ∈ a.graph.knots :=
  decide_eq_true_iff

theorem setGraph_value (v : Validated τ) (now : τ) (g : Graph) :
    (v.setGraph now g).value.2 =
      if g.isEmpty then v.reset else { v with cached := some (Analysis.ofGraph g, now) } := by
  rw [setGraph]
  split
  · rfl
  · rfl

theorem substitute?_eq_find? (a : Analysis) (previous fallback : Option String) :
    substitute? a previous fallback =
      (previous.toList ++ fallback.toList ++ a.graph.knots).find? (· ∈ a.graph.knots) := by
  have hoption : ∀ name : Option String,
      name.toList.find? (· ∈ a.graph.knots) = name.filter a.contains := by
    intro name
    cases name with
    | none => rfl
    | some knot => exact (Option.filter_some ..).symm ▸ List.find?_singleton ..
  have hfirst : ∀ knots : List String, knots.find? (· ∈ knots) = knots.head? := by
    intro knots
    cases knots with
    | nil => rfl
    | cons knot rest => exact List.find?_cons_of_pos (decide_eq_true (.head rest))
  rw [List.find?_append, List.find?_append, hoption, hoption, hfirst]
  rfl

/-- The name that a detected one is replaced by, if it is replaced. -/
def correction? (a : Analysis) (previous fallback : Option String) (named : String) :
    Option String :=
  if a.contains named then none else substitute? a previous fallback

theorem correction?_of_mem {previous fallback : Option String} {named : String}
    (h : named ∈ a.graph.knots) : correction? a previous fallback named = none :=
  if_pos (contains_eq_true_iff.mpr h)

theorem correction?_of_not_mem {previous fallback : Option String} {named : String}
    (h : named ∉ a.graph.knots) :
    correction? a previous fallback named =
      (previous.toList ++ fallback.toList ++ a.graph.knots).find? (· ∈ a.graph.knots) := by
  rw [correction?, if_neg (fun hc => h (contains_eq_true_iff.mp hc)), substitute?_eq_find?]

/-- A graph with knots always has a name to give. -/
theorem corrected_eq_find? (hknots : a.graph.knots ≠ []) (previous fallback : Option String)
    (named : String) :
    (named :: (previous.toList ++ fallback.toList ++ a.graph.knots)).find? (· ∈ a.graph.knots) =
      some ((correction? a previous fallback named).getD named) := by
  by_cases h : named ∈ a.graph.knots
  · rw [correction?_of_mem h]
    exact List.find?_cons_of_pos (decide_eq_true h)
  · rw [correction?_of_not_mem h, List.find?_cons_of_neg (by simpa using h)]
    obtain ⟨first, hfirst⟩ := List.exists_mem_of_ne_nil _ hknots
    cases hfound : (previous.toList ++ fallback.toList ++ a.graph.knots).find?
        (· ∈ a.graph.knots) with
    | some better => rfl
    | none =>
        have hnone := List.find?_eq_none.mp hfound first (List.mem_append_right _ hfirst)
        exact absurd (decide_eq_true hfirst) hnone

theorem corrected_mem (hknots : a.graph.knots ≠ []) (previous fallback : Option String)
    (named : String) : (correction? a previous fallback named).getD named ∈ a.graph.knots := by
  have hfound := List.find?_some (corrected_eq_find? hknots previous fallback named)
  simpa using hfound

section Times

variable [Sub τ] [LT τ] [DecidableLT τ] {v : Validated τ} {now : τ}

theorem checking?_eq_some (h : v.checking? now = some a) : ∃ since, v.cached = some (a, since) := by
  rw [checking?, fresh?] at h
  split at h
  · split at h
    · rename_i kept since hcached
      split at h
      · cases h
        exact ⟨since, hcached⟩
      · cases h
    · cases h
  · cases h

/-- What naming the knot gives where it is checked: the detected name, unless it is corrected; a
correction is remembered. -/
theorem currentKnot_checked (h : v.checking? now = some a) (e : ε) (fallback : Option String) :
    (v.currentKnot now e fallback).value =
      let detected := (v.detector.currentKnot e fallback).value
      match correction? a v.detector.lastKnown fallback detected.1 with
      | none => (detected.1, v.withDetector detected.2)
      | some better =>
        (better, v.withDetector (detected.2.recalling (detected.2.heard better))) := by
  have hcheck : ∀ d, (v.withDetector d).checking? now = some a := fun _ => h
  rw [currentKnot, Logged.value_bind]
  obtain ⟨named, d⟩ := (v.detector.currentKnot e fallback).value
  simp only [hcheck, correction?]
  split
  · rfl
  · simp only [Logged.value_bind]
    cases substitute? a v.detector.lastKnown fallback with
    | none => rfl
    | some better =>
        exact congrArg (fun d => (better, v.withDetector d)) (d.remember_value better)

theorem currentKnot_mem (h : v.checking? now = some a) (hknots : a.graph.knots ≠ []) (e : ε)
    (fallback : Option String) : (v.currentKnot now e fallback).value.1 ∈ a.graph.knots := by
  have hmem := corrected_mem hknots v.detector.lastKnown fallback
    (v.detector.currentKnot e fallback).value.1
  rw [currentKnot_checked h]
  dsimp only
  cases hright : correction? a v.detector.lastKnown fallback
      (v.detector.currentKnot e fallback).value.1 with
  | none =>
      rw [hright] at hmem
      exact hmem
  | some better =>
      rw [hright] at hmem
      exact hmem

theorem currentKnot_unchecked (h : v.checking? now = none) (e : ε) (fallback : Option String) :
    (v.currentKnot now e fallback).value =
      ((v.detector.currentKnot e fallback).value.1,
        v.withDetector (v.detector.currentKnot e fallback).value.2) := by
  have hcheck : ∀ d, (v.withDetector d).checking? now = none := fun _ => h
  rw [currentKnot, Logged.value_bind]
  simp only [hcheck]
  rfl

/-- Naming the current knot writes nothing but the memory. -/
theorem currentKnot_layer (v : Validated τ) (now : τ) (e : ε) (fallback : Option String) :
    ∃ last, (v.currentKnot now e fallback).value.2 = v.withDetector (v.detector.recalling last) ∧
      (v.detector.Remembers → (v.detector.recalling last).Remembers) := by
  have hkept := fun hd : v.detector.Remembers => hd.currentKnot e fallback
  have hdetected := congrArg Prod.snd (v.detector.currentKnot_value e fallback)
  rw [hdetected] at hkept
  cases hcheck : v.checking? now with
  | none =>
      refine ⟨_, ?_, hkept⟩
      rw [currentKnot_unchecked hcheck, hdetected]
  | some a =>
      rw [currentKnot_checked hcheck]
      dsimp only
      rw [hdetected]
      split
      · exact ⟨_, rfl, hkept⟩
      · exact ⟨_, rfl, fun hd => (hkept hd).heard _⟩

/-- The knot that a choice is taken to be made in. -/
def standing (v : Validated τ) (now : τ) (knot : String) : String :=
  (v.choiceKnot now knot).value

/-- The name that the detector itself gives for a choice. -/
def foretold (v : Validated τ) (now : τ) (e : ε) (knot : String) (index : Int) (verified : Bool) :
    String :=
  (v.detector.afterChoice e (v.standing now knot) index verified).value.1

theorem standing_checked (h : v.checking? now = some a) (knot : String) :
    v.standing now knot =
      if knot ∈ a.graph.knots then knot else v.detector.lastKnown.getD knot := by
  rw [standing, choiceKnot, h]
  dsimp only
  by_cases hknot : knot ∈ a.graph.knots
  · rw [if_pos hknot, if_pos (contains_eq_true_iff.mpr hknot)]
    rfl
  · rw [if_neg hknot, if_neg (mt contains_eq_true_iff.mp hknot)]
    rfl

theorem standing_unchecked (h : v.checking? now = none) (knot : String) :
    v.standing now knot = knot := by
  rw [standing, choiceKnot, h]
  rfl

theorem afterChoice_value (v : Validated τ) (now : τ) (e : ε) (knot : String) (index : Int)
    (verified : Bool) :
    (v.afterChoice now e knot index verified).value =
      let out := (v.detector.afterChoice e (v.standing now knot) index verified).value
      (match v.checking? now with
        | none => out.1
        | some a =>
          if a.contains out.1 then out.1
          else (closestTarget? a.graph.links (v.standing now knot) index).getD out.1,
        v.withDetector out.2.1, out.2.2) := by
  have hcheck : ∀ d, (v.withDetector d).checking? now = v.checking? now := fun _ => rfl
  rw [afterChoice, Logged.value_bind, Logged.value_bind, standing]
  simp only [hcheck]
  cases v.checking? now with
  | none => rfl
  | some a =>
      dsimp only
      split
      · rfl
      · simp only [Logged.value_bind]
        cases closestTarget? a.graph.links (v.choiceKnot now knot).value index with
        | none => rfl
        | some target => rfl

theorem afterChoice_name (v : Validated τ) (now : τ) (e : ε) (knot : String) (index : Int)
    (verified : Bool) :
    (v.afterChoice now e knot index verified).value.1 =
      let named := v.foretold now e knot index verified
      match v.checking? now with
      | none => named
      | some a =>
        if a.contains named then named
        else (closestTarget? a.graph.links (v.standing now knot) index).getD named :=
  congrArg Prod.fst (v.afterChoice_value now e knot index verified)

theorem afterChoice_checked (h : v.checking? now = some a) (e : ε) (knot : String) (index : Int)
    (verified : Bool) :
    (v.afterChoice now e knot index verified).value.1 =
      let named := v.foretold now e knot index verified
      if named ∈ a.graph.knots then named
      else (closestTarget? a.graph.links (v.standing now knot) index).getD named := by
  rw [afterChoice_name, h]
  dsimp only
  by_cases hnamed : v.foretold now e knot index verified ∈ a.graph.knots
  · rw [if_pos hnamed, if_pos (contains_eq_true_iff.mpr hnamed)]
  · rw [if_neg hnamed, if_neg (mt contains_eq_true_iff.mp hnamed)]

/-- A prediction is remembered as the detector made it, whatever the graph says. -/
theorem afterChoice_layer (v : Validated τ) (now : τ) (e : ε) (knot : String) (index : Int)
    (verified : Bool) :
    (v.afterChoice now e knot index verified).value.2.1 =
      v.withDetector (v.detector.recalling
        (v.detector.heard (v.foretold now e knot index verified))) := by
  rw [afterChoice_value, foretold]
  exact congrArg v.withDetector (v.detector.afterChoice_memory e _ index verified)

/-- A prediction that is not verified asks nothing of the engine. -/
theorem afterChoice_engine (v : Validated τ) (now : τ) (e : ε) (knot : String) (index : Int) :
    (v.afterChoice now e knot index false).value.2.2 = e :=
  congrArg (·.2.2) (v.afterChoice_value now e knot index false)

/-- A layer that was given a graph and finds it fresh checks against that graph, which has knots. -/
theorem checking?_setGraph {w : Validated τ} {since : τ} {g : Graph} (henabled : w.enabled = true)
    (hfresh : ((w.setGraph since g).value.2.fresh? now).isSome) (d : Detector) :
    ((w.setGraph since g).value.2.withDetector d).checking? now = some (Analysis.ofGraph g) ∧
      g.knots ≠ [] := by
  rw [setGraph_value] at hfresh ⊢
  cases hempty : g.isEmpty with
  | true =>
      rw [hempty] at hfresh
      cases hfresh
  | false =>
      rw [hempty] at hfresh
      simp only [Bool.false_eq_true, if_false, fresh?] at hfresh
      split at hfresh
      · rename_i hage
        refine ⟨?_, fun hnil => ?_⟩
        · simp only [Bool.false_eq_true, if_false, checking?, withDetector, henabled, if_true,
            fresh?, if_pos hage]
        · rw [Graph.isEmpty, hnil] at hempty
          cases hempty
      · cases hfresh

/-- While the graph is fresh, the knot that an engine is in is a knot of the graph: the first that
the graph has among the detected name, what was remembered before, the fallback, and its own knots.
A name that replaces the detected one is remembered. -/
theorem currentKnot_known (w : Validated τ) (since : τ) (g : Graph) (d : Detector) (e : ε)
    (fallback : Option String) (henabled : w.enabled = true)
    (hfresh : ((w.setGraph since g).value.2.fresh? now).isSome) :
    let named := (d.currentKnot e fallback).value.1
    let out := (((w.setGraph since g).value.2.withDetector d).currentKnot now e fallback).value
    out.1 ∈ g.knots ∧
      (named :: (d.lastKnown.toList ++ fallback.toList ++ g.knots)).find? (· ∈ g.knots) =
        some out.1 ∧
      (named ∉ g.knots → isKnotName out.1 = true → out.2.detector.lastKnown = some out.1) := by
  intro named out
  obtain ⟨hcheck, hknots⟩ := checking?_setGraph henabled hfresh d
  have hout : out = _ := currentKnot_checked hcheck e fallback
  have hfind := corrected_eq_find? (a := Analysis.ofGraph g) hknots d.lastKnown fallback named
  have hmem := corrected_mem (a := Analysis.ofGraph g) hknots d.lastKnown fallback named
  rw [hout]
  dsimp only [detector_withDetector]
  cases hcorrect : correction? (Analysis.ofGraph g) d.lastKnown fallback named with
  | none =>
      rw [hcorrect] at hfind hmem
      exact ⟨hmem, hfind, fun hnew _ => absurd hmem hnew⟩
  | some better =>
      rw [hcorrect] at hfind hmem
      refine ⟨hmem, hfind, fun _ hvalid => ?_⟩
      exact Detector.heard_of_isKnotName _ hvalid

end Times

/-- An engine whose path says that it is at a knot. -/
def engineAt (knot : String) : Engine :=
  .object { members := [], live := some (Detector.stateAt knot) }

/-- A layer without a graph. -/
def bareLayer : Validated Seconds :=
  { detector := {}, ttl := .whole 300 }

/-- A graph whose first knot has a name that no detector remembers. -/
def branchGraph : Graph :=
  ⟨["b", "cave"], []⟩

theorem branchGraph_known :
    let v := (bareLayer.setGraph (.whole 0) branchGraph).value.2
    let out := ((v.withDetector { lastKnown := some "gone" }).currentKnot (.whole 60)
      (engineAt "ghost") (some "cave")).value
    bareLayer.enabled = true ∧ (v.fresh? (.whole 60)).isSome = true ∧
      out.1 = "cave" ∧ out.2.detector.lastKnown = some "cave" := by
  intro v out
  have hfresh : (v.fresh? (.whole 60)).isSome = true := by decide
  have hnamed : (({ lastKnown := some "gone" } : Detector).currentKnot (engineAt "ghost")
      (some "cave")).value.1 = "ghost" := by
    decide
  obtain ⟨-, hfind, hlast⟩ := currentKnot_known bareLayer (.whole 0) branchGraph
    { lastKnown := some "gone" } (engineAt "ghost") (some "cave") rfl hfresh
  rw [hnamed] at hfind hlast
  have hcave : "cave" = out.1 := Option.some.inj hfind
  refine ⟨rfl, hfresh, hcave.symm, ?_⟩
  rw [hcave]
  refine hlast (by decide) ?_
  rw [← hcave]
  decide

end Validated
end KnotAtlas
