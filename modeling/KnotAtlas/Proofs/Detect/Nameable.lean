import KnotAtlas.Proofs.Detect.Checked
import KnotAtlas.Proofs.Detect.Order

/-!
Which knots of a story detection can name. A story may have knots with names that the detector takes
for names made up by a compiler. It passes over such a name wherever an engine shows it, so the
layer answers with another knot of the story, if there is one.
-/

namespace KnotAtlas

open Detect (isKnotName knotName? seen?)

/-- Whether an engine is at a knot by all its signals: the newest frame and the pointer name it, and
so does the first component of the path. -/
structure StoryEngine.ShowsKnot {ε σ : Type} [StoryEngine ε σ] (e : ε) (knot : String) : Prop where
  frame : ∃ elements,
    (attributes e).Shows [stateNames, Signal.callStackNames, ["elements"]] elements ∧
    ∃ older newest, elements.parts = .ok (older ++ [newest]) ∧
      Signal.PointsInto newest (some knot)
  pointer : ∃ a, (attributes e).Shows (stateNames :: Signal.nameWay) a ∧ a.text? = some knot
  path : ∃ a, (attributes e).Shows [stateNames, Signal.pathNames] a ∧
    ∃ path rest, a.text? = some path ∧ Text.splitOn '.' path = knot :: rest

open StoryEngine (ShowsKnot)

namespace Validated

variable {τ ε σ : Type} [StoryEngine ε σ]

/-- The newest frame of an engine is the newest that is read, if the frames can be read at all. -/
theorem frames_of_showsKnot {e : ε} {s : Signal} {knot : String} (hreads : s.Reads e)
    (h : ShowsKnot e knot) {names : List (Option String)} (hframes : s.frames = some names) :
    ∃ older, names.reverse = some knot :: older := by
  obtain ⟨elements, hshows, older, newest, hparts, hnewest⟩ := h.frame
  obtain ⟨read, hread, frames, hfound, hnames⟩ := (hreads.frames names).mp hframes
  cases hshows.unique hread
  rw [hparts] at hfound
  cases hfound
  rw [← List.forall₂_reverse_iff, List.reverse_append, List.reverse_singleton,
    List.singleton_append, List.forall₂_cons_left_iff] at hnames
  obtain ⟨name, rest, hname, -, hreverse⟩ := hnames
  cases hname.unique hnewest
  exact ⟨rest, hreverse⟩

theorem seen?_of_showsKnot {e : ε} {knot : String} (h : ShowsKnot e knot)
    (hname : isKnotName knot = true) : seen? e = some knot := by
  have hreads := StoryEngine.signal_reads e
  rw [Detect.seen?_eq_find?]
  generalize (StoryEngine.signal e).value = s at hreads
  have hpointer : s.pointer = some knot := (hreads.pointer knot).mpr h.pointer
  -- An older frame that cannot be read blanks the frames; then the pointer is the first to tell.
  have hfirst : ∃ rest, s.names = knot :: rest := by
    rw [Signal.names, hpointer]
    cases hframes : s.frames with
    | none => exact ⟨_, rfl⟩
    | some names =>
        obtain ⟨older, holder⟩ := frames_of_showsKnot hreads h hframes
        rw [Option.getD_some, holder]
        exact ⟨_, rfl⟩
  obtain ⟨rest, hrest⟩ := hfirst
  rw [hrest]
  exact List.find?_cons_of_pos hname

theorem setStory_layer {v : Validated τ} {since : τ} {source : Story.Source} {built : Story.Built}
    {stored : StorySet τ} (hbuilt : source.build.value = .ok built)
    (hstored : (v.setStory since source).value = .ok stored) :
    stored.layer = (v.setGraph since built.graph).value.2 := by
  rw [setStory, Logged.value_bind, hbuilt] at hstored
  cases hstored
  rfl

section Times

variable [Sub τ] [LT τ] [DecidableLT τ]

/-- A layer that checks detection after it was handed a story checks it against that story's
graph. -/
theorem checking?_setStory {v : Validated τ} {since now : τ} {source : Story.Source}
    {built : Story.Built} {stored : StorySet τ} (hbuilt : source.build.value = .ok built)
    (hstored : (v.setStory since source).value = .ok stored)
    (hcheck : (stored.layer.checking? now).isSome) (d : Detector) :
    (stored.layer.withDetector d).checking? now = some (Analysis.ofGraph built.graph) ∧
      built.graph.knots ≠ [] := by
  obtain ⟨a, ha⟩ := Option.isSome_iff_exists.mp hcheck
  obtain ⟨kept, hkept⟩ := checking?_eq_some ha
  rw [setStory_layer hbuilt hstored, setGraph_value] at hkept
  cases hempty : built.graph.isEmpty with
  | true =>
      rw [hempty] at hkept
      cases hkept
  | false =>
      rw [hempty] at hkept
      cases hkept
      refine ⟨ha, fun hnil => ?_⟩
      rw [Graph.isEmpty, hnil] at hempty
      cases hempty

/-- While a layer checks detection against a story, it names a knot that an engine shows by all its
signals, for every memory and fallback, exactly if the detector takes the knot's name for that of a
knot or the story has no other knot. -/
theorem knot_named_iff {v : Validated τ} {since now : τ} {source : Story.Source}
    {built : Story.Built} {stored : StorySet τ} (hbuilt : source.build.value = .ok built)
    (hstored : (v.setStory since source).value = .ok stored)
    (hcheck : (stored.layer.checking? now).isSome) {knot : String}
    (hknot : knot ∈ built.graph.knots) {e : ε} (he : ShowsKnot e knot) :
    (∀ (d : Detector) (fallback : Option String),
        ((stored.layer.withDetector d).currentKnot now e fallback).value.1 = knot) ↔
      isKnotName knot = true ∨ ∀ other ∈ built.graph.knots, other = knot := by
  constructor
  · intro h
    by_cases hname : isKnotName knot = true
    · exact .inl hname
    · refine .inr fun other hother => ?_
      -- A new detector never names the knot, so with another knot for a fallback the layer gives
      -- that one back, or keeps what was detected, which is not the knot either.
      have hnew : ({} : Detector).Remembers := fun _ hlast => (by cases hlast)
      have hvalid := hnew.isKnotName_currentKnot e (some other)
      have hgiven := h {} (some other)
      rw [currentKnot_checked (checking?_setStory hbuilt hstored hcheck {}).1] at hgiven
      simp only [detector_withDetector] at hgiven
      generalize (({} : Detector).currentKnot e (some other)).value = detected at hvalid hgiven
      by_cases hmem : detected.1 ∈ (Analysis.ofGraph built.graph).graph.knots
      · rw [correction?_of_mem hmem] at hgiven
        exact absurd (hgiven ▸ hvalid) hname
      · have hback : correction? (Analysis.ofGraph built.graph) none (some other) detected.1 =
            some other := by
          rw [correction?_of_not_mem hmem]
          exact List.find?_cons_of_pos (decide_eq_true hother)
        rw [hback] at hgiven
        exact hgiven
  · rintro hor d fallback
    obtain ⟨hlayer, hknots⟩ := checking?_setStory hbuilt hstored hcheck d
    rcases hor with hname | honly
    · rw [currentKnot_checked hlayer, detector_withDetector, Detector.currentKnot_value,
        seen?_of_showsKnot he hname]
      dsimp only [Option.getD_some]
      rw [correction?_of_mem hknot]
    · exact honly _ (currentKnot_mem hlayer hknots e fallback)

end Times

/-- A story with a knot that has the name of a branch. -/
def branchStory : Value :=
  .object [("root", .list [.null, .object
    [("A", .list [.str "^x"]), ("b", .list [.str "^y"])]])]

/-- An engine that is at a knot by all its signals. -/
def whollyAt (knot : String) : Engine :=
  let pointer : Attribute := .object [("container", .object [("name", .scalar (.str knot))])]
  .object
    { members := []
      live := some
        [("callStack", .object [("elements", .list [.object [("currentPointer", pointer)]])]),
          ("currentPointer", pointer), ("currentPathString", .scalar (.str knot))] }

theorem showsKnot_whollyAt {knot : String} (h : Text.splitOn '.' knot = [knot]) :
    ShowsKnot (whollyAt knot) knot where
  frame := ⟨_, .next rfl (.next rfl (.next rfl (.here _))), [], _, rfl,
    _, .next rfl (.next rfl (.next rfl (.here _))), rfl⟩
  pointer := ⟨_, .next rfl (.next rfl (.next rfl (.next rfl (.here _)))), rfl⟩
  path := ⟨_, .next rfl (.next rfl (.here _)), knot, [], rfl, h⟩

def branchStoryGraph : Graph :=
  ⟨["A", "b"], []⟩

def branchLayer : Validated Seconds :=
  { bareLayer with cached := some (Analysis.ofGraph branchStoryGraph, .whole 0) }

theorem build_branchStory :
    (Story.Source.decoded branchStory).build.value = .ok ⟨branchStoryGraph, {}⟩ := by
  decide +kernel

theorem setStory_branchStory :
    (bareLayer.setStory (.whole 0) (.decoded branchStory)).value =
      .ok ⟨some (Analysis.ofGraph branchStoryGraph), {}, branchLayer⟩ := by
  rw [setStory, Logged.value_bind, build_branchStory]
  rfl

theorem branchStory_named :
    (∀ (d : Detector) (fallback : Option String),
      ((branchLayer.withDetector d).currentKnot (.whole 60) (whollyAt "A") fallback).value.1 =
        "A") ∧
    ¬ ∀ (d : Detector) (fallback : Option String),
      ((branchLayer.withDetector d).currentKnot (.whole 60) (whollyAt "b") fallback).value.1 =
        "b" := by
  have hfresh : (branchLayer.checking? (.whole 60)).isSome = true := by decide
  have hA : "A" ∈ branchStoryGraph.knots := .head _
  have hb : "b" ∈ branchStoryGraph.knots := .tail _ (.head _)
  constructor
  · exact (knot_named_iff build_branchStory setStory_branchStory hfresh hA
      (showsKnot_whollyAt (by decide))).mpr (.inl (by decide))
  · intro h
    rcases (knot_named_iff build_branchStory setStory_branchStory hfresh hb
      (showsKnot_whollyAt (by decide))).mp h with hname | honly
    · exact absurd hname (by decide)
    · exact absurd (honly "A" hA) (by decide)

/-- The story is accepted and has a knot `b`. An engine that is there by all its signals is said to
be in another knot. -/
theorem branchStory_misnamed :
    (bareLayer.setStory (.whole 0) (.decoded branchStory)).value =
        .ok ⟨some (Analysis.ofGraph branchStoryGraph), {}, branchLayer⟩ ∧
      (branchLayer.checking? (.whole 60)).isSome = true ∧ "b" ∈ branchStoryGraph.knots ∧
      ShowsKnot (whollyAt "b") "b" ∧
      (branchLayer.currentKnot (.whole 60) (whollyAt "b") none).value.1 = "A" := by
  refine ⟨setStory_branchStory, by decide, .tail _ (.head _),
    showsKnot_whollyAt (by decide), ?_⟩
  decide

end Validated
end KnotAtlas
