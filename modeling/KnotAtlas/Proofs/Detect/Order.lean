import KnotAtlas.Proofs.Detect.Memory
import KnotAtlas.Proofs.Engine.Reading

/-!
The order in which a detector looks for a knot. The names that an engine shows come first: those of
the frames, newest first, the pointer's, the components of the path. Then come the fallback, the
memory and the start. The first of all these that can belong to a knot is the answer, and it is
remembered if the engine showed it.
-/

namespace KnotAtlas

open Detect (isKnotName startKnot seen? Strategy)

namespace Detect

/-- The names of a signal that a strategy looks at, in order. -/
def Strategy.names (s : Strategy) (signal : Signal) : List String :=
  match s with
  | .callStack => (signal.frames.getD []).reverse.filterMap id
  | .currentPointer => signal.pointer.toList
  | .pathString => (signal.path.map (Text.splitOn '.')).getD []

theorem knotName?_eq_find? (name : Option String) :
    knotName? name = name.toList.find? isKnotName := by
  cases name with
  | none => rfl
  | some name => exact (Option.filter_some ..).trans (List.find?_singleton ..).symm

theorem findSome?_knotName? (names : List (Option String)) :
    names.findSome? knotName? = (names.filterMap id).find? isKnotName := by
  induction names with
  | nil => rfl
  | cons name rest ih =>
      rw [List.findSome?_cons, knotName?_eq_find?, ih, List.filterMap_cons]
      cases name with
      | none => rfl
      | some name =>
          simp only [id, Option.toList_some, List.find?_cons, List.find?_nil]
          cases isKnotName name with
          | true => rfl
          | false => rfl

theorem Strategy.knot?_eq_find? (s : Strategy) (signal : Signal) :
    s.knot? signal = (s.names signal).find? isKnotName := by
  cases s with
  | callStack =>
      rw [Strategy.knot?, Strategy.names]
      cases signal.frames with
      | none => rfl
      | some frames => exact findSome?_knotName? frames.reverse
  | currentPointer => exact knotName?_eq_find? signal.pointer
  | pathString =>
      rw [Strategy.knot?, Strategy.names]
      cases signal.path with
      | none => rfl
      | some path => rfl

theorem resolve?_eq_find? (strategies : List Strategy) (signal : Signal) :
    (resolve? strategies signal).map (·.2) =
      (strategies.flatMap (·.names signal)).find? isKnotName := by
  induction strategies with
  | nil => rfl
  | cons s rest ih =>
      rw [List.flatMap_cons, List.find?_append, ← ih, ← Strategy.knot?_eq_find?, resolve?, resolve?,
        List.findSome?_cons]
      cases s.knot? signal with
      | none => rfl
      | some knot => rfl

end Detect

/-- The names that a signal shows: those of the frames, newest first, the pointer's, and the
components of the path. -/
def Signal.names (s : Signal) : List String :=
  (s.frames.getD []).reverse.filterMap id ++ s.pointer.toList ++
    (s.path.map (Text.splitOn '.')).getD []

theorem Detect.seen?_eq_find? {ε σ : Type} [StoryEngine ε σ] (e : ε) :
    seen? e = (StoryEngine.signal e).value.names.find? isKnotName := by
  refine (resolve?_eq_find? Strategy.all _).trans ?_
  simp only [Strategy.all, Strategy.names, List.flatMap_cons, List.flatMap_nil, List.append_nil,
    Signal.names, List.append_assoc]

namespace Detector

/-- The detectors that there are: a new one, and what another becomes by what can be asked of it. -/
inductive Reached : Detector → Prop where
  | create (flows : FlowMap) (useSample debug : Bool) (initial : Option String) :
    Reached (create flows useSample debug initial)
  | remember {d : Detector} (h : Reached d) (name : String) : Reached (d.remember name).value
  | addFlow {d : Detector} (h : Reached d) (knot : String) (flow : Flow) :
    Reached (d.addFlow knot flow).value
  | setFlows {d : Detector} (h : Reached d) (flows : FlowMap) (replace : Bool) :
    Reached (d.setFlows flows replace)
  | currentKnot {d : Detector} (h : Reached d) {ε σ : Type} [StoryEngine ε σ] (e : ε)
    (fallback : Option String) : Reached (d.currentKnot e fallback).value.2
  | afterChoice {d : Detector} (h : Reached d) {ε σ : Type} [StoryEngine ε σ] (e : ε)
    (knot : String) (index : Int) (verified : Bool) :
    Reached (d.afterChoice e knot index verified).value.2.1
  | enter {d : Detector} (h : Reached d) (file : String) (known : Option (List String)) :
    Reached (d.enter file known).value.2

theorem enter_value (d : Detector) (file : String) (known : Option (List String)) :
    (d.enter file known).value =
      (initialKnot file known, d.recalling (d.heard (initialKnot file known))) := by
  rw [enter, Logged.value_bind, Logged.value_bind, remember_value]
  rfl

theorem Reached.remembers {d : Detector} (h : d.Reached) : d.Remembers := by
  induction h with
  | create flows useSample debug initial => exact remembers_create flows useSample debug initial
  | @remember d _ name ih =>
      rw [remember_value]
      exact ih.heard name
  | addFlow _ knot flow ih => exact ih
  | setFlows _ flows replace ih => exact ih
  | currentKnot _ e fallback ih => exact ih.currentKnot e fallback
  | afterChoice _ e knot index verified ih => exact ih.afterChoice e knot index verified
  | @enter d _ file known ih =>
      rw [enter_value]
      exact ih.heard (initialKnot file known)

/-- The names that are looked at for the knot of an engine, most trusted first. -/
def candidates (d : Detector) (signal : Signal) (fallback : Option String) : List String :=
  signal.names ++ fallback.toList ++ d.lastKnown.toList ++ [startKnot]

theorem candidates_find? {d : Detector} (hd : d.Remembers) (signal : Signal)
    (fallback : Option String) :
    (d.candidates signal fallback).find? isKnotName =
      some ((signal.names.find? isKnotName).getD
        (((Detect.knotName? fallback).or d.lastKnown).getD startKnot)) := by
  have hlast : d.lastKnown.toList.find? isKnotName = d.lastKnown := by
    cases hlast : d.lastKnown with
    | none => rfl
    | some last => exact List.find?_cons_of_pos (hd last hlast)
  have hstart : [startKnot].find? isKnotName = some startKnot := by decide
  rw [candidates, List.find?_append, List.find?_append, List.find?_append, hlast, hstart,
    ← Detect.knotName?_eq_find?, Option.or_some, Option.or_assoc, Option.getD_or]

theorem Remembers.currentKnot_find? {ε σ : Type} [StoryEngine ε σ] {d : Detector}
    (hd : d.Remembers) (e : ε) (fallback : Option String) :
    (d.candidates (StoryEngine.signal e).value fallback).find? isKnotName =
      some (d.currentKnot e fallback).value.1 := by
  rw [candidates_find? hd, currentKnot_value, Detect.seen?_eq_find?]

theorem Remembers.isKnotName_currentKnot {ε σ : Type} [StoryEngine ε σ] {d : Detector}
    (hd : d.Remembers) (e : ε) (fallback : Option String) :
    isKnotName (d.currentKnot e fallback).value.1 = true :=
  List.find?_some (hd.currentKnot_find? e fallback)

/-- Naming the knot of an engine always gives a name that can belong to a knot: the first such name
that the engine shows, else the fallback, else what is remembered, else the start. An engine shows
the names of its frames, newest first, then the pointer's, then the components of its path. What the
engine shows is remembered; otherwise the detector stays as it is. -/
theorem currentKnot_first {ε σ : Type} [StoryEngine ε σ] {d : Detector} (hd : d.Reached) (e : ε)
    (fallback : Option String) :
    let s := (StoryEngine.signal e).value
    let shown := (s.frames.getD []).reverse.filterMap id ++ s.pointer.toList ++
      (s.path.map (Text.splitOn '.')).getD []
    let out := (d.currentKnot e fallback).value
    s.Reads e ∧
      (shown ++ fallback.toList ++ d.lastKnown.toList ++ ["start"]).find? isKnotName =
        some out.1 ∧
      isKnotName out.1 = true ∧
      d.Remembers ∧ out.2.Remembers ∧
      (∀ knot, shown.find? isKnotName = some knot → out = (knot, d.recalling (some knot))) ∧
      (shown.find? isKnotName = none → out.2 = d) := by
  intro s shown out
  have hshown : shown = s.names := rfl
  have hremembers := hd.remembers
  have hout : out = _ := d.currentKnot_value e fallback
  rw [Detect.seen?_eq_find?, ← hshown] at hout
  refine ⟨StoryEngine.signal_reads e, hremembers.currentKnot_find? e fallback,
    hremembers.isKnotName_currentKnot e fallback, hremembers, hremembers.currentKnot e fallback,
    ?_, ?_⟩
  · intro knot hknot
    rw [hout, hknot]
    rfl
  · intro hnone
    rw [hout, hnone]
    rfl

/-- An engine whose call stack cannot be read. It points to a choice, and its path leads there
through a knot. -/
def torn : Engine :=
  .object
    { members := []
      live := some
        [("callStack", .raises "no stack"),
          ("currentPointer", .object [("container", .object [("name", .scalar (.str "c-1"))])]),
          ("currentPathString", .scalar (.str "0.c-1.shop.3"))] }

/-- An engine whose newest frame but one is in a knot, and which points and leads elsewhere. -/
def stacked : Engine :=
  .object
    { members := []
      live := some
        [("callStack", .object [("elements", .list [frame "crypt", frame "hall", frame "c-0"])]),
          ("currentPointer", .object [("container", .object [("name", .scalar (.str "shop"))])]),
          ("currentPathString", .scalar (.str "attic.0"))] }
where
  frame (name : String) : Attribute :=
    .object [("currentPointer",
      .object [("container", .object [("name", .scalar (.str name))])])]

theorem currentKnot_torn :
    let d := (create [] false false (some "start")).remember "cave"
    let out := (d.value.currentKnot torn (some "door")).value
    d.value.Reached ∧ d.value.lastKnown = some "cave" ∧ out.1 = "shop" ∧
      out.2.lastKnown = some "shop" ∧
      (d.value.currentKnot stacked (some "door")).value.1 = "hall" := by
  intro d out
  have hd : d.value.Reached := .remember (.create [] false false (some "start")) "cave"
  obtain ⟨-, -, -, -, -, hshown, -⟩ := currentKnot_first hd torn (some "door")
  have hout : out = _ := hshown "shop" (by decide)
  obtain ⟨-, -, -, -, -, hstacked, -⟩ := currentKnot_first hd stacked (some "door")
  refine ⟨hd, by decide, ?_, ?_, ?_⟩
  · rw [hout]
  · rw [hout]
    rfl
  · rw [hstacked "hall" (by decide)]

end Detector
end KnotAtlas
