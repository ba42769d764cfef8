import KnotAtlas.Atlas.Aged
import KnotAtlas.Proofs.Detect.Checked

/-!
Sessions: requests made to an atlas one after the other, each at its own time. A request may fail on
a setting that does not fit and still have done something before. What each request can do to an
atlas is said once, by `Session.Change`; everything that holds throughout a session rests on it.
-/

namespace KnotAtlas

namespace Validated

variable {ε σ : Type} [StoryEngine ε σ]

theorem tryCurrentKnot_layer (wrong? : Option String) (v : Validated Seconds) (now : Seconds) (e : ε)
    (fallback : Option String) :
    ∃ last, (v.tryCurrentKnot wrong? now e fallback).value.2 =
      v.withDetector (v.detector.recalling last) := by
  rw [tryCurrentKnot]
  split
  · exact ⟨_, congrArg (v.withDetector ·.2) (v.detector.currentKnot_value e fallback)⟩
  · obtain ⟨last, hlayer, -⟩ := v.currentKnot_layer now e fallback
    exact ⟨last, hlayer⟩

theorem tryAfterChoice_layer (wrong? : Option String) (v : Validated Seconds) (now : Seconds) (e : ε)
    (knot : String) (index : Int) (verified : Bool) :
    ∃ last, (v.tryAfterChoice wrong? now e knot index verified).value.2 =
      v.withDetector (v.detector.recalling last) := by
  rw [tryAfterChoice]
  split
  · exact ⟨v.detector.lastKnown, rfl⟩
  · exact ⟨_, v.afterChoice_layer now e knot index verified⟩

end Validated

/-- The story that is accepted of a source, if it has knots. -/
def Story.Source.story? (source : Story.Source) (now : Seconds) : Option (CompiledStory Seconds) :=
  match source.build.value with
  | .ok built => if built.graph.isEmpty then none else some (CompiledStory.ofBuilt now built)
  | .error _ => none

namespace Atlas

variable {ε σ : Type} [StoryEngine ε σ]

/-- An atlas whose detector has another memory. -/
def recalling (a : Atlas Seconds) (last : Option String) : Atlas Seconds :=
  a.withDetector (a.detector.recalling last)

section Requests

variable (a : Atlas Seconds) (now : Seconds)

theorem misfits_recalling (last : Option String) :
    ((a.recalling last).knotsMisfit? now).or ((a.recalling last).infoMisfit? now) =
      (a.knotsMisfit? now).or (a.infoMisfit? now) := rfl

theorem proceed_value {α : Type} (misfit : Option Misfit) (next : Logged (Tried α)) :
    (a.proceed misfit next).value =
      match misfit with
      | some m => (.error m, a)
      | none => next.value := by
  cases misfit with
  | some m => rfl
  | none => rfl

theorem tryDetect_atlas (e : ε) : ∃ last, (a.tryDetect now e).value.2 = a.recalling last := by
  have hlayer : ∃ last, (a.tryLayerKnot now e a.settings.fallbackKnot.name?).value.2 =
      a.recalling last := by
    obtain ⟨last, hlast⟩ :=
      a.layer.tryCurrentKnot_layer a.wrongStatic? now e a.settings.fallbackKnot.name?
    exact ⟨last, congrArg a.withLayer hlast⟩
  rw [tryDetect]
  split
  · exact ⟨_, congrArg (a.withDetector ·.2) (a.detector.currentKnot_value e _)⟩
  · exact hlayer

/-- The knot that was found, settled among the known knots, with what is known of it. -/
theorem tryCurrentKnot_value (e : ε) :
    (a.tryCurrentKnot now e).value =
      let found := (a.tryDetect now e).value
      match found.1 with
      | .error m => (.error m, found.2)
      | .ok name =>
        match (found.2.knotsMisfit? now).or (found.2.infoMisfit? now) with
        | some m => (.error m, found.2)
        | none =>
          (.ok { found.2.knotInfo now (found.2.settle now name).value with isCurrent := some true },
            found.2) := by
  rw [tryCurrentKnot, Logged.value_bind]
  obtain ⟨found, a'⟩ := (a.tryDetect now e).value
  cases found with
  | error m => rfl
  | ok name =>
      dsimp only
      rw [proceed_value]
      cases a'.knotsMisfit? now with
      | some m => rfl
      | none =>
          rw [Logged.value_bind, proceed_value, Option.none_or]
          cases a'.infoMisfit? now with
          | some m => rfl
          | none => rfl

theorem tryCurrentKnot_atlas (e : ε) :
    ∃ last, (a.tryCurrentKnot now e).value.2 = a.recalling last := by
  have hfound := a.tryDetect_atlas now e
  rw [tryCurrentKnot_value]
  dsimp only
  split
  · exact hfound
  · split
    · exact hfound
    · exact hfound

/-- The knot that the layer gives for a choice, with what is known of it. -/
theorem tryAfterChoice_value (e : ε) (knot : String) (index : Int) (verified : Bool) :
    (a.tryAfterChoice now e knot index verified).value =
      let led := (a.tryLayerChoice now e knot index verified).value
      match led.1 with
      | .error m => (.error m, led.2)
      | .ok out =>
        match (led.2.knotsMisfit? now).or (led.2.infoMisfit? now) with
        | some m => (.error m, led.2)
        | none => (.ok (led.2.knotInfo now out.1, out.2), led.2) := by
  rw [tryAfterChoice, Logged.value_bind]
  obtain ⟨led, a'⟩ := (a.tryLayerChoice now e knot index verified).value
  cases led with
  | error m => rfl
  | ok out =>
      obtain ⟨name, after⟩ := out
      dsimp only
      rw [proceed_value]
      cases a'.knotsMisfit? now with
      | some m => rfl
      | none =>
          rw [Logged.value_bind, proceed_value, Option.none_or]
          cases a'.infoMisfit? now with
          | some m => rfl
          | none => rfl

theorem tryAfterChoice_atlas (e : ε) (knot : String) (index : Int) (verified : Bool) :
    ∃ last, (a.tryAfterChoice now e knot index verified).value.2 = a.recalling last := by
  have hled : ∃ last, (a.tryLayerChoice now e knot index verified).value.2 = a.recalling last := by
    obtain ⟨last, hlast⟩ :=
      a.layer.tryAfterChoice_layer a.wrongStatic? now e knot index verified
    exact ⟨last, congrArg a.withLayer hlast⟩
  rw [tryAfterChoice_value]
  dsimp only
  split
  · exact hled
  · split
    · exact hled
    · exact hled

theorem tryRecord_atlas (e : ε) :
    ∃ last trail, (a.tryRecord now e).value.2 = { a.recalling last with trail } := by
  obtain ⟨last, hlast⟩ := a.tryCurrentKnot_atlas now e
  rw [tryRecord, Logged.value_bind]
  generalize (a.tryCurrentKnot now e).value = found at hlast
  obtain ⟨info, a'⟩ := found
  cases hlast
  cases info with
  | error m => exact ⟨last, a.trail, rfl⟩
  | ok info => exact ⟨last, _, rfl⟩

/-- Accepting a graph with knots renews the story, the flows and the graph that detection is checked
against. -/
theorem accept_value (later : Seconds) {built : Story.Built} (h : built.graph.isEmpty = false) :
    (a.accept now later built).value =
      (CompiledStory.ofBuilt now built,
        (a.hold (CompiledStory.ofBuilt now built)).withLayer
          { a.layer with
            detector := a.detector.setFlows (flowsFor a.settings built.graph) true
            cached := some (Analysis.ofGraph built.graph, later) }) := by
  rw [accept, Logged.value_bind, Logged.value_bind, Validated.setGraph_value, h]
  rfl

theorem setStory_value (later : Seconds) (source : Story.Source) :
    (a.setStory now later source).value =
      match source.build.value with
      | .error err => (.error err, a)
      | .ok built =>
        if built.graph.isEmpty then (.ok none, a)
        else (.ok (some (CompiledStory.ofBuilt now built)), (a.accept now later built).value.2) := by
  rw [setStory, Logged.value_bind]
  cases source.build.value with
  | error err => rfl
  | ok built =>
      dsimp only
      cases hempty : built.graph.isEmpty with
      | true => rfl
      | false =>
          simp only [Bool.false_eq_true, if_false, Logged.value_bind,
            accept_value a now later hempty]
          rfl

/-- What handing over a story gives back; none if it is refused, for whatever reason. -/
def given? (later : Seconds) (source : Story.Source) : Option (CompiledStory Seconds) :=
  match (a.setStory now later source).value.1 with
  | .ok story => story
  | .error _ => none

/-- The atlas after a story was handed over. -/
def afterStory (later : Seconds) (source : Story.Source) : Atlas Seconds :=
  (a.setStory now later source).value.2

/-- A story is refused or accepted. -/
theorem handed_cases (later : Seconds) (source : Story.Source) :
    (a.given? now later source = none ∧ source.story? now = none ∧
      a.afterStory now later source = a) ∨
    (∃ built, source.build.value = .ok built ∧ built.graph.isEmpty = false ∧
      a.given? now later source = some (CompiledStory.ofBuilt now built) ∧
      source.story? now = some (CompiledStory.ofBuilt now built) ∧
      a.afterStory now later source = (a.accept now later built).value.2) := by
  rw [given?, afterStory, setStory_value, Story.Source.story?]
  cases source.build.value with
  | error err => exact .inl ⟨rfl, rfl, rfl⟩
  | ok built =>
      cases hempty : built.graph.isEmpty with
      | true =>
          simp only [hempty, if_true]
          exact .inl ⟨trivial, trivial, trivial⟩
      | false =>
          simp only [hempty, Bool.false_eq_true, if_false]
          exact .inr ⟨built, rfl, hempty, rfl, rfl, rfl⟩

/-- Which story is given back depends on the source alone. -/
theorem given?_eq (later : Seconds) (source : Story.Source) :
    a.given? now later source = source.story? now := by
  obtain ⟨hgiven, hstory, -⟩ | ⟨_, -, -, hgiven, hstory, -⟩ := a.handed_cases now later source
  · exact hgiven.trans hstory.symm
  · exact hgiven.trans hstory.symm

end Requests

/-- What can be asked of an atlas that may change it. Queries change nothing and are left out. For a
story the clock is read a second time, `later` than the request was made. -/
inductive Request (ε : Type) where
  | addSource (path content : String)
  | removeSource (path : String)
  | setStory (source : Story.Source) (later : Seconds)
  | clear
  | currentKnot (e : ε)
  | afterChoice (e : ε) (knot : String) (index : Int) (verified : Bool)
  | record (e : ε)

/-- The readings of the clock for a request made at `now`. -/
def Request.readings (now : Seconds) : Request ε → List Seconds
  | .setStory _ later => [now, later]
  | .addSource _ _ | .removeSource _ | .clear | .currentKnot _ | .afterChoice _ _ _ _
  | .record _ => [now]

end Atlas

open Atlas (Request)

/-- An atlas in use, with the story that it gave back last when one was handed to it. -/
structure Session where
  atlas : Atlas Seconds
  story : Option (CompiledStory Seconds) := none

namespace Session

variable {ε σ : Type} [StoryEngine ε σ]

def withAtlas (s : Session) (a : Atlas Seconds) : Session :=
  { s with atlas := a }

def setStory (s : Session) (now later : Seconds) (source : Story.Source) : Session :=
  match (s.atlas.setStory now later source).value with
  | (.ok (some story), a) => ⟨a, some story⟩
  | (.ok none, a) => s.withAtlas a
  | (.error _, a) => s.withAtlas a

/-- A session after one more request. -/
def step (s : Session) (now : Seconds) : Request ε → Session
  | .addSource path content => s.withAtlas (s.atlas.addSource now path content).value.2
  | .removeSource path => s.withAtlas (s.atlas.removeSource path).2
  | .setStory source later => s.setStory now later source
  | .clear => s.withAtlas s.atlas.clear.value
  | .currentKnot e => s.withAtlas (s.atlas.tryCurrentKnot now e).value.2
  | .afterChoice e knot index verified =>
    s.withAtlas (s.atlas.tryAfterChoice now e knot index verified).value.2
  | .record e => s.withAtlas (s.atlas.tryRecord now e).value.2

/-- A session after requests, each at its time. -/
def run (s : Session) (requests : List (Seconds × Request ε)) : Session :=
  requests.foldl (fun s request => s.step request.1 request.2) s

/-- The sessions that requests lead to from a new atlas, with the readings of the clock so far. -/
inductive Reached (ε : Type) {σ : Type} [StoryEngine ε σ] (settings : Settings) :
    List Seconds → Session → Prop where
  | start : Reached ε settings [] ⟨Atlas.create settings, none⟩
  | step {readings : List Seconds} {s : Session} (now : Seconds) (request : Request ε)
      (h : Reached ε settings readings s) :
      Reached ε settings (request.readings now ++ readings) (s.step now request)

theorem Reached.run {settings : Settings} {readings : List Seconds} {s : Session}
    (h : Reached ε settings readings s) (requests : List (Seconds × Request ε)) :
    Reached ε settings
      (requests.foldl (fun before request => request.2.readings request.1 ++ before) readings)
      (s.run requests) := by
  induction requests generalizing readings s with
  | nil => exact h
  | cons request rest ih => exact ih (h.step request.1 request.2)

/-- What a request at `now` may do to a session, where the clock is read for it as `readings`
says. -/
inductive Change (s : Session) (readings : List Seconds) : Session → Prop where
  | idle : Change s readings s
  | scanned (c : Source.Cache Seconds)
      (h : ∀ entry ∈ c.entries,
        entry ∈ s.atlas.sources.entries ∨ entry.2.scannedAt ∈ readings) :
      Change s readings (s.withAtlas { s.atlas with sources := c })
  | noticed (last : Option String) (trail : Trail) :
      Change s readings (s.withAtlas { s.atlas.recalling last with trail })
  | accepted (now later : Seconds) (hnow : now ∈ readings) (hlater : later ∈ readings)
      (source : Story.Source) (built : Story.Built) (hbuild : source.build.value = .ok built)
      (hfull : built.graph.isEmpty = false) :
      Change s readings
        ⟨(s.atlas.accept now later built).value.2, some (CompiledStory.ofBuilt now built)⟩
  | cleared : Change s readings (s.withAtlas s.atlas.clear.value)

theorem setStory_eq (s : Session) (now later : Seconds) (source : Story.Source) :
    s.setStory now later source =
      ⟨s.atlas.afterStory now later source, (s.atlas.given? now later source).or s.story⟩ := by
  rw [setStory, Atlas.given?, Atlas.afterStory]
  obtain ⟨err | (- | story), a⟩ := (s.atlas.setStory now later source).value
  · rfl
  · rfl
  · rfl

theorem setStory_change (s : Session) (now later : Seconds) (source : Story.Source) :
    Change s [now, later] (s.setStory now later source) := by
  rw [setStory_eq]
  obtain ⟨hgiven, -, hafter⟩ | ⟨built, hbuild, hfull, hgiven, -, hafter⟩ :=
    s.atlas.handed_cases now later source
  · rw [hgiven, hafter]
    exact .idle
  · rw [hgiven, hafter]
    exact .accepted now later (.head _) (.tail _ (.head _)) source built hbuild hfull

theorem addSource_change (s : Session) (now : Seconds) (path content : String) :
    Change s [now] (s.withAtlas (s.atlas.addSource now path content).value.2) := by
  refine .scanned (s.atlas.sources.add now path content).value.cache ?_
  intro entry hentry
  have hput : ∀ scan : Source.Scan Seconds, scan.scannedAt = now →
      entry ∈ (s.atlas.sources.put path scan).entries →
        entry ∈ s.atlas.sources.entries ∨ entry.2.scannedAt ∈ [now] := by
    intro scan hnow hmem
    obtain hold | rfl := OrderedMap.mem_insert hmem
    · exact .inl hold
    · exact .inr (hnow ▸ .head _)
  rw [Source.Cache.add] at hentry
  split at hentry
  · exact hput _ rfl hentry
  · dsimp only at hentry
    split at hentry
    · exact hput _ rfl hentry
    · exact .inl hentry

theorem step_change (s : Session) (now : Seconds) (request : Request ε) :
    Change s (request.readings now) (s.step now request) := by
  cases request with
  | addSource path content => exact s.addSource_change now path content
  | removeSource path =>
      exact .scanned _ fun entry hentry => .inl (List.mem_filter.mp hentry).1
  | setStory source later => exact s.setStory_change now later source
  | clear => exact .cleared
  | currentKnot e =>
      obtain ⟨last, hlast⟩ := s.atlas.tryCurrentKnot_atlas now e
      rw [step, hlast]
      exact .noticed last s.atlas.trail
  | afterChoice e knot index verified =>
      obtain ⟨last, hlast⟩ := s.atlas.tryAfterChoice_atlas now e knot index verified
      rw [step, hlast]
      exact .noticed last s.atlas.trail
  | record e =>
      obtain ⟨last, trail, hlast⟩ := s.atlas.tryRecord_atlas now e
      rw [step, hlast]
      exact .noticed last trail

end Session
end KnotAtlas
