import KnotAtlas.Proofs.Atlas.Acceptance

/-!
All parts of an atlas speak of one story: the last that was accepted among the requests so far. The
compiled story that is held is that story, the graph that detection is checked against is its graph,
and the flows are those of its links, then of the settings, then of the sample.
-/

namespace KnotAtlas

namespace Atlas

theorem find?_create (settings : Settings) (knot : String) :
    (create settings).detector.flows.find? knot =
      (settings.flow? knot).or (settings.sampleFlow? knot) := by
  have hflows : (create settings).detector.flows =
      OrderedMap.update (if settings.useSample.isOn then FlowMap.sample else [])
        settings.flows.flows := rfl
  rw [hflows, OrderedMap.find?_update_or, find?_sample]
  rfl

variable {ε σ : Type} [StoryEngine ε σ]

def Request.story? (now : Seconds) : Request ε → Option (CompiledStory Seconds)
  | .setStory source _ => source.story? now
  | .addSource _ _ | .removeSource _ | .clear | .currentKnot _ | .afterChoice _ _ _ _
  | .record _ => none

end Atlas

namespace Session

open Atlas (Request)

variable {ε σ : Type} [StoryEngine ε σ] {settings : Settings} {s t : Session} {now : Seconds}
  {readings : List Seconds}

/-- The stories that are accepted among requests. -/
def accepted (requests : List (Seconds × Request ε)) : List (CompiledStory Seconds) :=
  requests.filterMap fun request => request.2.story? request.1

theorem run_concat (s : Session) (requests : List (Seconds × Request ε))
    (request : Seconds × Request ε) :
    s.run (requests ++ [request]) = (s.run requests).step request.1 request.2 := by
  rw [run, List.foldl_append]
  rfl

theorem step_story (s : Session) (now : Seconds) (request : Request ε) :
    (s.step now request).story = (request.story? now).or s.story := by
  cases request with
  | setStory source later =>
      rw [step, setStory_eq, Atlas.given?_eq]
      rfl
  | addSource _ _ | removeSource _ | clear | currentKnot _ | afterChoice _ _ _ _ | record _ => rfl

/-- The story of a session is the last that was accepted. -/
theorem run_story (requests : List (Seconds × Request ε)) :
    ((⟨Atlas.create settings, none⟩ : Session).run requests).story =
      (accepted requests).getLast? := by
  -- The last request decides, in the session that those before it led to.
  induction requests using List.reverseRecOn with
  | nil => rfl
  | append_singleton requests request ih =>
      rw [run_concat, step_story, ih, accepted, accepted, List.filterMap_append]
      cases hstory : request.2.story? request.1 with
      | none => simp [hstory]
      | some story => simp [hstory]

/-- The parts of a session speak of its story alone. -/
structure Agreeing (settings : Settings) (s : Session) : Prop where
  report : ∀ story, s.story = some story → story.report = story.graph.analyze
  checked : ∀ cached, s.atlas.layer.cached = some cached →
    ∃ story, s.story = some story ∧ cached.1 = Analysis.ofGraph story.graph
  held : ∀ compiled, s.atlas.compiled = some compiled → s.story = some compiled ∧
    ∃ since, s.atlas.layer.cached = some (Analysis.ofGraph compiled.graph, since)
  initial : s.story = none → s.atlas.detector.flows = (Atlas.create settings).detector.flows

theorem agreeing_create : Agreeing settings ⟨Atlas.create settings, none⟩ where
  report _ h := by cases h
  checked _ h := by cases h
  held _ h := by cases h
  initial _ := rfl

/-- A story that is accepted is what all parts speak of from then on. -/
theorem Agreeing.accept (hcoherent : Coherent settings s) {built : Story.Built}
    (hfull : built.graph.isEmpty = false) (now later : Seconds) :
    Agreeing settings
      ⟨(s.atlas.accept now later built).value.2, some (CompiledStory.ofBuilt now built)⟩ := by
  rw [Atlas.accept_value s.atlas now later hfull]
  refine ⟨?_, ?_, ?_, fun h => (by cases h)⟩
  · intro story hstory
    cases hstory
    rfl
  · intro cached hcached
    cases hcached
    exact ⟨_, rfl, rfl⟩
  · intro compiled hcompiled
    change (s.atlas.hold _).compiled = some compiled at hcompiled
    rw [Atlas.compiled_hold, hcoherent.settings_eq] at hcompiled
    split at hcompiled
    · cases hcompiled
      exact ⟨rfl, later, rfl⟩
    -- Compiled stories are not kept, so none was held before either.
    · rename_i hoff
      exact absurd (hcoherent.held compiled hcompiled).1 hoff

theorem Agreeing.change (h : Agreeing settings s) (hcoherent : Coherent settings s)
    (hchange : Change s readings t) : Agreeing settings t := by
  cases hchange with
  | idle => exact h
  | scanned c _ => exact ⟨h.report, h.checked, h.held, h.initial⟩
  | noticed last trail => exact ⟨h.report, h.checked, h.held, h.initial⟩
  | cleared =>
      exact ⟨h.report, fun _ hnone => (by cases hnone), fun _ hnone => (by cases hnone), h.initial⟩
  | accepted now later _ _ source built _ hfull => exact Agreeing.accept hcoherent hfull now later

theorem Reached.agreeing (h : Reached ε settings readings s) : Agreeing settings s := by
  induction h with
  | start => exact agreeing_create
  | step now request hs ih => exact ih.change hs.coherent (step_change _ now request)

/-- Whatever is asked of a new atlas, all parts speak of the story that was accepted last. What is
held is that story, and the graph that detection is checked against is its graph; the flows are
those that the atlas started with until a story is accepted, and from then on those of the story's
links before those of the settings, and those before the sample's. -/
theorem views_agree (settings : Settings) (requests : List (Seconds × Request ε)) :
    let atlas := ((⟨Atlas.create settings, none⟩ : Session).run requests).atlas
    let last := (accepted requests).getLast?
    (∀ compiled, atlas.compiled = some compiled →
      last = some compiled ∧ compiled.report = compiled.graph.analyze ∧
        ∃ kept since, atlas.layer.cached = some (kept, since) ∧ kept.graph = compiled.graph) ∧
    (∀ kept since, atlas.layer.cached = some (kept, since) →
      ∃ story, last = some story ∧ kept.graph = story.graph) ∧
    (last = none → atlas.detector.flows = (Atlas.create settings).detector.flows) ∧
    (∀ story, last = some story → atlas.detector.flows = Atlas.flowsFor settings story.graph) ∧
    ∀ knot, atlas.detector.flows.find? knot =
      (last.bind (·.graph.flow? knot)).or
        ((settings.flow? knot).or (settings.sampleFlow? knot)) := by
  intro atlas last
  have hreached : Reached ε settings _ ((⟨Atlas.create settings, none⟩ : Session).run requests) :=
    Reached.start.run requests
  have hagree := hreached.agreeing
  have hcoherent := hreached.coherent
  have hlast : ((⟨Atlas.create settings, none⟩ : Session).run requests).story = last :=
    run_story requests
  have hinitial : last = none → atlas.detector.flows = (Atlas.create settings).detector.flows :=
    fun hnone => hagree.initial (hlast.trans hnone)
  have hflows : ∀ story, last = some story →
      atlas.detector.flows = Atlas.flowsFor settings story.graph :=
    fun story hstory => hcoherent.flows story (hlast.trans hstory)
  refine ⟨?_, ?_, hinitial, hflows, ?_⟩
  · intro compiled hcompiled
    obtain ⟨hstory, since, hcached⟩ := hagree.held compiled hcompiled
    exact ⟨hlast.symm.trans hstory, hagree.report compiled hstory, _, since, hcached, rfl⟩
  · intro kept since hcached
    obtain ⟨story, hstory, rfl⟩ := hagree.checked _ hcached
    exact ⟨story, hlast.symm.trans hstory, rfl⟩
  · intro knot
    cases hcase : last with
    | none =>
        rw [hinitial hcase]
        exact Atlas.find?_create settings knot
    | some story =>
        rw [hflows story hcase]
        exact Atlas.find?_flowsFor settings story.graph knot

/-- A story is accepted, another one refused, and the first knot visited. -/
def refusedBetween : List (Seconds × Request Engine) :=
  [(.whole 10, .setStory (.decoded pairStory) (.whole 11)),
    (.whole 20, .setStory (.decoded (.object [])) (.whole 21)),
    (.whole 30, .currentKnot (Validated.engineAt "A"))]

theorem refusedBetween_agree :
    let atlas := ((⟨Atlas.create detour, none⟩ : Session).run refusedBetween).atlas
    ∃ compiled kept since, atlas.compiled = some compiled ∧ compiled.graph = pair ∧
      atlas.layer.cached = some (kept, since) ∧ kept.graph = pair ∧
      atlas.detector.flows.find? "A" = some ⟨["B"], some "B"⟩ := by
  intro atlas
  have hheld : atlas.compiled.map (·.graph) = some pair := by decide +kernel
  obtain ⟨compiled, hcompiled, hgraph⟩ := Option.map_eq_some_iff.mp hheld
  obtain ⟨hstory, -, -, -, hflow⟩ := views_agree detour refusedBetween
  obtain ⟨hlast, -, kept, since, hcached, hkept⟩ := hstory compiled hcompiled
  refine ⟨compiled, kept, since, hcompiled, hgraph, hcached, hkept.trans hgraph, ?_⟩
  rw [hflow "A", hlast, Option.bind_some, hgraph]
  decide

end Session
end KnotAtlas
