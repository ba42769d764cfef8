import KnotAtlas.Proofs.Atlas.Requests
import KnotAtlas.Proofs.Flow.Links
import KnotAtlas.Proofs.Story.WellFormed

/-!
What holds throughout a session. Flows and the graph that detection is checked against belong to the
story that was accepted last, whatever was refused, forgotten or grew old since; a compiled story
that is held is that story too. Every time that is noted was read off the clock, so lifetimes that
are numbers never make a request fail.
-/

namespace KnotAtlas

/-- Lifetimes that ages can be compared with. -/
structure Settings.Numeric (settings : Settings) : Prop where
  graph : settings.staticTtl.wrongKind? = none
  scans : settings.sourceTtl.wrongKind? = none
  story : settings.compiledTtl.wrongKind? = none

/-- What a story brings with it: links lead to its knots, and it has some. -/
structure CompiledStory.Sound {τ : Type} (story : CompiledStory τ) : Prop where
  inhabited : story.knots ≠ []
  closed : ∀ l ∈ story.graph.links, l.target ∈ story.knots

theorem CompiledStory.ofBuilt_sound {τ : Type} {source : Story.Source} {built : Story.Built}
    (hbuild : source.build.value = .ok built) (hfull : built.graph.isEmpty = false) (now : τ) :
    (ofBuilt now built).Sound where
  inhabited := by
    intro hnil
    rw [Graph.isEmpty] at hfull
    rw [show built.graph.knots = [] from hnil] at hfull
    cases hfull
  closed := fun _ hl => (Story.build_ends_known hbuild hl).2

namespace Atlas

variable {τ : Type} (a : Atlas τ) (story : CompiledStory τ)

/-- Holding a story changes nothing else. -/
theorem hold_eq : a.hold story =
    { a with compiled := if a.settings.compiledCache.isOn then some story else a.compiled } := by
  rw [hold]
  split
  · rfl
  · rfl

theorem compiled_hold : (a.hold story).compiled =
    if a.settings.compiledCache.isOn then some story else a.compiled := by
  rw [hold_eq]

@[simp] theorem settings_hold : (a.hold story).settings = a.settings := by
  rw [hold_eq]

@[simp] theorem layer_hold : (a.hold story).layer = a.layer := by
  rw [hold_eq]

@[simp] theorem sources_hold : (a.hold story).sources = a.sources := by
  rw [hold_eq]

end Atlas

namespace Session

/-- The parts of a session agree on the story that was accepted last. -/
structure Coherent (settings : Settings) (s : Session) : Prop where
  settings_eq : s.atlas.settings = settings
  sound : ∀ story, s.story = some story → story.Sound
  flows : ∀ story, s.story = some story →
    s.atlas.detector.flows = Atlas.flowsFor settings story.graph
  checked : ∀ kept since, s.atlas.layer.cached = some (kept, since) →
    ∃ story, s.story = some story ∧ kept.graph = story.graph
  held : ∀ compiled, s.atlas.compiled = some compiled →
    settings.compiledCache.isOn = true ∧ s.story = some compiled

/-- Every time that a session notes was read off the clock. -/
structure Stamped (readings : List Seconds) (s : Session) : Prop where
  checked : ∀ kept since, s.atlas.layer.cached = some (kept, since) → since ∈ readings
  held : ∀ compiled, s.atlas.compiled = some compiled → compiled.compiledAt ∈ readings
  scanned : ∀ entry ∈ s.atlas.sources.entries, entry.2.scannedAt ∈ readings

variable {ε σ : Type} [StoryEngine ε σ] {settings : Settings} {s t : Session} {now : Seconds}
  {readings noted : List Seconds}

theorem coherent_create : Coherent settings ⟨Atlas.create settings, none⟩ where
  settings_eq := rfl
  sound _ h := by cases h
  flows _ h := by cases h
  checked _ _ h := by cases h
  held _ h := by cases h

theorem stamped_create : Stamped [] ⟨Atlas.create settings, none⟩ where
  checked _ _ h := by cases h
  held _ h := by cases h
  scanned _ h := by cases h

/-- An accepted story takes the place of the old one everywhere. -/
theorem Coherent.accept (h : Coherent settings s) {source : Story.Source} {built : Story.Built}
    (hbuild : source.build.value = .ok built) (hfull : built.graph.isEmpty = false)
    (now later : Seconds) :
    Coherent settings
      ⟨(s.atlas.accept now later built).value.2, some (CompiledStory.ofBuilt now built)⟩ := by
  rw [Atlas.accept_value s.atlas now later hfull, h.settings_eq]
  refine ⟨(Atlas.settings_hold ..).trans h.settings_eq, ?_, ?_, ?_, ?_⟩
  · intro story hstory
    cases hstory
    exact CompiledStory.ofBuilt_sound hbuild hfull now
  · intro story hstory
    cases hstory
    rfl
  · intro kept since hcached
    cases hcached
    exact ⟨_, rfl, rfl⟩
  · intro compiled hcompiled
    change (s.atlas.hold _).compiled = some compiled at hcompiled
    rw [Atlas.compiled_hold, h.settings_eq] at hcompiled
    split at hcompiled
    · rename_i hon
      cases hcompiled
      exact ⟨hon, rfl⟩
    -- Compiled stories are not kept, so none was held before either.
    · rename_i hoff
      exact absurd (h.held compiled hcompiled).1 hoff

theorem Coherent.change (h : Coherent settings s) (hchange : Change s readings t) :
    Coherent settings t := by
  cases hchange with
  | idle => exact h
  | scanned c _ => exact ⟨h.settings_eq, h.sound, h.flows, h.checked, h.held⟩
  | noticed last trail => exact ⟨h.settings_eq, h.sound, h.flows, h.checked, h.held⟩
  | cleared =>
      exact ⟨h.settings_eq, h.sound, h.flows, fun _ _ hnone => (by cases hnone),
        fun _ hnone => (by cases hnone)⟩
  | accepted now later _ _ source built hbuild hfull => exact h.accept hbuild hfull now later

theorem Stamped.mono (h : Stamped readings s) {all : List Seconds} (hall : readings ⊆ all) :
    Stamped all s where
  checked kept since hcached := hall (h.checked kept since hcached)
  held compiled hcompiled := hall (h.held compiled hcompiled)
  scanned entry hentry := hall (h.scanned entry hentry)

theorem Stamped.change (h : Stamped readings s) (hchange : Change s noted t) :
    Stamped (noted ++ readings) t := by
  have hold : Stamped (noted ++ readings) s := h.mono (List.subset_append_right noted readings)
  have hnew : noted ⊆ noted ++ readings := List.subset_append_left noted readings
  cases hchange with
  | idle => exact hold
  | noticed last trail => exact ⟨hold.checked, hold.held, hold.scanned⟩
  | scanned c hc =>
      refine ⟨hold.checked, hold.held, fun entry hentry => ?_⟩
      obtain hbefore | hnow := hc entry hentry
      · exact hold.scanned entry hbefore
      · exact hnew hnow
  | cleared => exact ⟨fun _ _ h => (by cases h), fun _ h => (by cases h), fun _ h => (by cases h)⟩
  | accepted now later hnow hlater source built hbuild hfull =>
      rw [Atlas.accept_value s.atlas now later hfull]
      refine ⟨?_, ?_, ?_⟩
      · intro kept since hcached
        cases hcached
        exact hnew hlater
      · intro compiled hcompiled
        change (s.atlas.hold _).compiled = some compiled at hcompiled
        rw [Atlas.compiled_hold] at hcompiled
        split at hcompiled
        · cases hcompiled
          exact hnew hnow
        · exact hold.held compiled hcompiled
      · intro entry hentry
        exact hold.scanned entry (Atlas.sources_hold s.atlas _ ▸ hentry)

theorem Reached.coherent (h : Reached ε settings readings s) : Coherent settings s := by
  induction h with
  | start => exact coherent_create
  | step now request _ ih => exact ih.change (step_change _ now request)

theorem Reached.stamped (h : Reached ε settings readings s) : Stamped readings s := by
  induction h with
  | start => exact stamped_create
  | step now request _ ih => exact ih.change (step_change _ now request)

/-! ### Lifetimes that are numbers never get in the way. -/

section Faults

variable (hstamped : Stamped readings s) (hnow : ∀ since ∈ readings, now.agree since = true)
include hstamped hnow

theorem Stamped.checkFault?_eq_none (hnumeric : s.atlas.settings.Numeric) :
    s.atlas.layer.checkFault? s.atlas.wrongStatic? now = none := by
  rw [Validated.checkFault?, Validated.graphFault?, Atlas.wrongStatic?, hnumeric.graph]
  split
  · refine Option.bind_eq_none_iff.mpr fun (kept, since) hcached => ?_
    exact ageFault?_of_agree (hnow since (hstamped.checked kept since hcached)) _
  · rfl

theorem Stamped.storyMisfit?_eq_none (hnumeric : s.atlas.settings.Numeric) :
    s.atlas.storyMisfit? now = none := by
  rw [Atlas.storyMisfit?, hnumeric.story]
  refine Option.bind_eq_none_iff.mpr fun compiled hcompiled => ?_
  rw [ageFault?_of_agree (hnow _ (hstamped.held compiled hcompiled)) _]
  rfl

theorem Stamped.scansMisfit?_eq_none (hnumeric : s.atlas.settings.Numeric) :
    s.atlas.scansMisfit? now = none := by
  have hscan : ∀ path, s.atlas.sources.scanFault? none now path = none := by
    intro path
    rw [Source.Cache.scanFault?]
    split
    · refine Option.bind_eq_none_iff.mpr fun scan hscan => ?_
      have hentry := OrderedMap.mem_of_find? hscan
      exact ageFault?_of_agree (hnow _ (hstamped.scanned (path, scan) hentry)) _
    · rfl
  rw [Atlas.scansMisfit?, hnumeric.scans, Source.Cache.fault?]
  rw [List.findSome?_eq_none_iff.mpr fun entry _ => hscan entry.1]
  rfl

theorem Stamped.misfits_eq_none (hnumeric : s.atlas.settings.Numeric) :
    (s.atlas.knotsMisfit? now).or (s.atlas.infoMisfit? now) = none := by
  have hstory := hstamped.storyMisfit?_eq_none hnow hnumeric
  have hscans := hstamped.scansMisfit?_eq_none hnow hnumeric
  rw [Atlas.knotsMisfit?, Atlas.infoMisfit?, hstory, hscans, ite_self]
  rfl

end Faults

end Session
end KnotAtlas
