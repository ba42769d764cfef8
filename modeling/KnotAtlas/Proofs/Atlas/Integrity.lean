import KnotAtlas.Atlas.Aged
import KnotAtlas.Integrity.Checks
import KnotAtlas.Proofs.Atlas.Coherence

/-!
What an atlas says of the integrity of its story. A story that was handed over is held and stays
fresh until its time is over, if compiled stories are kept; and while it is fresh, the report of the
atlas is that of the story, whatever else the atlas knows.
-/

namespace KnotAtlas

/-- The report of a story that was built. -/
def Integrity.ofBuilt (built : Story.Built) : Integrity.Report :=
  inspect built.graph.analyze built.diagnostics built.graph.knots

namespace Atlas

variable {a : Atlas Seconds} {now since : Seconds}

theorem freshStory?_hold {story : CompiledStory Seconds}
    (hkept : a.settings.compiledCache.isOn = true)
    (hfresh : ¬ a.compiledTtl ≤ now - story.compiledAt) :
    (a.hold story).freshStory? now = some story := by
  rw [freshStory?, Option.filter_eq_some_iff, compiled_hold, if_pos hkept, Bool.not_eq_true',
    decide_eq_false_iff_not, hold_eq]
  exact ⟨rfl, hfresh⟩

theorem freshStory?_accept (later : Seconds) {built : Story.Built}
    (hkept : a.settings.compiledCache.isOn = true) (hfresh : ¬ a.compiledTtl ≤ now - since)
    (hknots : built.graph.isEmpty = false) :
    (a.accept since later built).value.2.freshStory? now =
      some (CompiledStory.ofBuilt since built) := by
  rw [accept_value a since later hknots]
  exact freshStory?_hold hkept hfresh

/-- A story with knots that was handed over stays fresh until its time is over. -/
theorem freshStory?_afterStory (later : Seconds) {source : Story.Source} {built : Story.Built}
    (hbuilt : source.build.value = .ok built) (hknots : built.graph.isEmpty = false)
    (hkept : a.settings.compiledCache.isOn = true) (hfresh : ¬ a.compiledTtl ≤ now - since) :
    (a.afterStory since later source).freshStory? now =
      some (CompiledStory.ofBuilt since built) := by
  rw [afterStory, setStory_value, hbuilt]
  simp only [hknots, Bool.false_eq_true, if_false]
  exact freshStory?_accept later hkept hfresh hknots

theorem integrity_value {noted : Seconds} {built : Story.Built} {known : List String}
    (hnow : a.freshStory? now = some (CompiledStory.ofBuilt since built))
    (hnoted : a.freshStory? noted = some (CompiledStory.ofBuilt since built))
    (hknown : known = built.graph.knots) :
    (a.integrity now noted known).value = Integrity.ofBuilt built := by
  rw [integrity, structureReport?, diagnostics?, hnow, hnoted, hknown]
  rfl

theorem tryIntegrity_value {noted asked : Seconds} {built : Story.Built}
    (hfits : ∀ t ∈ [now, noted, asked], a.storyMisfit? t = none)
    (hfresh : ∀ t ∈ [now, noted, asked],
      a.freshStory? t = some (CompiledStory.ofBuilt since built)) :
    (a.tryIntegrity now noted asked).value = .ok (Integrity.ofBuilt built) := by
  simp only [List.forall_mem_cons] at hfits hfresh
  obtain ⟨hnow, hnoted, hasked, -⟩ := hfresh
  have hmisfit : a.integrityMisfit? now noted asked = none := by
    simp [integrityMisfit?, knotsMisfit?, hfits, hasked]
  have hknown : a.allKnots asked = built.graph.knots := by
    rw [allKnots, hasked]
    rfl
  rw [tryIntegrity, hmisfit]
  exact congrArg Except.ok (integrity_value hnow hnoted hknown)

end Atlas
end KnotAtlas
