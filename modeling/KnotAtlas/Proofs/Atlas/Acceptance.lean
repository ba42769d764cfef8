import KnotAtlas.Proofs.Atlas.Position

/-!
What handing over a story does to an atlas. A story that is accepted renews what is known of
stories, and nothing else; one that is refused, or fails, leaves all as it was.
-/

namespace KnotAtlas

namespace Atlas

variable (a : Atlas Seconds) (now later : Seconds)

/-- Accepting a graph leaves the memory of the detector, the scans and the trail. -/
theorem accept_frame {built : Story.Built} (h : built.graph.isEmpty = false) :
    let after := (a.accept now later built).value.2
    after.detector.lastKnown = a.detector.lastKnown ∧ after.sources = a.sources ∧
      after.trail = a.trail := by
  rw [accept_value a now later h, hold_eq]
  exact ⟨rfl, rfl, rfl⟩

/-- The story that is given back is the one that the source has knots for; if there is none, nothing
changes, and if there is one, the memory of the detector, the scans and the trail stay. -/
theorem story_all_or_nothing (source : Story.Source) :
    let after := a.afterStory now later source
    a.given? now later source = source.story? now ∧
    (a.given? now later source = none → after = a) ∧
    (∀ story, a.given? now later source = some story →
      after.detector.lastKnown = a.detector.lastKnown ∧ after.sources = a.sources ∧
        after.trail = a.trail) := by
  intro after
  refine ⟨a.given?_eq now later source, ?_⟩
  obtain ⟨hgiven, -, hafter⟩ | ⟨built, -, hfull, hgiven, -, hafter⟩ :=
    a.handed_cases now later source
  · have hsame : after = a := hafter
    rw [hgiven, hsame]
    exact ⟨fun _ => rfl, fun _ h => (by cases h)⟩
  · have haccepted : after = (a.accept now later built).value.2 := hafter
    rw [hgiven, haccepted]
    exact ⟨fun h => (by cases h), fun _ _ => a.accept_frame now later hfull⟩

end Atlas

namespace Session

/-- After a visit to the first knot, an empty document changes nothing, and the story that is handed
over once more leaves the knot remembered. -/
theorem visited_kept :
    visited.atlas.afterStory (.whole 30) (.whole 31) (.decoded (.object [])) = visited.atlas ∧
    (visited.atlas.afterStory (.whole 30) (.whole 31)
      (.decoded pairStory)).detector.lastKnown = some "A" := by
  obtain ⟨hnone, hsame, -⟩ :=
    visited.atlas.story_all_or_nothing (.whole 30) (.whole 31) (.decoded (.object []))
  obtain ⟨hsome, -, hframe⟩ :=
    visited.atlas.story_all_or_nothing (.whole 30) (.whole 31) (.decoded pairStory)
  have hgives : (Story.Source.story? (.decoded pairStory) (.whole 30)).isSome = true := by
    decide +kernel
  obtain ⟨story, hstory⟩ := Option.isSome_iff_exists.mp hgives
  refine ⟨hsame (hnone.trans rfl), ?_⟩
  rw [(hframe story (hsome.trans hstory)).1]
  decide +kernel

end Session
end KnotAtlas
