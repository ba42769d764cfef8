import KnotAtlas.Proofs.Atlas.Prediction

/-!
Which knot an engine is said to be in. A name that no known knot has gives way to what the detector
remembers, and that is read after detection wrote to it. So the knot remembered before comes back
while detection is checked against the story; where it is not, what the signals name stands, known
or not.
-/

namespace KnotAtlas

open Detect (seen?)

namespace Atlas

variable {ε σ : Type} [StoryEngine ε σ] {a : Atlas Seconds} {now : Seconds}

theorem settle_value (hknown : a.allKnots now ≠ []) (name : String) :
    (a.settle now name).value =
      if name ∈ a.allKnots now then name else a.detector.lastKnown.getD name := by
  rw [settle]
  by_cases hmem : name ∈ a.allKnots now
  · simp only [hmem, decide_true, Bool.or_true, if_true]
    rfl
  · simp only [hmem, decide_false, Bool.or_false, List.isEmpty_iff, hknown, if_false]
    rfl

theorem tryDetect_value (hcheck : a.layer.checkFault? a.wrongStatic? now = none)
    (hfallback : a.settings.fallbackKnot.fallbackMisfit? = none) (e : ε) :
    (a.tryDetect now e).value =
      let named := (a.layer.currentKnot now e a.settings.fallbackKnot.name?).value
      (.ok named.1, a.withLayer named.2) := by
  have hlayer : (a.tryLayerKnot now e a.settings.fallbackKnot.name?).value =
      (.ok (a.layer.currentKnot now e a.settings.fallbackKnot.name?).value.1,
        a.withLayer (a.layer.currentKnot now e a.settings.fallbackKnot.name?).value.2) := by
    rw [tryLayerKnot, Logged.value_bind, Validated.tryCurrentKnot, hcheck]
    rfl
  rw [tryDetect, hcheck, hfallback]
  dsimp only
  split
  · rename_i hnone
    cases hnone
  · exact hlayer

/-- The name that detection gives, or else what is remembered after it. -/
theorem tryCurrentKnot_result (hcheck : a.layer.checkFault? a.wrongStatic? now = none)
    (hfallback : a.settings.fallbackKnot.fallbackMisfit? = none)
    (hfits : (a.knotsMisfit? now).or (a.infoMisfit? now) = none)
    (hknown : a.allKnots now ≠ []) (e : ε) :
    ∃ info, (a.tryCurrentKnot now e).value.1 = .ok info ∧
      info.name =
        let named := (a.layer.currentKnot now e a.settings.fallbackKnot.name?).value
        if named.1 ∈ a.allKnots now then named.1 else named.2.detector.lastKnown.getD named.1 := by
  obtain ⟨last, hlayer, -⟩ := a.layer.currentKnot_layer now e a.settings.fallbackKnot.name?
  rw [tryCurrentKnot_value, tryDetect_value hcheck hfallback]
  generalize (a.layer.currentKnot now e a.settings.fallbackKnot.name?).value = named at hlayer ⊢
  obtain ⟨name, layer⟩ := named
  have hatlas : a.withLayer layer = a.recalling last := congrArg a.withLayer hlayer
  dsimp only
  rw [hatlas, misfits_recalling, hfits]
  refine ⟨_, rfl, ?_⟩
  cases hlayer
  exact settle_value (a := a.recalling last) hknown name

theorem allKnots_of_freshStory? {story : CompiledStory Seconds}
    (h : a.freshStory? now = some story) : a.allKnots now = story.knots := by
  rw [allKnots, h]

end Atlas

namespace Session

variable {ε σ : Type} [StoryEngine ε σ] {settings : Settings} {s : Session} {now : Seconds}
  {readings : List Seconds}

/-- A graph that detection is checked against has the knots that are known, while the compiled
story is fresh. -/
theorem Coherent.knots_eq (h : Coherent settings s) {kept : Analysis}
    {compiled : CompiledStory Seconds} (hcheck : s.atlas.layer.checking? now = some kept)
    (hfresh : s.atlas.freshStory? now = some compiled) :
    kept.graph.knots = s.atlas.allKnots now ∧ kept.graph.knots ≠ [] := by
  obtain ⟨since, hcached⟩ := Validated.checking?_eq_some hcheck
  obtain ⟨story, hstory, hgraph⟩ := h.checked kept since hcached
  obtain ⟨hheld, -⟩ := Option.filter_eq_some_iff.mp hfresh
  cases hstory.symm.trans (h.held compiled hheld).2
  rw [Atlas.allKnots_of_freshStory? hfresh, hgraph]
  exact ⟨rfl, (h.sound compiled hstory).inhabited⟩

/-- What stands in for an unknown name is a given known one exactly if that is remembered. -/
theorem getD_eq_iff {known : List String} {last : String} (hlast : last ∈ known) (named : String)
    (after : Option String) :
    ((if named ∈ known then named else after.getD named) = if named ∈ known then named else last) ↔
      named ∈ known ∨ after = some last := by
  by_cases hmem : named ∈ known
  · rw [if_pos hmem, if_pos hmem]
    exact ⟨fun _ => .inl hmem, fun _ => rfl⟩
  · rw [if_neg hmem, if_neg hmem]
    cases after with
    | some other =>
        rw [Option.getD_some, Option.some_inj]
        exact ⟨.inr, fun h => h.resolve_left hmem⟩
    | none =>
        rw [Option.getD_none]
        refine ⟨fun hsame => absurd (hsame ▸ hlast) hmem, ?_⟩
        rintro (hin | hnone)
        · exact absurd hin hmem
        · cases hnone

/-- Signals overwrite the memory, so they must name a known knot, if any. -/
theorem seen_known_iff {known : List String} {last : String} (hlast : last ∈ known)
    (seen : Option String) (unseen : String) :
    (seen.getD unseen ∈ known ∨ seen.or (some last) = some last) ↔
      ∀ knot, seen = some knot → knot ∈ known := by
  cases seen with
  | none => exact ⟨fun _ knot hknot => (by cases hknot), fun _ => .inr rfl⟩
  | some named =>
      constructor
      · rintro (hin | hsame) knot hknot
        · cases hknot
          exact hin
        · cases hknot
          cases hsame
          exact hlast
      · exact fun hseen => .inl (hseen named rfl)

/-- The knot remembered before detection comes back for an unknown name exactly if detection leaves
it remembered. It does so while it is checked against the story; unchecked, it does so only if the
signals name no unknown knot. -/
theorem position_settled (h : Reached ε settings readings s) (hnumeric : settings.Numeric)
    (hfallback : settings.fallbackKnot.fallbackMisfit? = none)
    (hnow : ∀ since ∈ readings, now.agree since = true) {last : String}
    (hlast : s.atlas.detector.lastKnown = some last) (hknown : last ∈ s.atlas.allKnots now)
    (e : ε) :
    let known := s.atlas.allKnots now
    let named := (s.atlas.layer.currentKnot now e settings.fallbackKnot.name?).value
    ∃ info, (s.atlas.tryCurrentKnot now e).value.1 = .ok info ∧
      let settled := info.name = if named.1 ∈ known then named.1 else last
      (settled ↔ named.1 ∈ known ∨ named.2.detector.lastKnown = some last) ∧
      (s.atlas.layer.checking? now = none →
        (settled ↔ ∀ knot, seen? e = some knot → knot ∈ known)) ∧
      ((s.atlas.layer.checking? now).isSome → (s.atlas.freshStory? now).isSome → settled) := by
  intro known named
  have hcoherent := h.coherent
  have hfits : s.atlas.settings.Numeric := hcoherent.settings_eq ▸ hnumeric
  obtain ⟨info, hinfo, hname⟩ := Atlas.tryCurrentKnot_result
    (h.stamped.checkFault?_eq_none hnow hfits) (hcoherent.settings_eq ▸ hfallback)
    (h.stamped.misfits_eq_none hnow hfits) (List.ne_nil_of_mem hknown) e
  rw [hcoherent.settings_eq] at hname
  have hsettled : (info.name = if named.1 ∈ known then named.1 else last) ↔
      named.1 ∈ known ∨ named.2.detector.lastKnown = some last := by
    rw [hname]
    exact getD_eq_iff hknown named.1 named.2.detector.lastKnown
  refine ⟨info, hinfo, hsettled, ?_, ?_⟩
  · intro hcheck
    have hnamed : named = _ := Validated.currentKnot_unchecked hcheck e settings.fallbackKnot.name?
    rw [Detector.currentKnot_value, show s.atlas.layer.detector.lastKnown = _ from hlast] at hnamed
    rw [hsettled, hnamed]
    exact seen_known_iff hknown (seen? e) _
  · intro hcheck hfresh
    obtain ⟨kept, hcheck⟩ := Option.isSome_iff_exists.mp hcheck
    obtain ⟨compiled, hfresh⟩ := Option.isSome_iff_exists.mp hfresh
    obtain ⟨hknots, hinhabited⟩ := hcoherent.knots_eq hcheck hfresh
    have hmem := Validated.currentKnot_mem hcheck hinhabited e settings.fallbackKnot.name?
    rw [hknots] at hmem
    exact hsettled.mpr (.inl hmem)

/-- The story is accepted, and its first knot is visited. -/
def visit : List (Seconds × Atlas.Request Engine) :=
  [(.whole 10, .setStory (.decoded pairStory) (.whole 11)),
    (.whole 20, .currentKnot (Validated.engineAt "A"))]

/-- The session that these requests lead to. -/
def visited : Session :=
  (⟨Atlas.create detour, none⟩ : Session).run visit

theorem reached_visited : Reached Engine detour [.whole 20, .whole 10, .whole 11] visited :=
  Reached.start.run visit

/-- While both graphs are fresh, the visited knot comes back for a name that the story lacks. -/
theorem visited_settled :
    visited.atlas.detector.lastKnown = some "A" ∧
    visited.atlas.allKnots (.whole 50) = ["A", "B"] ∧
    ∃ info, (visited.atlas.tryCurrentKnot (.whole 50) (Validated.engineAt "renamed")).value.1 =
        .ok info ∧ info.name = "A" := by
  have hlast : visited.atlas.detector.lastKnown = some "A" := by decide +kernel
  have hknots : visited.atlas.allKnots (.whole 50) = ["A", "B"] := by decide +kernel
  have hnow : ∀ since ∈ [Seconds.whole 20, .whole 10, .whole 11],
      (Seconds.whole 50).agree since = true := by
    simp [Seconds.agree]
  obtain ⟨info, hinfo, -, -, hsettled⟩ := position_settled reached_visited ⟨rfl, rfl, rfl⟩ rfl hnow
    hlast (hknots ▸ .head _) (Validated.engineAt "renamed")
  refine ⟨hlast, hknots, info, hinfo, ?_⟩
  rw [hsettled (by decide +kernel) (by decide +kernel)]
  decide +kernel

/-- Once the graph that detection is checked against is stale, the name that the story lacks is
given, although a known knot was remembered. -/
theorem visited_unknown_position :
    Reached Engine detour [.whole 20, .whole 10, .whole 11] visited ∧
    visited.atlas.detector.lastKnown = some "A" ∧
    visited.atlas.allKnots (.whole 400) = ["A", "B"] ∧
    (visited.atlas.tryCurrentKnot (.whole 400)
      (Validated.engineAt "renamed")).value.1.toOption.map (·.name) = some "renamed" :=
  ⟨reached_visited, by decide +kernel, by decide +kernel, by decide +kernel⟩

end Session
end KnotAtlas
