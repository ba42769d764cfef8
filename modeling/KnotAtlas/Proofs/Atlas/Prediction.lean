import KnotAtlas.Proofs.Atlas.Coherence

/-!
Where a choice leads, as far as the accepted story says. The links of a knot decide over every other
flow; a choice that no link stands for leads where the first link does, and a knot without links or
flows is not left.
-/

namespace KnotAtlas

/-- The flow that the links of a graph give for a knot. -/
def Graph.flow? (g : Graph) (knot : String) : Option Flow :=
  (targetsOf g.links knot).head?.map fun first => ⟨targetsOf g.links knot, some first⟩

/-- The flow that the settings give for a knot. -/
def Settings.flow? (settings : Settings) (knot : String) : Option Flow :=
  OrderedMap.find? (OrderedMap.update [] settings.flows.flows) knot

/-- The flow that the sample gives for a knot, if it is in use. -/
def Settings.sampleFlow? (settings : Settings) (knot : String) : Option Flow :=
  if settings.useSample.isOn then FlowMap.sample.find? knot else none

namespace Atlas

variable {ε σ : Type} [StoryEngine ε σ]

section Flows

variable (settings : Settings) (g : Graph) (knot : String)

theorem find?_sample :
    OrderedMap.find? (if settings.useSample.isOn then FlowMap.sample else []) knot =
      settings.sampleFlow? knot := by
  rw [Settings.sampleFlow?]
  split
  · rfl
  · rfl

theorem find?_flowsFor :
    (flowsFor settings g).find? knot =
      (g.flow? knot).or ((settings.flow? knot).or (settings.sampleFlow? knot)) := by
  rw [flowsFor, OrderedMap.find?_update _ _ (FlowMap.nodup_keys_ofLinks g.links),
    FlowMap.find?_ofLinks, OrderedMap.find?_update_or, find?_sample]
  rfl

theorem find?_flowsFor_linked (h : targetsOf g.links knot ≠ []) :
    (flowsFor settings g).find? knot =
      some ⟨targetsOf g.links knot, (targetsOf g.links knot).head?⟩ := by
  rw [find?_flowsFor, Graph.flow?]
  cases htargets : targetsOf g.links knot with
  | nil => exact absurd htargets h
  | cons first rest => rfl

theorem find?_flowsFor_unlinked (h : targetsOf g.links knot = [])
    (hflows : settings.flows.flows.find? knot = none)
    (hsample : settings.useSample.isOn = true → FlowMap.sample.find? knot = none) :
    (flowsFor settings g).find? knot = none := by
  have hlinks : g.flow? knot = none := by
    rw [Graph.flow?, h]
    rfl
  have hown : settings.flow? knot = none := OrderedMap.find?_update_of_none [] hflows
  rw [find?_flowsFor, hlinks, hown, Option.none_or, Option.none_or, Settings.sampleFlow?]
  split
  · rename_i hon
    exact hsample hon
  · rfl

end Flows

theorem tryLayerChoice_value (a : Atlas Seconds) (now : Seconds) (e : ε) (knot : String)
    (index : Int) (verified : Bool) :
    (a.tryLayerChoice now e knot index verified).value =
      let out := (a.layer.afterChoice now e knot index verified).value
      match a.layer.checkFault? a.wrongStatic? now with
      | some f => (.error (.age f), a)
      | none => (.ok (out.1, out.2.2), a.withLayer out.2.1) := by
  rw [tryLayerChoice, Logged.value_bind, Validated.tryAfterChoice]
  cases a.layer.checkFault? a.wrongStatic? now with
  | some f => rfl
  | none => rfl

/-- Unless a setting does not fit, a prediction is the layer's, with what is known of the knot. -/
theorem tryAfterChoice_result (a : Atlas Seconds) (now : Seconds) (e : ε) (knot : String)
    (index : Int) (verified : Bool) :
    (a.tryAfterChoice now e knot index verified).value.1 =
      let out := (a.layer.afterChoice now e knot index verified).value
      unlessFault
        (((a.layer.checkFault? a.wrongStatic? now).map .age).or
          ((a.knotsMisfit? now).or (a.infoMisfit? now)))
        (a.knotInfo now out.1, out.2.2) := by
  have hatlas : ∃ last, a.withLayer (a.layer.afterChoice now e knot index verified).value.2.1 =
      a.recalling last :=
    ⟨_, congrArg a.withLayer (a.layer.afterChoice_layer now e knot index verified)⟩
  obtain ⟨last, hatlas⟩ := hatlas
  rw [tryAfterChoice_value, tryLayerChoice_value]
  cases a.layer.checkFault? a.wrongStatic? now with
  | some f => rfl
  | none =>
      dsimp only
      rw [hatlas, misfits_recalling]
      cases (a.knotsMisfit? now).or (a.infoMisfit? now) with
      | some m => rfl
      | none => rfl

end Atlas

/-- A flow whose first choice is the default leads somewhere for every index. -/
theorem Flow.exists_targetFor? {targets : List String} (h : targets ≠ []) (index : Int) :
    ∃ target ∈ targets, (⟨targets, targets.head?⟩ : Flow).targetFor? index = some target := by
  rw [targetFor?]
  split
  · rename_i hrange
    have hlt : index.toNat < targets.length := by
      have hhigh : index < targets.length := hrange.2
      omega
    exact ⟨targets[index.toNat], List.getElem_mem hlt, List.getElem?_eq_getElem hlt⟩
  · exact ⟨targets.head h, List.head_mem h, List.head?_eq_some_head h⟩

namespace Session

variable {ε σ : Type} [StoryEngine ε σ] {settings : Settings} {s : Session}
  {story : CompiledStory Seconds} {readings : List Seconds} {knot : String}

/-- What the flows say of a knot of the story stands, if it is a knot of the story. -/
theorem Coherent.afterChoice_name (h : Coherent settings s) (hstory : s.story = some story)
    (hknot : knot ∈ story.knots) {index : Int}
    (hnamed : (s.atlas.detector.mapped? knot index).getD knot ∈ story.knots) (now : Seconds)
    (e : ε) :
    (s.atlas.layer.afterChoice now e knot index false).value.1 =
      (s.atlas.detector.mapped? knot index).getD knot := by
  cases hcheck : s.atlas.layer.checking? now with
  | none =>
      rw [Validated.afterChoice_name, hcheck, Validated.foretold,
        Validated.standing_unchecked hcheck]
      exact Detector.afterChoice_unverified ..
  | some kept =>
      obtain ⟨since, hcached⟩ := Validated.checking?_eq_some hcheck
      obtain ⟨checked, hsome, hgraph⟩ := h.checked kept since hcached
      rw [hstory] at hsome
      cases hsome
      have hin : ∀ name ∈ story.knots, name ∈ kept.graph.knots := fun _ hname => hgraph ▸ hname
      rw [Validated.afterChoice_checked hcheck, Validated.foretold,
        Validated.standing_checked hcheck, if_pos (hin knot hknot),
        Detector.afterChoice_unverified]
      exact if_pos (hin _ hnamed)

theorem Coherent.mapped?_linked (h : Coherent settings s) (hstory : s.story = some story)
    (hlinked : targetsOf story.graph.links knot ≠ []) (index : Int) :
    s.atlas.detector.mapped? knot index =
      (⟨targetsOf story.graph.links knot, (targetsOf story.graph.links knot).head?⟩ :
        Flow).targetFor? index := by
  rw [Detector.mapped?, h.flows story hstory, Atlas.find?_flowsFor_linked settings _ knot hlinked]
  rfl

/-- A knot with links is left for the target of the chosen one, or else of the first. -/
theorem Coherent.afterChoice_linked (h : Coherent settings s) (hstory : s.story = some story)
    (hknot : knot ∈ story.knots) (hlinked : targetsOf story.graph.links knot ≠ []) (now : Seconds)
    (e : ε) (index : Int) :
    some (s.atlas.layer.afterChoice now e knot index false).value.1 =
      (⟨targetsOf story.graph.links knot, (targetsOf story.graph.links knot).head?⟩ :
        Flow).targetFor? index := by
  have hmapped := h.mapped?_linked hstory hlinked index
  obtain ⟨target, htarget, hleads⟩ := Flow.exists_targetFor? hlinked index
  rw [hleads] at hmapped
  have hnamed : (s.atlas.detector.mapped? knot index).getD knot = target := by
    rw [hmapped]
    rfl
  obtain ⟨l, hl, -, rfl⟩ := mem_targetsOf.mp htarget
  have hclosed := (h.sound story hstory).closed l hl
  rw [h.afterChoice_name hstory hknot (hnamed ▸ hclosed), hnamed, hleads]

theorem Coherent.afterChoice_unlinked (h : Coherent settings s) (hstory : s.story = some story)
    (hknot : knot ∈ story.knots) (hlinked : targetsOf story.graph.links knot = [])
    (hflows : settings.flows.flows.find? knot = none)
    (hsample : settings.useSample.isOn = true → FlowMap.sample.find? knot = none) (now : Seconds)
    (e : ε) (index : Int) : (s.atlas.layer.afterChoice now e knot index false).value.1 = knot := by
  have hnone : s.atlas.detector.mapped? knot index = none := by
    rw [Detector.mapped?, h.flows story hstory,
      Atlas.find?_flowsFor_unlinked settings _ knot hlinked hflows hsample]
    rfl
  have hnamed : (s.atlas.detector.mapped? knot index).getD knot = knot := by
    rw [hnone]
    rfl
  rw [h.afterChoice_name hstory hknot (hnamed.symm ▸ hknot), hnamed]

/-- Wherever a session has led, predictions go by the links of the story that was accepted last, as
long as lifetimes are numbers. Flows of the settings count only for knots without links. -/
theorem prediction_by_links (h : Reached ε settings readings s) (hstory : s.story = some story)
    (hknot : knot ∈ story.knots) (now : Seconds) (e : ε) (index : Int) :
    let targets := targetsOf story.graph.links knot
    let out := (s.atlas.tryAfterChoice now e knot index false).value.1
    (settings.Numeric → (∀ since ∈ readings, now.agree since = true) →
      ∃ info, out = .ok (info, e)) ∧
    ∀ info after, out = .ok (info, after) →
      (0 ≤ index → index < targets.length → targets[index.toNat]? = some info.name) ∧
      (∀ first, targets.head? = some first → ¬(0 ≤ index ∧ index < targets.length) →
        info.name = first) ∧
      (targets = [] → settings.flows.flows.find? knot = none →
        (settings.useSample.isOn = true → FlowMap.sample.find? knot = none) →
        info.name = knot) := by
  intro targets out
  have hcoherent := h.coherent
  have hout : out = _ := s.atlas.tryAfterChoice_result now e knot index false
  refine ⟨?_, ?_⟩
  · intro hnumeric hnow
    have hfits : s.atlas.settings.Numeric := hcoherent.settings_eq ▸ hnumeric
    rw [hout, h.stamped.checkFault?_eq_none hnow hfits, h.stamped.misfits_eq_none hnow hfits]
    have hengine := s.atlas.layer.afterChoice_engine now e knot index
    exact ⟨_, congrArg (fun after => Except.ok (_, after)) hengine⟩
  · intro info after hok
    rw [hout] at hok
    have hname : info.name = (s.atlas.layer.afterChoice now e knot index false).value.1 :=
      congrArg (·.1.name) (unlessFault_eq_ok hok).2
    have hlinked : targets ≠ [] →
        some info.name = (⟨targets, targets.head?⟩ : Flow).targetFor? index := by
      intro hne
      rw [hname]
      exact hcoherent.afterChoice_linked hstory hknot hne now e index
    refine ⟨?_, ?_, ?_⟩
    · intro hlow hhigh
      have hne : targets ≠ [] := by
        rintro hnil
        rw [hnil] at hhigh
        exact absurd hhigh (Int.not_lt.mpr hlow)
      rw [hlinked hne]
      exact (if_pos ⟨hlow, hhigh⟩).symm
    · intro first hfirst hrange
      have hne : targets ≠ [] := by
        rintro hnil
        rw [hnil] at hfirst
        cases hfirst
      have hleads := hlinked hne
      rw [Flow.targetFor?, if_neg hrange, hfirst] at hleads
      exact Option.some.inj hleads
    · intro hnil hflows hsample
      rw [hname]
      exact hcoherent.afterChoice_unlinked hstory hknot hnil hflows hsample now e index

/-- A graph whose first knot leads to its second. -/
def pair : Graph :=
  ⟨["A", "B"], [⟨"A", "B", "on", false⟩]⟩

/-- The story of that graph. -/
def pairStory : Value :=
  .object [("root", .list [.object
    [("A", .list [.str "^on", .object [("->", .str "B")]]), ("B", .list [.str "^end"])]])]

/-- Settings with lifetimes in whole seconds and another way out of the first knot. -/
def detour : Settings :=
  { staticTtl := .verbatim (.int 300)
    sourceTtl := .verbatim (.int 300)
    compiledTtl := .verbatim (.int 600)
    flows := .own [("A", ⟨["elsewhere"], some "elsewhere"⟩)] }

/-- The story is accepted, another one refused, and the caches are cleared. -/
def pairRequests : List (Seconds × Atlas.Request Engine) :=
  [(.whole 10, .setStory (.decoded pairStory) (.whole 11)),
    (.whole 20, .setStory (.decoded (.object [])) (.whole 21)), (.whole 30, .clear)]

/-- The session that these requests lead to. -/
def pairSession : Session :=
  (⟨Atlas.create detour, none⟩ : Session).run pairRequests

theorem pair_prediction :
    ∃ story info, pairSession.story = some story ∧ story.graph = pair ∧ detour.Numeric ∧
      (pairSession.atlas.tryAfterChoice (.whole 40) (Validated.engineAt "A") "A" (-1)
        false).value.1 = .ok (info, Validated.engineAt "A") ∧
      info.name = "B" := by
  have hstory : pairSession.story.map (·.graph) = some pair := by decide +kernel
  obtain ⟨story, hstory, hgraph⟩ := Option.map_eq_some_iff.mp hstory
  have hreached : Reached Engine detour
      [.whole 30, .whole 20, .whole 21, .whole 10, .whole 11] pairSession :=
    Reached.start.run pairRequests
  have hknot : "A" ∈ story.knots := by
    rw [CompiledStory.knots, hgraph]
    exact .head _
  have hnumeric : detour.Numeric := ⟨rfl, rfl, rfl⟩
  obtain ⟨hgives, hleads⟩ :=
    prediction_by_links hreached hstory hknot (.whole 40) (Validated.engineAt "A") (-1)
  obtain ⟨info, hinfo⟩ := hgives hnumeric (by simp [Seconds.agree])
  refine ⟨story, info, hstory, hgraph, hnumeric, hinfo, ?_⟩
  refine (hleads info _ hinfo).2.1 "B" ?_ (fun hrange => absurd hrange.1 (by decide))
  rw [hgraph]
  rfl

end Session
end KnotAtlas
