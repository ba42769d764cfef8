import KnotAtlas.Proofs.Detect.Order
import KnotAtlas.Proofs.Detect.Verification

/-!
How a prediction ends. It stands unless a verification goes all the way: the engine can go on, its
state is saved, the step is made and the signals name a knot after it. Then that knot is the answer,
whatever comes of the restoration. A fault on the way leaves the prediction as it was. However it
ends, the answer is what is remembered, if it can belong to a knot.
-/

namespace KnotAtlas

open Detect (isKnotName)

/-- How an engine that can go on is stepped: the snapshot that is taken before the step, the engine
after it, and the knot that its signals name then. -/
structure StoryEngine.StepsTo {ε σ : Type} [StoryEngine ε σ] (e : ε) (saved : σ) (after : ε)
    (found : String) : Prop where
  more : canContinue e = .ok true
  stepped : ∃ before, save e = (.ok saved, before) ∧ step before = (.ok (), after)
  named : (signal after).value.names.find? isKnotName = some found

namespace Detector

open StoryEngine (StepsTo)

variable {ε σ : Type} [StoryEngine ε σ] {e after : ε} {saved : σ} {found : String}

theorem lookAhead_of_stepsTo (h : StepsTo e saved after found) (d : Detector) :
    (d.lookAhead e).value = (.ok (some found), (StoryEngine.load after saved).2) := by
  obtain ⟨-, ⟨before, hsave, hstep⟩, hnamed⟩ := h
  rw [← Detect.seen?_eq_find?] at hnamed
  rw [lookAhead, StoryEngine.speculate, hsave]
  simp only [Logged.value_bind]
  rw [StoryEngine.stepThen, hstep]
  simp only [look, Logged.value_map, detect_value, hnamed]

theorem exists_stepsTo {d : Detector} (hmore : StoryEngine.canContinue e = .ok true)
    (h : (d.lookAhead e).value.1 = .ok (some found)) :
    ∃ saved after, StepsTo e saved after found := by
  obtain ⟨saved, before, after, hsave, hstep, hseen⟩ := seen?_of_lookAhead h
  rw [Detect.seen?_eq_find?] at hseen
  exact ⟨saved, after, hmore, ⟨before, hsave, hstep⟩, hseen⟩

/-- The name that a verification gives is the one that looking ahead found, if any. -/
theorem verify_name (d : Detector) (e : ε) (predicted : String) :
    (d.verify e predicted).value.1 = ((d.lookAhead e).value.1.toOption.join).getD predicted := by
  rw [verify, Logged.value_bind]
  obtain ⟨detected, after⟩ := (d.lookAhead e).value
  rcases detected with fault | (- | knot)
  · rfl
  · rfl
  · dsimp only
    split
    · rename_i hsame
      exact hsame.symm
    · rfl

theorem confirm_of_stepsTo (h : StepsTo e saved after found) (d : Detector) (predicted : String) :
    (d.confirm e predicted).value.1 = found ∧
      (d.confirm e predicted).value.2.2 = (StoryEngine.load after saved).2 := by
  rw [confirm, h.more]
  dsimp only
  rw [verify_name, verify_engine, lookAhead_of_stepsTo h]
  exact ⟨rfl, rfl⟩

theorem confirm_of_not_stepsTo (h : ∀ (saved : σ) (after : ε) found, ¬ StepsTo e saved after found)
    (d : Detector) (predicted : String) : (d.confirm e predicted).value.1 = predicted := by
  rw [confirm]
  split
  · rename_i hmore
    rw [verify_name]
    cases hlook : (d.lookAhead e).value.1 with
    | error fault => rfl
    | ok detected =>
        cases detected with
        | none => rfl
        | some found =>
            obtain ⟨saved, after, hsteps⟩ := exists_stepsTo hmore hlook
            exact absurd hsteps (h saved after found)
  · rfl
  · rfl

/-- Where a flow map says that a choice of a knot leads: to the choice that is written at the index,
or else to the default; a knot of which nothing is written is not left. -/
inductive Foretold (flows : FlowMap) (knot : String) (index : Int) : String → Prop where
  | unwritten (h : flows.find? knot = none) : Foretold flows knot index knot
  | chosen {flow : Flow} {target : String} (h : flows.find? knot = some flow) (hlow : 0 ≤ index)
      (hchosen : flow.choices[index.toNat]? = some target) : Foretold flows knot index target
  | past {flow : Flow} (h : flows.find? knot = some flow)
      (hpast : index < 0 ∨ flow.choices.length ≤ index) :
      Foretold flows knot index (flow.default?.getD knot)

theorem foretold_iff {d : Detector} {knot : String} {index : Int} {name : String} :
    Foretold d.flows knot index name ↔ (d.mapped? knot index).getD knot = name := by
  rw [mapped?]
  constructor
  · intro h
    cases h with
    | unwritten h =>
        rw [h]
        rfl
    | @chosen flow _ h hlow hchosen =>
        have hlength := (List.getElem?_eq_some_iff.mp hchosen).1
        have hrange : 0 ≤ index ∧ index < flow.choices.length := by omega
        rw [h, Option.bind_some, Flow.targetFor?, if_pos hrange, hchosen, Option.getD_some]
    | @past flow h hpast =>
        have hrange : ¬(0 ≤ index ∧ index < flow.choices.length) := by omega
        rw [h, Option.bind_some, Flow.targetFor?, if_neg hrange]
  · rintro rfl
    cases hflow : d.flows.find? knot with
    | none => exact .unwritten hflow
    | some flow =>
        rw [Option.bind_some, Flow.targetFor?]
        by_cases hrange : 0 ≤ index ∧ index < flow.choices.length
        · have hlength : index.toNat < flow.choices.length := by omega
          rw [if_pos hrange, List.getElem?_eq_getElem hlength, Option.getD_some]
          exact .chosen hflow hrange.1 (List.getElem?_eq_getElem hlength)
        · rw [if_neg hrange]
          exact .past hflow (by omega)

/-- A verified prediction is confirmed by a detector that has heard it. -/
theorem afterChoice_verified (d : Detector) (e : ε) (knot : String) (index : Int) :
    (d.afterChoice e knot index true).value =
      let predicted := (d.mapped? knot index).getD knot
      ((d.recalling (d.heard predicted)).confirm e predicted).value := by
  simp only [afterChoice, Logged.value_bind, predict_value, remember_value, if_true]

/-- A prediction is what the flow map foretells, unless verification was asked for and a step under
a snapshot leads to where the signals name a knot: then it is that knot, and the engine is as the
restoration leaves it, also if that failed. In every case the answer is remembered if it can belong
to a knot, and nothing else changes. -/
theorem afterChoice_outcome (d : Detector) (e : ε) (knot : String) (index : Int)
    (verified : Bool) :
    let out := (d.afterChoice e knot index verified).value
    (∀ (saved : σ) (after : ε) found, verified = true → StepsTo e saved after found →
      out.1 = found ∧ out.2.2 = (StoryEngine.load after saved).2) ∧
    ((verified = true → ∀ (saved : σ) (after : ε) found, ¬ StepsTo e saved after found) →
      ∀ name, Foretold d.flows knot index name ↔ out.1 = name) ∧
    out.2.1 = d.recalling (if isKnotName out.1 then some out.1 else d.lastKnown) := by
  intro out
  refine ⟨?_, ?_, d.afterChoice_memory e knot index verified⟩
  · rintro saved after found rfl hsteps
    simp only [out, afterChoice_verified]
    exact confirm_of_stepsTo hsteps _ _
  · intro hnone name
    suffices hout : out.1 = (d.mapped? knot index).getD knot by rw [hout, foretold_iff]
    cases verified with
    | false => exact d.afterChoice_unverified e knot index
    | true =>
        simp only [out, afterChoice_verified]
        exact confirm_of_not_stepsTo (hnone rfl) _ _

/-- An engine in a cave that moves on to the forest and cannot be put back. -/
def unrestorable : Engine :=
  .object
    { members := [("canContinue", .scalar (.bool true))]
      live := some (stateAt "cave")
      methods := { advance := fun _ => stateAt "forest", loadFails := some "disk full" } }

theorem unrestorable_outcome :
    ∃ saved after, StepsTo unrestorable saved after "forest" ∧
      (StoryEngine.load after saved).1 = .error (.raised "disk full") ∧
      let d : Detector := { flows := [("cave", ⟨["lake"], none⟩)], lastKnown := some "cave" }
      let out := (d.afterChoice unrestorable "cave" 0 true).value
      out.1 = "forest" ∧ out.2.1.lastKnown = some "forest" ∧
        out.2.2 = (StoryEngine.load after saved).2 ∧
        (d.afterChoice unrestorable "cave" 0 false).value.1 = "lake" := by
  have hsteps : StepsTo unrestorable (.taken (stateAt "cave"))
      (StoryEngine.step (StoryEngine.save unrestorable).2).2 "forest" :=
    ⟨rfl, ⟨_, rfl, rfl⟩, by decide⟩
  refine ⟨_, _, hsteps, rfl, ?_⟩
  intro d out
  obtain ⟨hleads, -, hmemory⟩ := afterChoice_outcome d unrestorable "cave" 0 true
  obtain ⟨hname, hengine⟩ := hleads _ _ "forest" rfl hsteps
  obtain ⟨-, hforetold, -⟩ := afterChoice_outcome d unrestorable "cave" 0 false
  refine ⟨hname, ?_, hengine, ?_⟩
  · rw [hmemory, hname]
    decide
  · exact (hforetold (fun h => by cases h) "lake").mp (.chosen rfl (by decide) rfl)

end Detector
end KnotAtlas
