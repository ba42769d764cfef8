import KnotAtlas.Detect.Detector
import KnotAtlas.Proofs.Engine.Scripted

/-!
Verifying a prediction never leaves the engine advanced. Looking ahead is a speculative step around
a body that only reads, so the calls that a verification makes are those of one speculative step, or
none if the engine does not say that there is more to tell.
-/

namespace KnotAtlas

open Attribute (Fault)
open StoryEngine (Dependable Exchange Guarded Watched speculate speculateCalls unwatched watched)

namespace Detector

variable {ε σ κ : Type} [StoryEngine ε σ]

/-- The calls that verifying makes. -/
def confirmCalls (d : Detector) (e : ε) : List (Exchange σ) :=
  match StoryEngine.canContinue e with
  | .ok true => speculateCalls e d.look
  | .ok false | .error _ => []

/-- A knot with a detector and an engine, where the engine has a record. -/
def answered (log : List (Exchange σ)) (out : String × Detector × ε) :
    String × Detector × Watched ε σ :=
  (out.1, watched log out.2)

theorem look_watched (d : Detector) (w : Watched ε σ) : d.look w = unwatched d.look w := by
  apply Logged.ext
  · rfl
  · simp only [look, unwatched, Logged.events_map]
    rfl

theorem lookAhead_watched (d : Detector) (w : Watched ε σ) :
    d.lookAhead w = watched (w.log ++ speculateCalls w.engine d.look) <$> d.lookAhead w.engine := by
  have hlook : (d.look : Watched ε σ → _) = unwatched d.look := funext d.look_watched
  simp only [lookAhead]
  rw [hlook, StoryEngine.speculate_watched]

theorem verify_watched (d : Detector) (w : Watched ε σ) (predicted : String) :
    d.verify w predicted =
      answered (w.log ++ speculateCalls w.engine d.look) <$> d.verify w.engine predicted := by
  simp only [verify]
  rw [lookAhead_watched, bind_map_left, map_bind]
  congr 1
  funext out
  obtain ⟨detected, e⟩ := out
  rcases detected with fault | (- | knot)
  · rfl
  · simp only [watched, map_bind, map_pure]
    rfl
  · dsimp only [watched]
    split
    · simp only [map_bind, map_pure]
      rfl
    · simp only [map_bind, map_pure]
      rfl

theorem confirm_watched (d : Detector) (w : Watched ε σ) (predicted : String) :
    d.confirm w predicted =
      answered (w.log ++ d.confirmCalls w.engine) <$> d.confirm w.engine predicted := by
  have hread : StoryEngine.canContinue w = StoryEngine.canContinue w.engine := rfl
  simp only [confirm, confirmCalls]
  rw [hread]
  cases StoryEngine.canContinue w.engine with
  | error f =>
      rw [List.append_nil]
      rfl
  | ok more =>
      cases more with
      | true => exact d.verify_watched w predicted
      | false =>
          rw [List.append_nil]
          rfl

theorem verify_engine (d : Detector) (e : ε) (predicted : String) :
    (d.verify e predicted).value.2.2 = (d.lookAhead e).value.2 := by
  rw [verify]
  rw [Logged.value_bind]
  obtain ⟨detected, after⟩ := (d.lookAhead e).value
  rcases detected with fault | (- | knot)
  · rfl
  · rfl
  · dsimp only
    split
    · rfl
    · rfl

variable {possible : ε → Prop} {view : ε → κ}

theorem guarded_confirm (contract : Dependable possible view) {e : ε} (he : possible e)
    (d : Detector) (predicted : String) :
    Guarded view e (d.confirm e predicted).value.2.2 (d.confirmCalls e) := by
  rw [confirm, confirmCalls]
  cases StoryEngine.canContinue e with
  | error f => exact StoryEngine.guarded_idle rfl
  | ok more =>
      cases more with
      | false => exact StoryEngine.guarded_idle rfl
      | true =>
          dsimp only
          rw [verify_engine]
          exact StoryEngine.guarded_speculate contract he d.look fun _ h => h

/-- A detector that remembers what it predicts. -/
def expecting (d : Detector) (knot : String) (index : Int) : Detector :=
  (d.remember (d.predict knot index).value).value

/-- A verification never leaves the engine advanced, and neither does a speculative step around any
body. Both are run on a watched engine; the last clause of each part says that this is the run on
the engine itself. -/
theorem verification_guarded (contract : Dependable possible view) {e : ε} (he : possible e) :
    (∀ (d : Detector) (knot : String) (index : Int),
      let run := d.afterChoice (⟨e, []⟩ : Watched ε σ) knot index true
      Guarded view e run.value.2.2.engine run.value.2.2.log ∧
        (fun out => (out.1, out.2.1, out.2.2.engine)) <$> run = d.afterChoice e knot index true) ∧
    (∀ (α : Type) (body : ε → Logged (Except Fault α × ε)),
      (∀ e, possible e → possible (body e).value.2) →
      let run := speculate (⟨e, []⟩ : Watched ε σ) (unwatched body)
      Guarded view e run.value.2.engine run.value.2.log ∧
        (fun out => (out.1, out.2.engine)) <$> run = speculate e body) := by
  constructor
  · intro d knot index run
    have hvalue : run.value = answered ((d.expecting knot index).confirmCalls e)
        ((d.expecting knot index).confirm e (d.predict knot index).value).value :=
      congrArg Logged.value ((d.expecting knot index).confirm_watched ⟨e, []⟩ _)
    refine ⟨?_, Logged.ext ?_ ?_⟩
    · rw [hvalue]
      exact guarded_confirm contract he _ _
    · rw [Logged.value_map, hvalue]
      rfl
    · rw [Logged.events_map]
      simp only [run, afterChoice, Logged.events_bind, if_true, confirm_watched,
        Logged.events_map]
  · intro α body hbody run
    have hrun : run = watched (speculateCalls e body) <$> speculate e body :=
      StoryEngine.speculate_watched ⟨e, []⟩ body
    rw [hrun]
    refine ⟨StoryEngine.guarded_speculate contract he body hbody, ?_⟩
    rw [← comp_map]
    exact id_map (speculate e body)

/-- The state of a story that is at a knot. -/
def stateAt (knot : String) : Attribute.Members :=
  [("currentPathString", .scalar (.str knot))]

/-- An engine in a cave whose step fails after it has moved on to the forest. -/
def stumbling : Engine :=
  .object
    { members := [("canContinue", .scalar (.bool true))]
      live := some (stateAt "cave")
      methods := { advance := fun _ => stateAt "forest", stepFails := some "out of content" } }

theorem stumbling_complete : stumbling.Complete := ⟨rfl, rfl, rfl⟩

theorem stumbling_guarded :
    let run := ({} : Detector).afterChoice (⟨stumbling, []⟩ : Watched Engine Engine.Snapshot)
      "cave" 0 true
    run.value.2.2.log =
        [.save (.ok (.taken (stateAt "cave"))), .step (.error (.raised "out of content")),
          .load (.taken (stateAt "cave")) (.ok ())] ∧
      run.value.2.2.engine.live? = some (stateAt "cave") := by
  obtain ⟨hverify, -⟩ := verification_guarded Engine.dependable stumbling_complete
  obtain ⟨hguarded, -⟩ := hverify {} "cave" 0
  intro run
  have hlog : run.value.2.2.log =
      [.save (.ok (.taken (stateAt "cave"))), .step (.error (.raised "out of content")),
        .load (.taken (stateAt "cave")) (.ok ())] := by
    rfl
  refine ⟨hlog, hguarded.unmoved fun saved hmem => ?_⟩
  replace hmem : .save (.ok saved) ∈ run.value.2.2.log := hmem
  have hsaved : saved = .taken (stateAt "cave") := by
    simpa [hlog] using hmem
  change _ ∈ run.value.2.2.log
  rw [hlog, hsaved]
  exact .tail _ (.tail _ (.head _))

end Detector
end KnotAtlas
