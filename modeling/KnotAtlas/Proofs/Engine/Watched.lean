import KnotAtlas.Engine.Speculation

/-!
Watched engines. A watched engine is an engine with a record of the calls made on it. It answers as
the engine itself does, so a run on it is the run on the engine, and the record tells which calls
that run made.
-/

namespace KnotAtlas.StoryEngine

open Attribute (Fault)

/-- A call that was made and how it was answered. -/
inductive Exchange (σ : Type) where
  | step (answer : Except Fault Unit)
  | save (answer : Except Fault σ)
  | load (saved : σ) (answer : Except Fault Unit)

/-- Whether a call was one to step. -/
def Exchange.isStep {σ : Type} : Exchange σ → Bool
  | .step _ => true
  | .save _ | .load _ _ => false

/-- An engine with the calls made on it so far. -/
structure Watched (ε σ : Type) where
  engine : ε
  log : List (Exchange σ) := []

variable {ε σ μ ν α : Type}

/-- What came of an engine, with a record. -/
def watched (log : List (Exchange σ)) (outcome : α × ε) : α × Watched ε σ :=
  (outcome.1, ⟨outcome.2, log⟩)

/-- Adds a call to the record. -/
def Watched.hear (w : Watched ε σ) (exchange : Except Fault α → Exchange σ)
    (outcome : Except Fault α × ε) : Except Fault α × Watched ε σ :=
  watched (w.log ++ [exchange outcome.1]) outcome

instance [StoryEngine ε σ] : StoryEngine (Watched ε σ) σ where
  attributes w := attributes w.engine
  kind w := kind w.engine
  stateKind w := stateKind w.engine
  stepMethod w name := (stepMethod w.engine name).map (·.map (w.hear .step))
  saveMethod w name := (saveMethod w.engine name).map (·.map (w.hear .save))
  loadMethod w name :=
    (loadMethod w.engine name).map (·.map fun call saved => w.hear (.load saved) (call saved))

/-- The record of one call; nothing if there was no method to call. -/
def noted (exchange : Except Fault α → Exchange σ)
    (call : Except Fault (Except Fault α × ε)) : List (Exchange σ) :=
  match call with
  | .ok outcome => [exchange outcome.1]
  | .error _ => []

/-- A body that is not watched. -/
def unwatched (body : ε → Logged (Except Fault α × ε)) (w : Watched ε σ) :
    Logged (Except Fault α × Watched ε σ) :=
  watched w.log <$> body w.engine

theorem findMethod_map (g : μ → ν) (find : String → Except Fault (Option μ))
    (names : List String) :
    findMethod (fun name => (find name).map (·.map g)) names =
      (findMethod find names).map (·.map g) := by
  induction names with
  | nil => rfl
  | cons name rest ih =>
      simp only [findMethod]
      cases find name with
      | error f => rfl
      | ok found =>
          cases found with
          | none => exact ih
          | some m => rfl

theorem method_map (g : μ → ν) (kind : String) (names : List String)
    (find : String → Except Fault (Option μ)) :
    method kind names (fun name => (find name).map (·.map g)) =
      (method kind names find).map g := by
  simp only [method]
  rw [findMethod_map]
  cases findMethod find names with
  | error f => rfl
  | ok found =>
      cases found with
      | none => rfl
      | some m => rfl

theorem calling_hear (w : Watched ε σ) (exchange : Except Fault α → Exchange σ)
    (call : Except Fault (Except Fault α × ε)) :
    calling w (call.map (w.hear exchange)) =
      watched (w.log ++ noted exchange call) (calling w.engine call) := by
  cases call with
  | ok outcome => rfl
  | error f =>
      change (Except.error f, w) = (Except.error f, ⟨w.engine, w.log ++ []⟩)
      rw [List.append_nil]

theorem noted_cases (e : ε) (exchange : Except Fault α → Exchange σ)
    (call : Except Fault (Except Fault α × ε)) :
    (∃ fault, call = .error fault ∧ noted exchange call = []) ∨
      noted exchange call = [exchange (calling e call).1] := by
  cases call with
  | error fault => exact .inl ⟨fault, rfl, rfl⟩
  | ok outcome => exact .inr rfl

variable [StoryEngine ε σ] (w : Watched ε σ)

theorem stepper_watched : stepper w = (stepper w.engine).map (w.hear .step) :=
  method_map (w.hear .step) (kind w.engine) stepNames (stepMethod w.engine)

theorem saver_watched : saver w = (saver w.engine).map (w.hear .save) := by
  have hfound := method_map (w.hear .save) (stateKind w.engine) saveNames (saveMethod w.engine)
  simp only [saver]
  change (state w.engine >>= fun _ => _) = _
  cases state w.engine with
  | error f => rfl
  | ok a => exact hfound

theorem loader_watched :
    loader w =
      (loader w.engine).map fun call saved => w.hear (.load saved) (call saved) := by
  have hfound := method_map (fun call saved => w.hear (.load saved) (call saved))
    (stateKind w.engine) loadNames (loadMethod w.engine)
  simp only [loader]
  change (state w.engine >>= fun _ => _) = _
  cases state w.engine with
  | error f => rfl
  | ok a => exact hfound

theorem step_watched :
    step w = watched (w.log ++ noted .step (stepper w.engine)) (step w.engine) := by
  simp only [step]
  rw [stepper_watched, calling_hear]

theorem save_watched :
    save w = watched (w.log ++ noted .save (saver w.engine)) (save w.engine) := by
  simp only [save]
  rw [saver_watched, calling_hear]

theorem load_watched (saved : σ) :
    load w saved =
      watched (w.log ++ noted (.load saved) ((loader w.engine).map (· saved)))
        (load w.engine saved) := by
  simp only [load]
  rw [← calling_hear, loader_watched]
  cases loader w.engine with
  | error f => rfl
  | ok call => rfl

theorem stepThen_watched (body : ε → Logged (Except Fault α × ε)) :
    stepThen w (unwatched body) =
      watched (w.log ++ noted .step (stepper w.engine)) <$> stepThen w.engine body := by
  simp only [stepThen]
  rw [step_watched]
  cases h : step w.engine with
  | mk stepped e =>
      cases stepped with
      | ok u => rfl
      | error f => rfl

/-- The calls of a speculative step. -/
def speculateCalls (e : ε) (body : ε → Logged (Except Fault α × ε)) : List (Exchange σ) :=
  match save e with
  | (.error _, _) => noted .save (saver e)
  | (.ok saved, e') =>
    noted .save (saver e) ++ noted .step (stepper e') ++
      noted (.load saved) ((loader (stepThen e' body).value.2).map (· saved))

theorem speculate_watched (body : ε → Logged (Except Fault α × ε)) :
    speculate w (unwatched body) =
      watched (w.log ++ speculateCalls w.engine body) <$> speculate w.engine body := by
  simp only [speculate, speculateCalls]
  rw [save_watched]
  cases h : save w.engine with
  | mk saved e =>
      cases saved with
      | error f => rfl
      | ok saved =>
          dsimp only [watched]
          rw [stepThen_watched]
          apply Logged.ext
          · simp only [Logged.value_bind, Logged.value_map, watched, load_watched,
              List.append_assoc]
          · simp only [Logged.events_bind, Logged.events_map, Logged.value_map, watched,
              load_watched]

end KnotAtlas.StoryEngine
