import KnotAtlas.Proofs.Engine.Watched

/-!
A speculative step leaves the engine as it found it. The record of its calls has one shape only: the
snapshot, at most one step, and the restoration with that snapshot. What the engine is in the end
rests on two habits of the engine itself, that saving moves nothing and that restoring a snapshot
brings back what was saved.
-/

namespace KnotAtlas

open Attribute (Fault)

namespace StoryEngine

variable {ε σ κ α : Type} [StoryEngine ε σ]

/-- What is taken for granted of an engine in the conditions that it can be in, where `view` is the
state of the story. -/
structure Dependable (possible : ε → Prop) (view : ε → κ) : Prop where
  save : ∀ e, possible e → possible (save e).2
  step : ∀ e, possible e → possible (step e).2
  save_moves_nothing : ∀ e, possible e → view (StoryEngine.save e).2 = view e
  load_restores : ∀ e later saved, possible e → possible later →
    (StoryEngine.save e).1 = .ok saved → (load later saved).1 = .ok () →
      view (load later saved).2 = view e

/-- How an engine is left after the calls of `log` were made on it: stepped at most once, and not at
all without a snapshot; with one attempt to restore the snapshot, after the step; and with its state
as before, unless that attempt failed. -/
structure Guarded (view : ε → κ) (before after : ε) (log : List (Exchange σ)) : Prop where
  one_step : log.countP Exchange.isStep ≤ 1
  no_step : (∀ saved, .save (.ok saved) ∉ log) → log.countP Exchange.isStep = 0
  restored : ∀ saved, .save (.ok saved) ∈ log →
    ∃ steps : List (Exchange σ), (∀ x ∈ steps, x.isStep) ∧
      ((∃ answer, log = .save (.ok saved) :: (steps ++ [.load saved answer])) ∨
        (log = .save (.ok saved) :: steps ∧ ∃ fault, loader after = .error fault))
  unmoved : (∀ saved, .save (.ok saved) ∈ log → .load saved (.ok ()) ∈ log) →
    view after = view before

variable {view : ε → κ} {possible : ε → Prop}

theorem guarded_idle {before after : ε} (h : view after = view before) :
    Guarded view before after ([] : List (Exchange σ)) where
  one_step := Nat.zero_le 1
  no_step _ := rfl
  restored _ hmem := absurd hmem List.not_mem_nil
  unmoved _ := h

theorem noted_save_ok {e : ε} {saved : σ} (h : (save e).1 = .ok saved) :
    noted .save (saver e) = [.save (.ok saved)] := by
  obtain ⟨fault, hcall, -⟩ | hnoted := noted_cases e .save (saver e)
  · rw [save, hcall] at h
    cases h
  · rw [hnoted]
    exact congrArg (fun answer => [Exchange.save answer]) h

theorem noted_step (e : ε) :
    (∀ x ∈ noted (σ := σ) .step (stepper e), x.isStep) ∧
      (noted (σ := σ) .step (stepper e)).length ≤ 1 := by
  obtain ⟨-, -, hnoted⟩ | hnoted := noted_cases e .step (stepper e)
  · rw [hnoted]
    exact ⟨fun _ h => absurd h List.not_mem_nil, Nat.zero_le 1⟩
  · rw [hnoted]
    exact ⟨List.forall_mem_singleton.mpr rfl, Nat.le_refl 1⟩

theorem guarded_unsaved (contract : Dependable possible view) {e : ε} {fault : Fault}
    (he : possible e) (h : (save e).1 = .error fault) :
    Guarded view e (save e).2 (noted .save (saver e)) := by
  have hsame := contract.save_moves_nothing e he
  obtain ⟨-, -, hnoted⟩ | hnoted := noted_cases e .save (saver e)
  · rw [hnoted]
    exact guarded_idle hsame
  · replace hnoted : noted .save (saver e) = [.save (.error fault)] := by
      rw [hnoted]
      exact congrArg (fun answer => [Exchange.save answer]) h
    rw [hnoted]
    refine ⟨Nat.zero_le 1, fun _ => rfl, fun saved hmem => ?_, fun _ => hsame⟩
    cases List.mem_singleton.mp hmem

/-- Where there is no method to restore, there is none after the attempt either. -/
theorem loader_after_load {later : ε} {saved : σ} {fault : Fault}
    (h : (loader later).map (· saved) = .error fault) :
    loader (load later saved).2 = .error fault := by
  have hsame : (load later saved).2 = later := by
    rw [load, h]
    rfl
  rw [hsame]
  cases hl : loader later with
  | error f =>
      rw [hl] at h
      cases h
      rfl
  | ok call =>
      rw [hl] at h
      cases h

section Restoring

variable {saved : σ} {steps loads : List (Exchange σ)}
  (hsteps : ∀ x ∈ steps, x.isStep) (hloads : ∀ x ∈ loads, ∃ answer, x = .load saved answer)

include hsteps hloads

theorem eq_of_save_mem {other : σ}
    (h : .save (.ok other) ∈ Exchange.save (.ok saved) :: (steps ++ loads)) : other = saved := by
  cases h with
  | head => rfl
  | tail _ h =>
      cases List.mem_append.mp h with
      | inl h => cases hsteps _ h
      | inr h =>
          obtain ⟨answer, h⟩ := hloads _ h
          cases h

theorem countP_isStep :
    (Exchange.save (.ok saved) :: (steps ++ loads)).countP Exchange.isStep = steps.length := by
  have hnone : loads.countP Exchange.isStep = 0 := by
    refine List.countP_eq_zero.mpr fun x hx => ?_
    obtain ⟨answer, rfl⟩ := hloads x hx
    exact Bool.false_ne_true
  have hall : steps.countP Exchange.isStep = steps.length := List.countP_eq_length.mpr hsteps
  have hsave : ¬ Exchange.isStep (.save (.ok saved) : Exchange σ) = true := Bool.false_ne_true
  rw [List.countP_cons_of_neg hsave, List.countP_append, hall, hnone, Nat.add_zero]

end Restoring

theorem load_mem_of_mem {saved : σ} {steps loads : List (Exchange σ)} {answer : Except Fault Unit}
    (hsteps : ∀ x ∈ steps, x.isStep)
    (h : .load saved answer ∈ Exchange.save (.ok saved) :: (steps ++ loads)) :
    .load saved answer ∈ loads := by
  cases h with
  | tail _ h =>
      cases List.mem_append.mp h with
      | inl h => cases hsteps _ h
      | inr h => exact h

/-- The calls of a speculative step for which there is a snapshot. -/
theorem guarded_saved (contract : Dependable possible view) {e later : ε} {saved : σ}
    {steps : List (Exchange σ)} (he : possible e) (hlater : possible later)
    (h : (save e).1 = .ok saved) (hsteps : ∀ x ∈ steps, x.isStep) (hlen : steps.length ≤ 1) :
    Guarded view e (load later saved).2
      (.save (.ok saved) ::
        (steps ++ noted (.load saved) ((loader later).map (· saved)))) := by
  have hcases := noted_cases later (.load saved) ((loader later).map (· saved))
  have hloads : ∀ x ∈ noted (.load saved) ((loader later).map (· saved)),
      ∃ answer, x = .load saved answer := by
    intro x hx
    obtain ⟨-, -, hnoted⟩ | hnoted := hcases
    · rw [hnoted] at hx
      cases hx
    · rw [hnoted] at hx
      exact ⟨_, List.mem_singleton.mp hx⟩
  constructor
  · rw [countP_isStep hsteps hloads]
    exact hlen
  · intro hnone
    exact absurd (.head _) (hnone saved)
  · intro other hmem
    obtain rfl := eq_of_save_mem hsteps hloads hmem
    refine ⟨steps, hsteps, ?_⟩
    obtain ⟨fault, hcall, hnoted⟩ | hnoted := hcases
    · exact .inr ⟨by rw [hnoted, List.append_nil], fault, loader_after_load hcall⟩
    · exact .inl ⟨_, by rw [hnoted]⟩
  · intro hrestored
    have hload := load_mem_of_mem hsteps (hrestored saved (.head _))
    obtain ⟨-, -, hnoted⟩ | hnoted := hcases
    · rw [hnoted] at hload
      cases hload
    · rw [hnoted] at hload
      have hok := List.mem_singleton.mp hload
      injection hok with _ hok
      exact contract.load_restores e later saved he hlater h hok.symm

theorem guarded_speculate (contract : Dependable possible view) {e : ε} (he : possible e)
    (body : ε → Logged (Except Fault α × ε))
    (hbody : ∀ e, possible e → possible (body e).value.2) :
    Guarded view e (speculate e body).value.2 (speculateCalls e body) := by
  have hsaved := contract.save e he
  cases h : save e with
  | mk saved e' =>
      rw [h] at hsaved
      cases saved with
      | error fault =>
          have hguard := guarded_unsaved contract he (congrArg Prod.fst h)
          rw [h] at hguard
          simp only [speculate, speculateCalls, h, Logged.value_pure]
          exact hguard
      | ok saved =>
          have hlater : possible (stepThen e' body).value.2 := by
            have hstep := contract.step e' hsaved
            rw [stepThen]
            cases hs : step e' with
            | mk stepped e'' =>
                rw [hs] at hstep
                cases stepped with
                | ok u => exact hbody e'' hstep
                | error f => exact hstep
          obtain ⟨hsteps, hlen⟩ := noted_step e'
          have hfst := congrArg Prod.fst h
          have hguard := guarded_saved contract he hlater hfst hsteps hlen
          simp only [speculate, speculateCalls, h, noted_save_ok hfst, Logged.value_bind,
            List.cons_append, List.nil_append]
          exact hguard

end StoryEngine
end KnotAtlas
