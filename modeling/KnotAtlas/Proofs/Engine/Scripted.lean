import KnotAtlas.Engine.Scripted
import KnotAtlas.Proofs.Engine.Guarded

/-!
Engines given as data keep to what is granted of an engine, if they save and restore their state by
methods of their own: saving only notes the call, and restoring writes the saved attributes back. No
step takes those methods away, whether it fails or not.
-/

namespace KnotAtlas

open Attribute (Fault Members)

namespace StoryEngine

theorem of_findMethod {μ : Type} {Q : μ → Prop} {find : String → Except Fault (Option μ)}
    (hfind : ∀ name m, find name = .ok (some m) → Q m) {names : List String} {m : μ}
    (h : findMethod find names = .ok (some m)) : Q m := by
  induction names with
  | nil => cases h
  | cons name rest ih =>
      simp only [findMethod] at h
      split at h
      · cases h
      · rename_i found hfound
        cases h
        exact hfind name m hfound
      · exact ih h

theorem of_method {μ : Type} {Q : μ → Prop} {find : String → Except Fault (Option μ)}
    (hfind : ∀ name m, find name = .ok (some m) → Q m) {kind : String} {names : List String}
    {m : μ} (h : method kind names find = .ok m) : Q m := by
  simp only [method] at h
  split at h
  · rename_i found hfound
    cases h
    exact of_findMethod hfind hfound
  · cases h
  · cases h

end StoryEngine

namespace Engine

open StoryEngine (Dependable)

/-- An engine with a state that it saves and restores by methods of its own. -/
inductive Complete : Engine → Prop
  | object {h : Handle} {members : Members} (live : h.live = some members)
      (save : h.methods.saveName = some "ToJson")
      (load : h.methods.loadName = some "LoadJson") : Complete (.object h)

variable {h : Handle} {members : Members}

theorem state_object (hlive : h.live = some members) :
    StoryEngine.state (Engine.object h) = .ok (.object members) := by
  simp only [StoryEngine.state, StoryEngine.attributes, attributes, hlive]
  rfl

theorem saver_object (hlive : h.live = some members)
    (hname : h.methods.saveName = some "ToJson") :
    StoryEngine.saver (Engine.object h) =
      .ok (failing h.methods.saveFails (.taken members), .object (h.called .save)) := by
  have hfirst : saveMethod (.object h) "ToJson" =
      .ok (some (failing h.methods.saveFails (.taken members), .object (h.called .save))) := by
    simp only [saveMethod, hlive, callable, hname, ite_true]
  rw [StoryEngine.saver]
  rw [state_object hlive]
  change StoryEngine.method _ _ (saveMethod (.object h)) = _
  simp only [StoryEngine.method, StoryEngine.saveNames, StoryEngine.findMethod, hfirst]

theorem loader_object (hlive : h.live = some members)
    (hname : h.methods.loadName = some "LoadJson") :
    StoryEngine.loader (Engine.object h) = .ok h.load := by
  have hfirst : loadMethod (.object h) "LoadJson" = .ok (some h.load) := by
    simp only [loadMethod, hlive, callable, hname, ite_true]
  rw [StoryEngine.loader]
  rw [state_object hlive]
  change StoryEngine.method _ _ (loadMethod (.object h)) = _
  simp only [StoryEngine.method, StoryEngine.loadNames, StoryEngine.findMethod, hfirst]

theorem save_object (hlive : h.live = some members)
    (hname : h.methods.saveName = some "ToJson") :
    StoryEngine.save (Engine.object h) =
      (failing h.methods.saveFails (.taken members), .object (h.called .save)) := by
  rw [StoryEngine.save, saver_object hlive hname]
  rfl

theorem load_object (hlive : h.live = some members)
    (hname : h.methods.loadName = some "LoadJson") (saved : Snapshot) :
    StoryEngine.load (Engine.object h) saved = h.load saved := by
  rw [StoryEngine.load, loader_object hlive hname]
  rfl

/-- A method is the engine's own or gives what a function among the attributes gives. -/
theorem callable_eq_some {μ : Type} {own : Option String} {method found : μ}
    {function : Attribute → μ} {name : String}
    (h : callable own method members function name = .ok (some found)) :
    found = method ∨ ∃ a, found = function a := by
  rw [callable] at h
  split at h
  · cases h
    exact .inl rfl
  · split at h
    · cases h
    · cases h
      exact .inr ⟨_, rfl⟩
    · cases h

theorem step_complete {e : Engine} (he : Complete e) : Complete (StoryEngine.step e).2 := by
  obtain ⟨hlive, hsave, hload⟩ := he
  rename_i h members
  rw [StoryEngine.step]
  cases hs : StoryEngine.stepper (Engine.object h) with
  | error f => exact ⟨hlive, hsave, hload⟩
  | ok outcome =>
      have hfound : StoryEngine.method _ _ (stepMethod (.object h)) = .ok outcome := hs
      refine StoryEngine.of_method (Q := fun outcome => Complete outcome.2) ?_ hfound
      intro name found hfound
      obtain rfl | ⟨a, rfl⟩ := callable_eq_some hfound
      · exact ⟨congrArg (Option.map h.methods.advance) hlive, hsave, hload⟩
      · exact ⟨hlive, hsave, hload⟩

theorem dependable : Dependable Complete live? where
  save e he := by
    obtain ⟨hlive, hsave, hload⟩ := he
    rw [save_object hlive hsave]
    exact ⟨hlive, hsave, hload⟩
  step e := step_complete
  save_moves_nothing e he := by
    obtain ⟨hlive, hsave, -⟩ := he
    rw [save_object hlive hsave]
    rfl
  load_restores e later saved he hlater hsaved hrestored := by
    obtain ⟨hlive, hsave, -⟩ := he
    obtain ⟨hlater, -, hload⟩ := hlater
    rw [save_object hlive hsave] at hsaved
    rw [load_object hlater hload] at hrestored ⊢
    simp only [failing] at hsaved
    split at hsaved
    · cases hsaved
    · cases hsaved
      rw [Handle.load] at hrestored ⊢
      split
      · rename_i hfails
        rw [hfails] at hrestored
        cases hrestored
      · exact hlive.symm

end Engine
end KnotAtlas
