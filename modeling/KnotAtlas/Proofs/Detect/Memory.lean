import KnotAtlas.Detect.Detector

/-!
What a detector remembers. Its operations write nothing of it but the memory, and each is told here
by one equation: the name that it gives, and what is remembered after it. The memory itself only
ever holds a name that can belong to a knot.
-/

namespace KnotAtlas

namespace Detect

variable {ε σ : Type} [StoryEngine ε σ]

theorem isKnotName_of_knotName? {name : Option String} {knot : String}
    (h : knotName? name = some knot) : isKnotName knot = true := by
  obtain ⟨-, hname⟩ := Option.filter_eq_some_iff.mp h
  exact hname

theorem isKnotName_of_strategy {s : Strategy} {signal : Signal} {knot : String}
    (h : s.knot? signal = some knot) : isKnotName knot = true := by
  cases s with
  | callStack =>
      obtain ⟨frames, -, hframes⟩ := Option.bind_eq_some_iff.mp h
      obtain ⟨frame, -, hframe⟩ := List.exists_of_findSome?_eq_some hframes
      exact isKnotName_of_knotName? hframe
  | currentPointer => exact isKnotName_of_knotName? h
  | pathString =>
      obtain ⟨path, -, hpath⟩ := Option.bind_eq_some_iff.mp h
      exact List.find?_some hpath

/-- The knot that the signals of an engine name. -/
def seen? (e : ε) : Option String :=
  (resolve? Strategy.all (StoryEngine.signal e).value).map (·.2)

theorem isKnotName_of_seen? {e : ε} {knot : String} (h : seen? e = some knot) :
    isKnotName knot = true := by
  obtain ⟨⟨s, name⟩, hit, rfl⟩ := Option.map_eq_some_iff.mp h
  obtain ⟨strategy, -, hstrategy⟩ := List.exists_of_findSome?_eq_some hit
  obtain ⟨named, hnamed, heq⟩ := Option.map_eq_some_iff.mp hstrategy
  cases heq
  exact isKnotName_of_strategy hnamed

end Detect

namespace Detector

open Detect (isKnotName knotName? startKnot seen? isKnotName_of_seen?)

variable {ε σ : Type} [StoryEngine ε σ]

/-- A detector with another memory. -/
def recalling (d : Detector) (last : Option String) : Detector :=
  { d with lastKnown := last }

section Recalling

variable (d : Detector) (last other : Option String)

@[simp] theorem lastKnown_recalling : (d.recalling last).lastKnown = last := rfl

@[simp] theorem flows_recalling : (d.recalling last).flows = d.flows := rfl

@[simp] theorem recalling_recalling : (d.recalling last).recalling other = d.recalling other := rfl

@[simp] theorem recalling_lastKnown : d.recalling d.lastKnown = d := rfl

end Recalling

/-- Whether what a detector remembers, if anything, can belong to a knot. -/
def Remembers (d : Detector) : Prop :=
  ∀ knot, d.lastKnown = some knot → isKnotName knot = true

theorem remembers_create (flows : FlowMap) (useSample debug : Bool) (initial : Option String) :
    (create flows useSample debug initial).Remembers :=
  fun _ h => Detect.isKnotName_of_knotName? h

/-- What is remembered after a name was heard. -/
def heard (d : Detector) (name : String) : Option String :=
  if isKnotName name then some name else d.lastKnown

theorem heard_of_isKnotName (d : Detector) {name : String} (h : isKnotName name = true) :
    d.heard name = some name :=
  if_pos h

theorem Remembers.heard {d : Detector} (h : d.Remembers) (name : String) :
    (d.recalling (d.heard name)).Remembers := by
  intro knot hknot
  rw [lastKnown_recalling, Detector.heard] at hknot
  split at hknot
  · rename_i hname
    cases hknot
    exact hname
  · exact h knot hknot

@[simp] theorem heard_recalling_heard (d : Detector) (name : String) :
    (d.recalling (d.heard name)).heard name = d.heard name := by
  simp only [heard, lastKnown_recalling]
  split
  · rfl
  · rfl

theorem remember_value (d : Detector) (name : String) :
    (d.remember name).value = d.recalling (d.heard name) := by
  rw [remember, isNews, heard]
  by_cases hname : isKnotName name = true
  · rw [if_pos hname, hname, Bool.true_and]
    by_cases hsame : d.lastKnown = some name
    · rw [if_neg (by simp [hsame]), ← hsame]
      rfl
    · rw [if_pos (by simpa using hsame)]
      rfl
  · rw [if_neg hname, if_neg (by simp [hname])]
    rfl

theorem predict_value (d : Detector) (knot : String) (index : Int) :
    (d.predict knot index).value = (d.mapped? knot index).getD knot := by
  rw [predict]
  cases d.mapped? knot index with
  | none => rfl
  | some target => rfl

theorem tellHit_value (d : Detector) (hit : Option (Detect.Strategy × String)) :
    (d.tellHit hit).value = hit.map (·.2) := by
  cases hit with
  | none => rfl
  | some hit => rfl

theorem detect_value (d : Detector) (e : ε) : (d.detect e).value = seen? e :=
  d.tellHit_value _

theorem withoutSignal_value (d : Detector) (fallback : Option String) :
    (d.withoutSignal fallback).value =
      ((knotName? fallback).or d.lastKnown).getD startKnot := by
  rw [withoutSignal]
  cases knotName? fallback with
  | some knot => rfl
  | none =>
      cases d.lastKnown with
      | some knot => rfl
      | none => rfl

/-- Detecting remembers what the signals name, and nothing else. -/
theorem currentKnot_value (d : Detector) (e : ε) (fallback : Option String) :
    (d.currentKnot e fallback).value =
      ((seen? e).getD (((knotName? fallback).or d.lastKnown).getD startKnot),
        d.recalling ((seen? e).or d.lastKnown)) := by
  rw [currentKnot, Logged.value_bind, detect_value]
  cases h : seen? e with
  | none => exact congrArg (·, d) (d.withoutSignal_value fallback)
  | some knot =>
      refine congrArg (knot, ·) ((d.remember_value knot).trans ?_)
      rw [heard_of_isKnotName d (isKnotName_of_seen? h)]
      rfl

/-- Looking ahead finds a knot only where the state is saved, the step is made and the signals name
the knot after it. -/
theorem seen?_of_lookAhead {d : Detector} {e : ε} {knot : String}
    (h : (d.lookAhead e).value.1 = .ok (some knot)) :
    ∃ saved before after, StoryEngine.save e = (.ok saved, before) ∧
      StoryEngine.step before = (.ok (), after) ∧ seen? after = some knot := by
  rw [lookAhead, StoryEngine.speculate] at h
  split at h
  · cases h
  · rename_i saved before hsave
    change (StoryEngine.stepThen before d.look).value.1 = _ at h
    rw [StoryEngine.stepThen] at h
    split at h
    · rename_i after hstep
      rw [look, Logged.value_map, detect_value] at h
      exact ⟨saved, before, after, hsave, hstep, Except.ok.inj h⟩
    · cases h

theorem isKnotName_of_lookAhead {d : Detector} {e : ε} {knot : String}
    (h : (d.lookAhead e).value.1 = .ok (some knot)) : isKnotName knot = true := by
  obtain ⟨_, _, _, -, -, hseen⟩ := seen?_of_lookAhead h
  exact isKnotName_of_seen? hseen

/-- Verifying a prediction that was heard remembers the name that it gives. -/
theorem verify_memory (d : Detector) (e : ε) (predicted : String) :
    ((d.recalling (d.heard predicted)).verify e predicted).value.2.1 =
      d.recalling (d.heard ((d.recalling (d.heard predicted)).verify e predicted).value.1) := by
  have hagain : (((d.recalling (d.heard predicted)).remember predicted)).value =
      d.recalling (d.heard predicted) := by
    rw [remember_value, heard_recalling_heard, recalling_recalling]
  rw [verify, Logged.value_bind]
  cases hlook : ((d.recalling (d.heard predicted)).lookAhead e).value with
  | mk detected after =>
      rcases detected with fault | (- | knot)
      · rfl
      · exact hagain
      · dsimp only
        split
        · exact hagain
        · have hname := isKnotName_of_lookAhead (congrArg Prod.fst hlook)
          refine ((d.recalling (d.heard predicted)).remember_value knot).trans ?_
          rw [heard_of_isKnotName _ hname, recalling_recalling]
          exact congrArg d.recalling (heard_of_isKnotName d hname).symm

/-- After a prediction, the detector remembers the name that it gave, if that can belong to a
knot; the engine may have been read and stepped on the way. -/
theorem afterChoice_memory (d : Detector) (e : ε) (knot : String) (index : Int) (verified : Bool) :
    (d.afterChoice e knot index verified).value.2.1 =
      d.recalling (d.heard (d.afterChoice e knot index verified).value.1) := by
  simp only [afterChoice, Logged.value_bind, remember_value]
  generalize (d.predict knot index).value = predicted
  cases verified with
  | false => rfl
  | true =>
      simp only [if_true, confirm]
      split
      · exact d.verify_memory e predicted
      · rfl
      · rfl

theorem afterChoice_unverified (d : Detector) (e : ε) (knot : String) (index : Int) :
    (d.afterChoice e knot index false).value.1 = (d.mapped? knot index).getD knot :=
  d.predict_value knot index

theorem Remembers.currentKnot {d : Detector} (h : d.Remembers) (e : ε)
    (fallback : Option String) : (d.currentKnot e fallback).value.2.Remembers := by
  rw [currentKnot_value]
  intro knot hknot
  rcases Option.or_eq_some_iff.mp hknot with hseen | ⟨-, hlast⟩
  · exact isKnotName_of_seen? hseen
  · exact h knot hlast

theorem Remembers.afterChoice {d : Detector} (h : d.Remembers) (e : ε) (knot : String)
    (index : Int) (verified : Bool) :
    (d.afterChoice e knot index verified).value.2.1.Remembers := by
  rw [afterChoice_memory]
  exact h.heard _

end Detector
end KnotAtlas
