import KnotAtlas.Proofs.Engine.Spelling
import KnotAtlas.Proofs.Engine.Watched

/-!
Engines spelled anew. Two engines are the same but for spelling if corresponding conditions of the
two read the same but for spelling, have each method under one of its names at most, and answer its
call in the same way, which leads to corresponding conditions again. Steps, snapshots, restorations
and speculative steps then go the same way in both.
-/

namespace KnotAtlas

/-- Whether two results are alike and came with the same events. -/
structure Logged.Alike {α β : Type} (P : α → β → Prop) (x : Logged α) (y : Logged β) : Prop where
  value : P x.value y.value
  events : x.events = y.events

namespace Logged.Alike

variable {α β γ δ : Type} {P : α → β → Prop} {Q : γ → δ → Prop}

theorem pure {a : α} {b : β} (h : P a b) : Alike P (Pure.pure a) (Pure.pure b) :=
  ⟨h, rfl⟩

theorem bind {x : Logged α} {y : Logged β} {f : α → Logged γ} {g : β → Logged δ}
    (h : Alike P x y) (hnext : ∀ a b, P a b → Alike Q (f a) (g b)) :
    Alike Q (x >>= f) (y >>= g) := by
  have hlater := hnext _ _ h.value
  exact ⟨hlater.value, by rw [events_bind, events_bind, h.events, hlater.events]⟩

/-- What comes after a part that both have in common. -/
theorem after {x : Logged α} {f : α → Logged γ} {g : α → Logged δ}
    (hnext : ∀ a, Alike Q (f a) (g a)) : Alike Q (x >>= f) (x >>= g) := by
  have hlater := hnext x.value
  exact ⟨hlater.value, by rw [events_bind, events_bind, hlater.events]⟩

end Logged.Alike

namespace StoryEngine

open Attribute (Fault Respelled)

section Methods

variable {μ ν : Type} {names : List String} {find : String → Except Fault (Option μ)}
  {find' : String → Except Fault (Option ν)} {R : μ → ν → Prop}

/-- Whether two ways to find methods find alike methods, or fail alike, each under one of `names`
at most. -/
def FoundAlike (names : List String) (R : μ → ν → Prop) (find : String → Except Fault (Option μ))
    (find' : String → Except Fault (Option ν)) : Prop :=
  ∃ name ∈ names, ∃ name' ∈ names,
    Except.Alike (Option.Rel R) (find name) (find' name') ∧
      (∀ other ∈ names, other ≠ name → find other = .ok none) ∧
      ∀ other ∈ names, other ≠ name' → find' other = .ok none

/-- What was found, unless that is nothing. -/
def present? (found : Except Fault (Option μ)) : Option (Except Fault (Option μ)) :=
  match found with
  | .ok none => none
  | found => some found

theorem findMethod_eq_findSome? :
    findMethod find names = (names.findSome? fun name => present? (find name)).getD (.ok none) := by
  induction names with
  | nil => rfl
  | cons name rest ih =>
      rw [findMethod, List.findSome?_cons]
      cases find name with
      | error f => rfl
      | ok found =>
          cases found with
          | none => exact ih
          | some m => rfl

theorem findMethod_of_only {name : String} (hmem : name ∈ names)
    (hothers : ∀ other ∈ names, other ≠ name → find other = .ok none) :
    findMethod find names = find name := by
  rw [findMethod_eq_findSome?, Attribute.findSome?_of_only hmem]
  · cases find name with
    | error f => rfl
    | ok found =>
        cases found with
        | none => rfl
        | some m => rfl
  · intro other hother hne
    rw [hothers other hother hne]
    rfl

theorem FoundAlike.method (h : FoundAlike names R find find') (kind : String) :
    Except.Alike R (method kind names find) (method kind names find') := by
  obtain ⟨name, hname, name', hname', hfound, honly, honly'⟩ := h
  simp only [StoryEngine.method, findMethod_of_only hname honly, findMethod_of_only hname' honly']
  generalize find name = x at hfound
  generalize find' name' = y at hfound
  cases hfound with
  | error f => exact .error f
  | ok hfound =>
      cases hfound with
      | none => exact .error _
      | some hm => exact .ok hm

theorem FoundAlike.map {μ' ν' : Type} {Q : μ' → ν' → Prop} {g : μ → μ'} {g' : ν → ν'}
    (h : FoundAlike names R find find') (hmap : ∀ m n, R m n → Q (g m) (g' n)) :
    FoundAlike names Q (fun name => (find name).map (·.map g))
      (fun name => (find' name).map (·.map g')) := by
  obtain ⟨name, hname, name', hname', hfound, honly, honly'⟩ := h
  refine ⟨name, hname, name', hname', hfound.map ?_, ?_, ?_⟩
  · intro m n hmn
    cases hmn with
    | some hmn => exact .some (hmap _ _ hmn)
    | none => exact .none
  · intro other hother hne
    exact congrArg (Except.map (Option.map g)) (honly other hother hne)
  · intro other hother hne
    exact congrArg (Except.map (Option.map g')) (honly' other hother hne)

end Methods

variable {α β ε ε' σ σ' : Type}

/-- Whether two calls were answered alike and left corresponding conditions. -/
def Outcome (S : α → β → Prop) (R : ε → ε' → Prop) (o : Except Fault α × ε)
    (o' : Except Fault β × ε') : Prop :=
  Except.Alike S o.1 o'.1 ∧ R o.2 o'.2

/-- `Outcome` for calls that take a snapshot. -/
def RestoresAlike (S : σ → σ' → Prop) (R : ε → ε' → Prop) (call : σ → Except Fault Unit × ε)
    (call' : σ' → Except Fault Unit × ε') : Prop :=
  ∀ ⦃saved saved'⦄, S saved saved' → Outcome Eq R (call saved) (call' saved')

/-- Conditions `R` and snapshots `S` of two engines that are the same but for spelling. -/
structure Respelling [StoryEngine ε σ] [StoryEngine ε' σ'] (R : ε → ε' → Prop)
    (S : σ → σ' → Prop) : Prop where
  attributes : ∀ {e e'}, R e e' → (attributes e).Respelled (attributes e')
  kind : ∀ {e e'}, R e e' → kind e = kind e'
  stateKind : ∀ {e e'}, R e e' → stateKind e = stateKind e'
  step : ∀ {e e'}, R e e' →
    FoundAlike stepNames (Outcome Eq R) (stepMethod e) (stepMethod e')
  save : ∀ {e e'}, R e e' →
    FoundAlike saveNames (Outcome S R) (saveMethod e) (saveMethod e')
  load : ∀ {e e'}, R e e' →
    FoundAlike loadNames (RestoresAlike S R) (loadMethod e) (loadMethod e')

namespace Respelling

variable [StoryEngine ε σ] [StoryEngine ε' σ'] {R : ε → ε' → Prop} {S : σ → σ' → Prop}
  {e : ε} {e' : ε'}

theorem state_alike (h : Respelling R S) (he : R e e') :
    Except.Alike Respelled (state e) (state e') :=
  (h.attributes he).read (by decide)

theorem signal_eq (h : Respelling R S) (he : R e e') : signal e = signal e' := by
  have hstate := h.state_alike he
  rw [signal, signal]
  generalize state e = x at hstate ⊢
  generalize state e' = y at hstate ⊢
  cases hstate with
  | error f => rfl
  | ok hstate => exact Signal.ofState_respelled hstate

theorem canContinue_eq (h : Respelling R S) (he : R e e') : canContinue e = canContinue e' := by
  refine ((h.attributes he).read (by decide)).bind_eq fun a b hab => ?_
  have htruth := congrArg (Except.ok (ε := Fault)) hab.isTruthy_eq
  cases hab with
  | same => rfl
  | callable hresult =>
      refine hresult.result.bind_eq fun given given' hgiven => ?_
      exact congrArg Except.ok hgiven.isTruthy_eq
  | list | object => exact htruth

theorem calling_alike {A : α → β → Prop} (he : R e e')
    {call : Except Fault (Except Fault α × ε)} {call' : Except Fault (Except Fault β × ε')}
    (hcall : Except.Alike (Outcome A R) call call') :
    Outcome A R (calling e call) (calling e' call') := by
  cases hcall with
  | error f => exact ⟨.error f, he⟩
  | ok houtcome => exact houtcome

theorem step_alike (h : Respelling R S) (he : R e e') :
    Outcome Eq R (StoryEngine.step e) (StoryEngine.step e') := by
  refine calling_alike he ?_
  rw [stepper, stepper, h.kind he]
  exact (h.step he).method _

theorem save_alike (h : Respelling R S) (he : R e e') :
    Outcome S R (StoryEngine.save e) (StoryEngine.save e') := by
  refine calling_alike he ?_
  rw [saver, saver, h.stateKind he]
  exact (h.state_alike he).bind fun _ _ _ => (h.save he).method _

theorem load_alike (h : Respelling R S) (he : R e e') {saved : σ} {saved' : σ'}
    (hsaved : S saved saved') :
    Outcome Eq R (StoryEngine.load e saved) (StoryEngine.load e' saved') := by
  refine calling_alike he ?_
  have hloader : Except.Alike (RestoresAlike S R) (loader e) (loader e') := by
    rw [loader, loader, h.stateKind he]
    exact (h.state_alike he).bind fun _ _ _ => (h.load he).method _
  exact hloader.map fun call call' hcall => hcall hsaved

theorem stepThen_alike {A : α → β → Prop} (h : Respelling R S) (he : R e e')
    {body : ε → Logged (Except Fault α × ε)} {body' : ε' → Logged (Except Fault β × ε')}
    (hbody : ∀ ⦃e e'⦄, R e e' → Logged.Alike (Outcome A R) (body e) (body' e')) :
    Logged.Alike (Outcome A R) (stepThen e body) (stepThen e' body') := by
  have hstep := h.step_alike he
  rw [stepThen, stepThen]
  generalize StoryEngine.step e = x at hstep ⊢
  generalize StoryEngine.step e' = y at hstep ⊢
  obtain ⟨answer, later⟩ := x
  obtain ⟨answer', later'⟩ := y
  obtain ⟨hanswer, hlater⟩ := hstep
  cases hanswer with
  | error f => exact .pure ⟨.error f, hlater⟩
  | ok => exact hbody hlater

/-- A speculative step goes the same way if what is done on the way does. -/
theorem speculate_alike {A : α → β → Prop} (h : Respelling R S) (he : R e e')
    {body : ε → Logged (Except Fault α × ε)} {body' : ε' → Logged (Except Fault β × ε')}
    (hbody : ∀ ⦃e e'⦄, R e e' → Logged.Alike (Outcome A R) (body e) (body' e')) :
    Logged.Alike (Outcome A R) (speculate e body) (speculate e' body') := by
  have hsave := h.save_alike he
  rw [speculate, speculate]
  generalize StoryEngine.save e = x at hsave ⊢
  generalize StoryEngine.save e' = y at hsave ⊢
  obtain ⟨answer, saver⟩ := x
  obtain ⟨answer', saver'⟩ := y
  obtain ⟨hanswer, hsaver⟩ := hsave
  cases hanswer with
  | error f => exact .pure ⟨.error f, hsaver⟩
  | ok hsaved =>
      refine (h.stepThen_alike hsaver hbody).bind fun out out' hout => ?_
      have hload := h.load_alike hout.2 hsaved
      exact ⟨⟨hout.1, hload.2⟩, congrArg restoreEvents hload.1.eq⟩

end Respelling

section Watched

/-- Whether two calls were of one kind and answered alike. -/
inductive Exchange.Alike (S : σ → σ' → Prop) : Exchange σ → Exchange σ' → Prop where
  | step (answer : Except Fault Unit) : Alike S (.step answer) (.step answer)
  | save {answer : Except Fault σ} {answer' : Except Fault σ'} :
    Except.Alike S answer answer' → Alike S (.save answer) (.save answer')
  | load {saved : σ} {saved' : σ'} (answer : Except Fault Unit) :
    S saved saved' → Alike S (.load saved answer) (.load saved' answer)

/-- Corresponding conditions with a record of corresponding calls. -/
def WatchedAlike (R : ε → ε' → Prop) (S : σ → σ' → Prop) (w : Watched ε σ)
    (w' : Watched ε' σ') : Prop :=
  R w.engine w'.engine ∧ List.Forall₂ (Exchange.Alike S) w.log w'.log

variable {R : ε → ε' → Prop} {S : σ → σ' → Prop} {w : Watched ε σ} {w' : Watched ε' σ'}

theorem WatchedAlike.hear {A : α → β → Prop} (hw : WatchedAlike R S w w')
    {exchange : Except Fault α → Exchange σ} {exchange' : Except Fault β → Exchange σ'}
    (hexchange : ∀ answer answer', Except.Alike A answer answer' →
      Exchange.Alike S (exchange answer) (exchange' answer'))
    {o : Except Fault α × ε} {o' : Except Fault β × ε'} (ho : Outcome A R o o') :
    Outcome A (WatchedAlike R S) (w.hear exchange o) (w'.hear exchange' o') := by
  refine ⟨ho.1, ho.2, List.rel_append hw.2 ?_⟩
  exact .cons (hexchange _ _ ho.1) .nil

/-- Watching tells nothing of the spelling. -/
theorem Respelling.watched [StoryEngine ε σ] [StoryEngine ε' σ'] (h : Respelling R S) :
    Respelling (WatchedAlike R S) S where
  attributes hw := h.attributes hw.1
  kind hw := h.kind hw.1
  stateKind hw := h.stateKind hw.1
  step hw := (h.step hw.1).map fun _ _ => hw.hear fun answer _ hanswer => by
    cases hanswer.eq
    exact .step answer
  save hw := (h.save hw.1).map fun _ _ => hw.hear fun _ _ => .save
  load hw := (h.load hw.1).map fun _ _ hcall _ _ hsaved =>
    hw.hear (fun answer _ hanswer => by
      cases hanswer.eq
      exact .load answer hsaved) (hcall hsaved)

end Watched

end StoryEngine
end KnotAtlas
