import KnotAtlas.Engine.Scripted
import KnotAtlas.Proofs.Engine.Respelling

/-!
Engines given as data, spelled anew. Members of the engine and of its state may go by their other
names, and so may the methods, wherever none of a method's names stands twice; what a step does must
not tell the spellings apart.
-/

namespace KnotAtlas

namespace Engine

open Attribute (Fault Members Once Respelled Whole dualNames)
open StoryEngine (FoundAlike Outcome Respelling)

/-- Where a method stands in two objects under one of its names at most: it is the engine's own, or
a member if it is anything. -/
inductive MethodAlike (names : List String) (own own' : Option String)
    (members members' : Members) : Prop where
  | own {name name' : String} : name ∈ names → name' ∈ names → own = some name →
    own' = some name' → (∀ other ∈ names, other ∉ members.map Prod.fst) →
    (∀ other ∈ names, other ∉ members'.map Prod.fst) → MethodAlike names own own' members members'
  | member : (∀ name ∈ names, own ≠ some name) → (∀ name ∈ names, own' ≠ some name) →
    Once names (members.map Prod.fst) → Once names (members'.map Prod.fst) →
    MethodAlike names own own' members members'

theorem callable_own {μ : Type} {name other : String} {method : μ} {members : Members}
    {function : Attribute → μ} (h : other ∉ members.map Prod.fst) (hne : other ≠ name) :
    callable (some name) method members function other = .ok none := by
  rw [callable, if_neg (fun heq => hne (Option.some.inj heq).symm),
    OrderedMap.find?_eq_none_of_not_mem h]

/-- What can be called under the names of a method. -/
def function? {μ : Type} (function : Attribute → μ) (found : Option Attribute) :
    Except Fault (Option μ) :=
  match found with
  | some (.raises m) => .error (.raised m)
  | some (.callable result) => .ok (some (function result))
  | _ => .ok none

theorem function?_respelled {μ ν : Type} {R : μ → ν → Prop} {function : Attribute → μ}
    {function' : Attribute → ν} {found found' : Option Attribute}
    (h : Option.Rel Respelled found found')
    (hfunction : ∀ a a', Respelled a a' → R (function a) (function' a')) :
    Except.Alike (Option.Rel R) (function? function found) (function? function' found') := by
  cases h with
  | none => exact .ok .none
  | @some a a' ha =>
      cases ha with
      | same =>
          cases a with
          | callable result => exact .ok (.some (hfunction result result (.same result)))
          | raises m => exact .error _
          | scalar | list | object => exact .ok .none
      | callable hresult => exact .ok (.some (hfunction _ _ hresult))
      | list | object => exact .ok .none

theorem callable_of_not_own {μ : Type} {own : Option String} {name : String} {method : μ}
    {members : Members} {function : Attribute → μ} (h : own ≠ some name) :
    callable own method members function name = function? function (members.find? name) := by
  rw [callable, if_neg h]
  rfl

theorem foundAlike_callable {μ ν : Type} {R : μ → ν → Prop} {names : List String}
    {own own' : Option String} {members members' : Members} {method : μ} {method' : ν}
    {function : Attribute → μ} {function' : Attribute → ν} (hdual : names ∈ dualNames)
    (hplace : MethodAlike names own own' members members')
    (hmembers : Respelled (.object members) (.object members')) (hmethod : R method method')
    (hfunction : ∀ a a', Respelled a a' → R (function a) (function' a')) :
    FoundAlike names R (callable own method members function)
      (callable own' method' members' function') := by
  cases hplace with
  | @own name name' hname hname' hown hown' hfree hfree' =>
      subst hown hown'
      refine ⟨name, hname, name', hname', ?_, ?_, ?_⟩
      · rw [callable, callable, if_pos rfl, if_pos rfl]
        exact .ok (.some hmethod)
      · exact fun other hother => callable_own (hfree other hother)
      · exact fun other hother => callable_own (hfree' other hother)
  | member hown hown' honce honce' =>
      obtain ⟨first, hfirst⟩ := Attribute.exists_mem_of_mem_dualNames hdual
      obtain ⟨name, hname, hfind, honly⟩ := Attribute.exists_only honce hfirst
      obtain ⟨name', hname', hfind', honly'⟩ := Attribute.exists_only honce' hfirst
      have hfound : Option.Rel Respelled (members.find? name) (members'.find? name') := by
        rw [hfind, hfind']
        exact Attribute.findSome?_respelled hmembers (Attribute.whole_of_mem_dualNames names hdual)
      refine ⟨name, hname, name', hname', ?_, ?_, ?_⟩
      · rw [callable_of_not_own (hown name hname), callable_of_not_own (hown' name' hname')]
        exact function?_respelled hfound hfunction
      · intro other hother hne
        rw [callable_of_not_own (hown other hother), honly other hother hne]
        rfl
      · intro other hother hne
        rw [callable_of_not_own (hown' other hother), honly' other hother hne]
        rfl

theorem foundAlike_none {μ ν : Type} {R : μ → ν → Prop} {names : List String}
    (hdual : names ∈ dualNames) :
    FoundAlike names R (fun _ => .ok none) (fun _ => .ok none) := by
  obtain ⟨first, hfirst⟩ := Attribute.exists_mem_of_mem_dualNames hdual
  exact ⟨first, hfirst, first, hfirst, .ok .none, fun _ _ _ => rfl, fun _ _ _ => rfl⟩

section Engines

variable {s s' : Methods}

/-- Attributes of the state of two engines with the given methods. -/
structure LiveAlike (s s' : Methods) (members members' : Members) : Prop where
  respelled : Respelled (.object members) (.object members')
  save : MethodAlike StoryEngine.saveNames s.saveName s'.saveName members members'
  load : MethodAlike StoryEngine.loadNames s.loadName s'.loadName members members'

/-- Methods that fail alike and do not tell spellings apart. -/
structure Methods.Alike (s s' : Methods) : Prop where
  advance : ∀ members members', LiveAlike s s' members members' →
    LiveAlike s s' (s.advance members) (s'.advance members')
  stepFails : s.stepFails = s'.stepFails
  saveFails : s.saveFails = s'.saveFails
  loadFails : s.loadFails = s'.loadFails

inductive Snapshot.Alike (s s' : Methods) : Snapshot → Snapshot → Prop where
  | taken {members members' : Members} : LiveAlike s s' members members' →
    Alike s s' (.taken members) (.taken members')
  | foreign {a a' : Attribute} : Respelled a a' → Alike s s' (.foreign a) (.foreign a')

inductive Call.Alike (s s' : Methods) : Call → Call → Prop where
  | step : Alike s s' .step .step
  | save : Alike s s' .save .save
  | load {saved saved' : Snapshot} : saved.Alike s s' saved' →
    Alike s s' (.load saved) (.load saved')

/-- Engines that are the same but for spelling. -/
inductive Alike (s s' : Methods) : Engine → Engine → Prop where
  | inert {a a' : Attribute} : Respelled a a' → Alike s s' (.inert a) (.inert a')
  | object {members members' : Members} {live live' : Option Members} {calls calls' : List Call} :
    Respelled (.object members) (.object members') →
    MethodAlike StoryEngine.stepNames s.stepName s'.stepName members members' →
    Option.Rel (LiveAlike s s') live live' → List.Forall₂ (Call.Alike s s') calls calls' →
    Alike s s' (.object ⟨members, live, s, calls⟩) (.object ⟨members', live', s', calls'⟩)

theorem attributes_respelled {e e' : Engine} (h : Alike s s' e e') :
    Respelled e.attributes e'.attributes := by
  cases h with
  | inert ha => exact ha
  | object hmembers _ hlive _ =>
      cases hlive with
      | none => exact hmembers
      | some hlive => exact hmembers.cons hlive.respelled (by decide)

theorem kind_respelled {e e' : Engine} (h : Alike s s' e e') : e.kind = e'.kind := by
  cases h with
  | inert ha => exact ha.kind_eq
  | object => rfl

theorem stateKind_respelled {e e' : Engine} (h : Alike s s' e e') :
    e.stateKind = e'.stateKind := by
  have hstate : Except.Alike Respelled (e.attributes.read StoryEngine.stateNames)
      (e'.attributes.read StoryEngine.stateNames) := (attributes_respelled h).read (by decide)
  have hlive : Option.Rel (LiveAlike s s') e.live? e'.live? := by
    cases h with
    | inert => exact .none
    | object _ _ hlive _ => exact hlive
  rw [stateKind, stateKind]
  generalize e.attributes.read _ = x at hstate ⊢
  generalize e'.attributes.read _ = x' at hstate ⊢
  generalize e.live? = live at hlive ⊢
  generalize e'.live? = live' at hlive ⊢
  cases hlive with
  | some => rfl
  | none =>
      cases hstate with
      | error => rfl
      | ok ha => exact ha.kind_eq

theorem failing_alike {α β : Type} {R : α → β → Prop} {a : α} {b : β} (h : R a b)
    (message : Option String) : Except.Alike R (failing message a) (failing message b) := by
  cases message with
  | none => exact .ok h
  | some m => exact .error _

theorem load_respelled (h : Methods.Alike s s') {members members' : Members}
    {live live' : Option Members} {calls calls' : List Call}
    (hmembers : Respelled (.object members) (.object members'))
    (hstep : MethodAlike StoryEngine.stepNames s.stepName s'.stepName members members')
    (hlive : Option.Rel (LiveAlike s s') live live')
    (hcalls : List.Forall₂ (Call.Alike s s') calls calls') :
    StoryEngine.RestoresAlike (Snapshot.Alike s s') (Alike s s')
      (Handle.load ⟨members, live, s, calls⟩) (Handle.load ⟨members', live', s', calls'⟩) := by
  intro saved saved' hsaved
  have hlater : List.Forall₂ (Call.Alike s s') (calls ++ [.load saved])
      (calls' ++ [.load saved']) :=
    List.rel_append hcalls (.cons (.load hsaved) .nil)
  simp only [Handle.load, h.loadFails]
  cases s'.loadFails with
  | some m => exact ⟨.error _, .object hmembers hstep hlive hlater⟩
  | none =>
      refine ⟨.ok rfl, ?_⟩
      cases hsaved with
      | taken htaken => exact .object hmembers hstep (.some htaken) hlater
      | foreign => exact .object hmembers hstep hlive hlater

/-- Engines with methods that do not tell spellings apart stay the same but for spelling. -/
theorem respelling (h : Methods.Alike s s') : Respelling (Alike s s') (Snapshot.Alike s s') where
  attributes := attributes_respelled
  kind := kind_respelled
  stateKind := stateKind_respelled
  step he := by
    cases he with
    | inert => exact foundAlike_none (by decide)
    | object hmembers hstep hlive hcalls =>
        refine foundAlike_callable (by decide) hstep hmembers ?_ ?_
        · refine ⟨?_, .object hmembers hstep ?_ (List.rel_append hcalls (.cons .step .nil))⟩
          · rw [h.stepFails]
            exact failing_alike rfl _
          · cases hlive with
            | none => exact .none
            | some hlive => exact .some (h.advance _ _ hlive)
        · intro a a' ha
          exact ⟨ha.result.map fun _ _ _ => rfl, .object hmembers hstep hlive hcalls⟩
  save he := by
    cases he with
    | inert => exact foundAlike_none (by decide)
    | object hmembers hstep hlive hcalls =>
        cases hlive with
        | none => exact foundAlike_none (by decide)
        | some hlive =>
            refine foundAlike_callable (by decide) hlive.save hlive.respelled ?_ ?_
            · refine ⟨?_, .object hmembers hstep (.some hlive)
                (List.rel_append hcalls (.cons .save .nil))⟩
              rw [h.saveFails]
              exact failing_alike (.taken hlive) _
            · intro a a' ha
              exact ⟨ha.result.map fun _ _ => .foreign,
                .object hmembers hstep (.some hlive) hcalls⟩
  load he := by
    cases he with
    | inert => exact foundAlike_none (by decide)
    | object hmembers hstep hlive hcalls =>
        cases hlive with
        | none => exact foundAlike_none (by decide)
        | some hlive =>
            refine foundAlike_callable (by decide) hlive.load hlive.respelled ?_ ?_
            · exact load_respelled h hmembers hstep (.some hlive) hcalls
            · intro a a' ha _ _ _
              exact ⟨ha.result.map fun _ _ _ => rfl,
                .object hmembers hstep (.some hlive) hcalls⟩

end Engines

end Engine
end KnotAtlas
