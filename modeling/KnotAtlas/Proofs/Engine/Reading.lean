import KnotAtlas.Engine.Signal
import KnotAtlas.Proofs.Except

/-!
What a position signal says of an engine. A reading follows attributes from one object to the next
and fails where one of them raises. Each part of the signal is there exactly if its own way through
the attributes can be followed to the end, so a fault on the way to one part blanks that part alone.
All the ways begin at the state.
-/

namespace KnotAtlas

namespace Attribute

/-- What an attribute shows when attributes are read one after the other, each by its spellings. -/
inductive Shows : Attribute → List (List String) → Attribute → Prop where
  | here (a : Attribute) : Shows a [] a
  | next {a b c : Attribute} {names : List String} {way : List (List String)} :
    a.read names = .ok b → Shows b way c → Shows a (names :: way) c

theorem shows_nil_iff {a c : Attribute} : a.Shows [] c ↔ c = a := by
  constructor
  · rintro ⟨⟩
    rfl
  · rintro rfl
    exact .here c

theorem shows_cons_iff {a c : Attribute} {names : List String} {way : List (List String)} :
    a.Shows (names :: way) c ↔ ∃ b, a.read names = .ok b ∧ b.Shows way c := by
  constructor
  · rintro (- | ⟨hread, hshows⟩)
    exact ⟨_, hread, hshows⟩
  · rintro ⟨b, hread, hshows⟩
    exact .next hread hshows

theorem Shows.unique {a b c : Attribute} {way : List (List String)} (hb : a.Shows way b)
    (hc : a.Shows way c) : b = c := by
  induction hb with
  | here a => exact (shows_nil_iff.mp hc).symm
  | next hread _ ih =>
      obtain ⟨next, hnext, hrest⟩ := shows_cons_iff.mp hc
      rw [hread] at hnext
      cases hnext
      exact ih hrest

end Attribute

namespace Signal

/-- The way from an object to the name of the container that it points into. -/
def nameWay : List (List String) :=
  [pointerNames, ["container"], ["name"]]

/-- Whether an object points into a container, of the given name if that is a text. -/
def PointsInto (owner : Attribute) (name : Option String) : Prop :=
  ∃ a, owner.Shows nameWay a ∧ a.text? = name

theorem PointsInto.unique {owner : Attribute} {name other : Option String}
    (h : PointsInto owner name) (hother : PointsInto owner other) : name = other := by
  obtain ⟨a, ha, rfl⟩ := h
  obtain ⟨b, hb, rfl⟩ := hother
  rw [ha.unique hb]

theorem pointerName_eq_ok_iff {owner : Attribute} {name : Option String} :
    pointerName owner = .ok name ↔ PointsInto owner name := by
  simp only [pointerName, containerName, PointsInto, nameWay, Except.bind_eq_ok_iff,
    Attribute.shows_cons_iff, Attribute.shows_nil_iff]
  constructor
  · rintro ⟨pointer, hpointer, container, hcontainer, a, ha, hname⟩
    cases hname
    exact ⟨a, ⟨pointer, hpointer, container, hcontainer, a, ha, rfl⟩, rfl⟩
  · rintro ⟨a, ⟨pointer, hpointer, container, hcontainer, _, ha, rfl⟩, rfl⟩
    exact ⟨pointer, hpointer, container, hcontainer, a, ha, rfl⟩

theorem mapM_pointerName_iff {frames : List Attribute} {names : List (Option String)} :
    frames.mapM pointerName = .ok names ↔ List.Forall₂ PointsInto frames names := by
  rw [Except.mapM_eq_ok_iff]
  simp only [pointerName_eq_ok_iff]

/-- Frames are read if what stands in their place can be gone through and each shows its name. -/
theorem frameNames_eq_some_iff {state : Attribute} {names : List (Option String)} :
    frameNames state = .ok (some names) ↔
      ∃ elements, state.Shows [callStackNames, ["elements"]] elements ∧
        ∃ frames, elements.parts = .ok frames ∧ List.Forall₂ PointsInto frames names := by
  simp only [frameNames, Except.bind_eq_ok_iff, Attribute.shows_cons_iff, Attribute.shows_nil_iff]
  constructor
  · rintro ⟨stack, hstack, elements, helements, h⟩
    split at h
    · cases h
    · obtain ⟨frames, hparts, hread⟩ := Except.bind_eq_ok_iff.mp h
      obtain ⟨found, hfound, heq⟩ := Except.map_eq_ok_iff.mp hread
      cases heq
      exact ⟨elements, ⟨stack, hstack, elements, helements, rfl⟩, frames, hparts,
        mapM_pointerName_iff.mp hfound⟩
  · rintro ⟨elements, ⟨stack, hstack, _, helements, rfl⟩, frames, hparts, hread⟩
    refine ⟨stack, hstack, elements, helements, ?_⟩
    -- Null stands for no frames; like every scalar it cannot be gone through.
    split
    · cases hparts
    · exact Except.bind_eq_ok_iff.mpr ⟨frames, hparts,
        Except.map_eq_ok_iff.mpr ⟨names, mapM_pointerName_iff.mpr hread, rfl⟩⟩

theorem pathString_eq_some_iff {state : Attribute} {path : String} :
    pathString state = .ok (some path) ↔
      ∃ a, state.Shows [pathNames] a ∧ a.text? = some path ∧ path ≠ "" ∧ path ≠ "null" := by
  have hkept : ∀ a : Attribute, a.text?.filter (fun s => s != "" && s != "null") = some path ↔
      a.text? = some path ∧ path ≠ "" ∧ path ≠ "null" := by
    intro a
    rw [Option.filter_eq_some_iff, Bool.and_eq_true, bne_iff_ne, bne_iff_ne]
  simp only [pathString, Except.bind_eq_ok_iff, Attribute.shows_cons_iff, Attribute.shows_nil_iff]
  constructor
  · rintro ⟨a, ha, h⟩
    exact ⟨a, ⟨a, ha, rfl⟩, (hkept a).mp (Except.ok.inj h)⟩
  · rintro ⟨a, ⟨_, ha, rfl⟩, h⟩
    exact ⟨a, ha, congrArg Except.ok ((hkept a).mpr h)⟩

/-- What a signal says of an engine, part by part. -/
structure Reads {ε σ : Type} [StoryEngine ε σ] (s : Signal) (e : ε) : Prop where
  frames : ∀ names, s.frames = some names ↔
    ∃ elements,
      (StoryEngine.attributes e).Shows [StoryEngine.stateNames, callStackNames, ["elements"]]
        elements ∧
      ∃ frames, elements.parts = .ok frames ∧ List.Forall₂ PointsInto frames names
  pointer : ∀ name, s.pointer = some name ↔
    ∃ a, (StoryEngine.attributes e).Shows (StoryEngine.stateNames :: nameWay) a ∧
      a.text? = some name
  path : ∀ path, s.path = some path ↔
    ∃ a, (StoryEngine.attributes e).Shows [StoryEngine.stateNames, pathNames] a ∧
      a.text? = some path ∧ path ≠ "" ∧ path ≠ "null"

theorem orBlank_eq_some_iff {α : Type} {part : Except Attribute.Fault (Option α)} {found : α} :
    orBlank part = some found ↔ part = .ok (some found) := by
  cases part with
  | error f => exact ⟨fun h => (by cases h), fun h => (by cases h)⟩
  | ok a => exact ⟨congrArg Except.ok, Except.ok.inj⟩

end Signal

namespace StoryEngine

open Signal

variable {ε σ : Type} [StoryEngine ε σ]

theorem signal_parts (e : ε) :
    (signal e).value.frames = orBlank (state e >>= frameNames) ∧
      (signal e).value.pointer = orBlank (state e >>= pointerName) ∧
      (signal e).value.path = orBlank (state e >>= pathString) := by
  rw [signal]
  cases state e with
  | error f => exact ⟨rfl, rfl, rfl⟩
  | ok state => exact ⟨rfl, rfl, rfl⟩

/-- A part that is read by following a way from the state is read from the engine by the way to the
state and on. -/
theorem orBlank_state_iff {α : Type} {part : Attribute → Except Attribute.Fault (Option α)}
    {found : α} {way : List (List String)} {P : Attribute → Prop}
    (h : ∀ state, part state = .ok (some found) ↔ ∃ a, state.Shows way a ∧ P a) (e : ε) :
    orBlank (state e >>= part) = some found ↔
      ∃ a, (attributes e).Shows (stateNames :: way) a ∧ P a := by
  rw [orBlank_eq_some_iff, Except.bind_eq_ok_iff]
  simp only [h, Attribute.shows_cons_iff]
  constructor
  · rintro ⟨state, hstate, a, hshows, ha⟩
    exact ⟨a, ⟨state, hstate, hshows⟩, ha⟩
  · rintro ⟨a, ⟨state, hstate, hshows⟩, ha⟩
    exact ⟨state, hstate, a, hshows, ha⟩

theorem signal_reads (e : ε) : (signal e).value.Reads e := by
  obtain ⟨hframes, hpointer, hpath⟩ := signal_parts e
  refine ⟨fun names => ?_, fun name => ?_, fun path => ?_⟩
  · rw [hframes]
    exact orBlank_state_iff (fun _ => frameNames_eq_some_iff) e
  · rw [hpointer]
    exact orBlank_state_iff (fun _ => pointerName_eq_ok_iff) e
  · rw [hpath]
    exact orBlank_state_iff (fun _ => pathString_eq_some_iff) e

end StoryEngine
end KnotAtlas
