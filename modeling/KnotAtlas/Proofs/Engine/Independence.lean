import KnotAtlas.Engine.Scripted
import KnotAtlas.Proofs.Engine.Reading

/-!
Position signals one by one. Each part of a signal rests on one attribute of the state: two states
that agree on that attribute give the same part, whatever else they hold. A part is lost if reading
fails anywhere on its way, for the call stack on the way of any frame; then the signal has one entry
for that part among its errors, and the entries stand in the order in which the parts are read.
-/

namespace KnotAtlas

open Attribute (Fault)

namespace Attribute

/-- Reading attributes one after the other fails, at the first of them or further on. -/
inductive Fails : Attribute → List (List String) → Fault → Prop where
  | here {a : Attribute} {names : List String} {way : List (List String)} {f : Fault} :
    a.read names = .error f → Fails a (names :: way) f
  | later {a b : Attribute} {names : List String} {way : List (List String)} {f : Fault} :
    a.read names = .ok b → Fails b way f → Fails a (names :: way) f

theorem not_fails_nil {a : Attribute} {f : Fault} : ¬ a.Fails [] f := by
  intro h
  cases h

theorem fails_cons_iff {a : Attribute} {names : List String} {way : List (List String)}
    {f : Fault} :
    a.Fails (names :: way) f ↔
      a.read names = .error f ∨ ∃ b, a.read names = .ok b ∧ b.Fails way f := by
  constructor
  · intro h
    cases h with
    | here hread => exact .inl hread
    | later hread hrest => exact .inr ⟨_, hread, hrest⟩
  · intro h
    cases h with
    | inl hread => exact .here hread
    | inr hlater =>
        obtain ⟨b, hread, hrest⟩ := hlater
        exact .later hread hrest

end Attribute

namespace Signal

theorem pointerName_eq_error_iff {owner : Attribute} {f : Fault} :
    pointerName owner = .error f ↔ owner.Fails nameWay f := by
  simp only [pointerName, containerName, nameWay, Except.bind_eq_error_iff,
    Attribute.fails_cons_iff, Attribute.not_fails_nil, and_false, exists_false, or_false, pure,
    Except.pure, reduceCtorEq]

theorem pathString_eq_error_iff {state : Attribute} {f : Fault} :
    pathString state = .error f ↔ state.Fails [pathNames] f := by
  simp only [pathString, Except.bind_eq_error_iff, Attribute.fails_cons_iff,
    Attribute.not_fails_nil, and_false, exists_false, or_false, pure, Except.pure, reduceCtorEq]

/-- Reading frames one after the other fails, at the first whose name cannot be read. -/
inductive FrameFails : List Attribute → Fault → Prop where
  | here {frame : Attribute} {rest : List Attribute} {f : Fault} :
    frame.Fails nameWay f → FrameFails (frame :: rest) f
  | later {frame : Attribute} {rest : List Attribute} {name : Option String} {f : Fault} :
    PointsInto frame name → FrameFails rest f → FrameFails (frame :: rest) f

theorem mapM_pointerName_eq_error_iff {frames : List Attribute} {f : Fault} :
    frames.mapM pointerName = .error f ↔ FrameFails frames f := by
  induction frames with
  | nil =>
      constructor
      · intro h
        cases h
      · intro h
        cases h
  | cons frame rest ih =>
      simp only [List.mapM_cons, Except.bind_eq_error_iff, ih, pure, Except.pure, reduceCtorEq,
        and_false, exists_false, or_false, pointerName_eq_error_iff, pointerName_eq_ok_iff]
      constructor
      · intro h
        cases h with
        | inl hfails => exact .here hfails
        | inr hlater =>
            obtain ⟨name, hname, hrest⟩ := hlater
            exact .later hname hrest
      · intro h
        cases h with
        | here hfails => exact .inl hfails
        | later hname hrest => exact .inr ⟨_, hname, hrest⟩

/-- The frames fail as soon as any of them does. -/
theorem exists_frameFails {frames : List Attribute} {frame : Attribute} {f : Fault}
    (hmem : frame ∈ frames) (hfails : frame.Fails nameWay f) : ∃ g, FrameFails frames g := by
  induction frames with
  | nil => cases hmem
  | cons first rest ih =>
      cases hfirst : pointerName first with
      | error g => exact ⟨g, .here (pointerName_eq_error_iff.mp hfirst)⟩
      | ok name =>
          cases hmem with
          | head =>
              rw [pointerName_eq_error_iff.mpr hfails] at hfirst
              cases hfirst
          | tail _ hmem =>
              obtain ⟨g, hg⟩ := ih hmem
              exact ⟨g, .later (pointerName_eq_ok_iff.mp hfirst) hg⟩

/-- The way from a state to the frames of its call stack. -/
def framesWay : List (List String) :=
  [callStackNames, ["elements"]]

/-- Reading the call stack of a state fails: on the way to the frames, because what stands in their
place is none and cannot be gone through, or at a frame. -/
inductive StackFails (state : Attribute) (f : Fault) : Prop where
  | way : state.Fails framesWay f → StackFails state f
  | parts {elements : Attribute} : state.Shows framesWay elements → elements ≠ .absent →
    elements.parts = .error f → StackFails state f
  | frame {elements : Attribute} {frames : List Attribute} : state.Shows framesWay elements →
    elements.parts = .ok frames → FrameFails frames f → StackFails state f

/-- The names of the frames that an attribute holds, if it is there. -/
def frameNamesIn (elements : Attribute) : Except Fault (Option (List (Option String))) :=
  match elements with
  | .scalar .null => .ok none
  | elements => elements.parts >>= fun frames => some <$> frames.mapM pointerName

theorem frameNamesIn_of_present {elements : Attribute} (h : elements ≠ .absent) :
    frameNamesIn elements =
      elements.parts >>= fun frames => some <$> frames.mapM pointerName := by
  rw [frameNamesIn]
  exact h

theorem frameNames_of_shows {state elements : Attribute} (h : state.Shows framesWay elements) :
    frameNames state = frameNamesIn elements := by
  obtain ⟨stack, hstack, hrest⟩ := Attribute.shows_cons_iff.mp h
  obtain ⟨found, helements, hfound⟩ := Attribute.shows_cons_iff.mp hrest
  obtain rfl := Attribute.shows_nil_iff.mp hfound
  rw [frameNames, hstack]
  change (stack.read ["elements"] >>= frameNamesIn) = _
  rw [helements]
  rfl

theorem frameNames_of_fails {state : Attribute} {f : Fault} (h : state.Fails framesWay f) :
    frameNames state = .error f := by
  cases h with
  | here hstack =>
      rw [frameNames, hstack]
      rfl
  | @later _ stack _ _ _ hstack hrest =>
      cases hrest with
      | here helements =>
          rw [frameNames, hstack]
          change (stack.read ["elements"] >>= _) = _
          rw [helements]
          rfl
      | later _ hnone => exact absurd hnone Attribute.not_fails_nil

/-- A way is followed to its end or fails. -/
theorem shows_or_fails (a : Attribute) (way : List (List String)) :
    (∃ b, a.Shows way b) ∨ ∃ f, a.Fails way f := by
  induction way generalizing a with
  | nil => exact .inl ⟨a, .here a⟩
  | cons names rest ih =>
      cases hread : a.read names with
      | error f => exact .inr ⟨f, .here hread⟩
      | ok b =>
          cases ih b with
          | inl hshows =>
              obtain ⟨c, hc⟩ := hshows
              exact .inl ⟨c, .next hread hc⟩
          | inr hfails =>
              obtain ⟨f, hf⟩ := hfails
              exact .inr ⟨f, .later hread hf⟩

theorem frameNames_eq_error_iff {state : Attribute} {f : Fault} :
    frameNames state = .error f ↔ StackFails state f := by
  constructor
  · intro h
    cases shows_or_fails state framesWay with
    | inr hfails =>
        obtain ⟨g, hg⟩ := hfails
        rw [frameNames_of_fails hg] at h
        cases h
        exact .way hg
    | inl hshows =>
        obtain ⟨elements, helements⟩ := hshows
        rw [frameNames_of_shows helements] at h
        by_cases hpresent : elements = .absent
        · rw [hpresent] at h
          cases h
        · rw [frameNamesIn_of_present hpresent, Except.bind_eq_error_iff] at h
          cases h with
          | inl hparts => exact .parts helements hpresent hparts
          | inr hframes =>
              obtain ⟨frames, hparts, hread⟩ := hframes
              rw [Except.map_eq_error_iff, mapM_pointerName_eq_error_iff] at hread
              exact .frame helements hparts hread
  · intro h
    cases h with
    | way hway => exact frameNames_of_fails hway
    | parts hshows hpresent hparts =>
        rw [frameNames_of_shows hshows, frameNamesIn_of_present hpresent, hparts]
        rfl
    | @frame elements frames hshows hparts hfails =>
        have hpresent : elements ≠ .absent := by
          intro heq
          rw [heq] at hparts
          cases hparts
        rw [frameNames_of_shows hshows, frameNamesIn_of_present hpresent,
          Except.bind_eq_error_iff]
        refine .inr ⟨frames, hparts, ?_⟩
        rw [Except.map_eq_error_iff, mapM_pointerName_eq_error_iff]
        exact hfails

/-- The parts of a signal. -/
inductive Part where
  | frames
  | pointer
  | path
  deriving DecidableEq, Repr

namespace Part

/-- The parts in the order in which they are read. -/
def all : List Part := [.frames, .pointer, .path]

/-- The name of a part in errors. -/
def key : Part → String
  | .frames => "frame_names"
  | .pointer => "pointer_name"
  | .path => "path_string"

/-- The spellings of the attribute of the state that a part rests on. -/
def names : Part → List String
  | .frames => callStackNames
  | .pointer => pointerNames
  | .path => pathNames

/-- Whether two signals say the same in a part. -/
def Same (s t : Signal) : Part → Prop
  | .frames => s.frames = t.frames
  | .pointer => s.pointer = t.pointer
  | .path => s.path = t.path

/-- Whether a signal says nothing in a part. -/
def Blank (s : Signal) : Part → Prop
  | .frames => s.frames = none
  | .pointer => s.pointer = none
  | .path => s.path = none

/-- Whether reading a part of a state fails. -/
def Fails (state : Attribute) (f : Fault) : Part → Prop
  | .frames => StackFails state f
  | .pointer => state.Fails nameWay f
  | .path => state.Fails [pathNames] f

/-- The fault of an outcome. -/
def faultOf {α : Type} : Except Fault α → Option Fault
  | .ok _ => none
  | .error f => some f

/-- The fault with which reading a part of a state fails. -/
def fault? (state : Attribute) : Part → Option Fault
  | .frames => faultOf (frameNames state)
  | .pointer => faultOf (pointerName state)
  | .path => faultOf (pathString state)

theorem faultOf_eq_some_iff {α : Type} {part : Except Fault α} {f : Fault} :
    faultOf part = some f ↔ part = .error f := by
  cases part with
  | ok a =>
      constructor
      · intro h
        cases h
      · intro h
        cases h
  | error g => simp [faultOf]

theorem fault?_eq_some_iff {state : Attribute} {f : Fault} (p : Part) :
    p.fault? state = some f ↔ p.Fails state f := by
  cases p with
  | frames => exact faultOf_eq_some_iff.trans frameNames_eq_error_iff
  | pointer => exact faultOf_eq_some_iff.trans pointerName_eq_error_iff
  | path => exact faultOf_eq_some_iff.trans pathString_eq_error_iff

/-- The faults of a state in some parts, each with its part. -/
def faults (state : Attribute) (parts : List Part) : List (Part × Fault) :=
  parts.filterMap fun p => (p.fault? state).map (p, ·)

theorem mem_all (p : Part) : p ∈ all := by
  cases p <;> decide

theorem mem_faults_iff {state : Attribute} {p : Part} {f : Fault} :
    (p, f) ∈ faults state all ↔ p.Fails state f := by
  rw [← fault?_eq_some_iff, faults, List.mem_filterMap]
  constructor
  · intro h
    obtain ⟨q, -, hq⟩ := h
    obtain ⟨g, hg, heq⟩ := Option.map_eq_some_iff.mp hq
    cases heq
    exact hg
  · intro h
    exact ⟨p, p.mem_all, by rw [h]; rfl⟩

/-- Each part has one fault at most, and they stand in the order of the parts. -/
theorem faults_sublist (state : Attribute) (parts : List Part) :
    ((faults state parts).map (·.1)).Sublist parts := by
  induction parts with
  | nil => exact .slnil
  | cons p rest ih =>
      rw [faults, List.filterMap_cons]
      cases p.fault? state with
      | none => exact ih.cons p
      | some f => exact ih.cons_cons p

theorem same_of_read {s s' : Attribute} {p : Part} (h : s.read p.names = s'.read p.names) :
    p.Same (ofState s).value (ofState s').value := by
  cases p with
  | frames =>
      have hframes : frameNames s = frameNames s' := by
        rw [frameNames, frameNames]
        exact congrArg (· >>= _) h
      exact congrArg orBlank hframes
  | pointer =>
      have hpointer : pointerName s = pointerName s' := by
        rw [pointerName, pointerName]
        exact congrArg (· >>= _) h
      exact congrArg orBlank hpointer
  | path =>
      have hpath : pathString s = pathString s' := by
        rw [pathString, pathString]
        exact congrArg (· >>= _) h
      exact congrArg orBlank hpath

theorem blank_of_fails {s : Attribute} {f : Fault} {p : Part} (h : p.Fails s f) :
    p.Blank (ofState s).value := by
  cases p with
  | frames => exact congrArg orBlank (frameNames_eq_error_iff.mpr h)
  | pointer => exact congrArg orBlank (pointerName_eq_error_iff.mpr h)
  | path => exact congrArg orBlank (pathString_eq_error_iff.mpr h)

end Part

theorem errors_ofState (state : Attribute) :
    (ofState state).value.errors =
      (Part.faults state Part.all).map fun fault => errorEntry fault.1.key fault.2 := by
  simp only [ofState, Part.faults, Part.all, Part.fault?, List.filterMap_cons, List.filterMap_nil]
  cases frameNames state <;> cases pointerName state <;> cases pathString state <;> rfl

end Signal

namespace StoryEngine

open Signal

theorem signal_of_state {ε σ : Type} [StoryEngine ε σ] {e : ε} {s : Attribute}
    (h : state e = .ok s) : signal e = ofState s := by
  rw [signal, h]

/-- Two engines whose states agree on what a part of the signal rests on, under either spelling, have
that part of the signal in common, whatever else they hold. A part whose reading fails is blank, and
the call stack's fails with any of its frames. The errors hold one entry for each part that fails, in
the order of the parts, and nothing else. -/
theorem parts_independent {ε σ ε' σ' : Type} [StoryEngine ε σ] [StoryEngine ε' σ'] {e : ε} {e' : ε'}
    {s s' : Attribute} (hs : state e = .ok s) (hs' : state e' = .ok s') :
    let read := (signal e).value
    let read' := (signal e').value
    (∀ p : Part, s.read p.names = s'.read p.names → p.Same read read') ∧
    (∀ (p : Part) f, p.Fails s f → p.Blank read) ∧
    (∀ elements frames frame f, s.Shows framesWay elements → elements.parts = .ok frames →
      frame ∈ frames → frame.Fails nameWay f → ∃ g, Part.frames.Fails s g) ∧
    ∃ faults : List (Part × Fault),
      read.errors = faults.map (fun fault => errorEntry fault.1.key fault.2) ∧
      (faults.map (·.1)).Sublist Part.all ∧
      ∀ p f, (p, f) ∈ faults ↔ p.Fails s f := by
  rw [signal_of_state hs, signal_of_state hs']
  intro read read'
  refine ⟨fun p => Part.same_of_read, fun p f => Part.blank_of_fails, ?_, Part.faults s Part.all,
    errors_ofState s, Part.faults_sublist s Part.all, fun p f => Part.mem_faults_iff⟩
  intro elements frames frame f hshows hparts hmem hfails
  obtain ⟨g, hg⟩ := exists_frameFails hmem hfails
  exact ⟨g, .frame hshows hparts hg⟩

/-- A pointer into a container with a name. -/
def pointerInto (name : String) : Attribute :=
  .object [("container", .object [("name", .scalar (.str name))])]

/-- The state of an engine that has a pointer alone. -/
def pointedState : Attribute.Members :=
  [("currentPointer", pointerInto "cave")]

/-- A state with that pointer under its other spelling. The newest of its frames cannot be read, and
neither can its path. -/
def frayedState : Attribute.Members :=
  [("call_stack", .object [("elements", .list
      [.object [("currentPointer", pointerInto "shop")],
        .object [("current_pointer", .object [("container", .raises "no container")])]])]),
    ("current_pointer", pointerInto "cave"), ("currentPathString", .raises "no path")]

theorem frayed_independent :
    let read := (signal (Engine.object { members := [], live := some frayedState })).value
    let read' := (signal (Engine.object { members := [], live := some pointedState })).value
    Part.pointer.Same read read' ∧ Part.frames.Blank read ∧ Part.path.Blank read ∧
      read.pointer = some "cave" ∧
      read.errors = ["frame_names: no container", "path_string: no path"] := by
  have hfrayed : state (Engine.object { members := [], live := some frayedState }) =
      .ok (.object frayedState) := rfl
  have hpointed : state (Engine.object { members := [], live := some pointedState }) =
      .ok (.object pointedState) := rfl
  obtain ⟨hsame, hblank, hframes, -⟩ := parts_independent hfrayed hpointed
  refine ⟨hsame .pointer rfl, ?_, ?_, rfl, rfl⟩
  · have hnewest : Attribute.Fails
        (.object [("current_pointer", .object [("container", .raises "no container")])]) nameWay
        (.raised "no container") :=
      .later rfl (.here rfl)
    obtain ⟨g, hg⟩ := hframes _ _ _ _ (.next rfl (.next rfl (.here _))) rfl
      (.tail _ (.head _)) hnewest
    exact hblank .frames g hg
  · exact hblank .path (.raised "no path") (.here rfl)

end StoryEngine
end KnotAtlas
