import KnotAtlas.Cli.Program
import KnotAtlas.Proofs.Atlas.Integrity

/-!
How runs of commands end. The outcome of a run is that of its parts in turn, whatever they print and
log, and what it prints is what they print as far as it goes. Loading ends with an atlas that holds
the story, unless something given to it cannot be used; of the source files only those that are no
UTF-8 text end it.
-/

namespace KnotAtlas.Cli

namespace Run

variable {α β : Type}

@[simp] theorem outcome_pure (a : α) : (pure a : Run α).outcome = .ok a := rfl

theorem outcome_bind (x : Run α) (f : α → Run β) :
    (x >>= f).outcome = x.outcome >>= fun a => (f a).outcome := by
  change (andThen x f).outcome = _
  rw [andThen]
  cases x.outcome with
  | error s => rfl
  | ok a => rfl

theorem outcome_bind_ok {x : Run α} {a : α} (h : x.outcome = .ok a) (f : α → Run β) :
    (x >>= f).outcome = (f a).outcome := by
  rw [outcome_bind, h]
  rfl

theorem outcome_bind_error {x : Run α} {s : Stop} (h : x.outcome = .error s) (f : α → Run β) :
    (x >>= f).outcome = .error s := by
  rw [outcome_bind, h]
  rfl

@[simp] theorem outcome_say_bind (line : String) (f : Unit → Run β) :
    (say line >>= f).outcome = (f ()).outcome :=
  outcome_bind_ok rfl f

@[simp] theorem outcome_ofLogged_bind (x : Logged α) (f : α → Run β) :
    (ofLogged x >>= f).outcome = (f x.value).outcome :=
  outcome_bind_ok rfl f

@[simp] theorem outcome_refuse (line : String) : (refuse line : Run α).outcome = .error .refused :=
  rfl

theorem outcome_forM {f : α → Run Unit} (h : ∀ a, (f a).outcome = .ok ()) (as : List α) :
    (as.forM f).outcome = .ok () := by
  induction as with
  | nil => rfl
  | cons a rest ih =>
      change (f a >>= fun _ => rest.forM f).outcome = _
      rw [outcome_bind_ok (h a)]
      exact ih

theorem printed_bind_ok {x : Run α} {a : α} (h : x.outcome = .ok a) (f : α → Run β) :
    (x >>= f).printed = x.printed ++ (f a).printed := by
  change (andThen x f).printed = _
  rw [printed, andThen, h]
  exact List.filterMap_append

theorem printed_bind_error {x : Run α} {s : Stop} (h : x.outcome = .error s) (f : α → Run β) :
    (x >>= f).printed = x.printed := by
  change (andThen x f).printed = _
  rw [printed, andThen, h]
  rfl

/-- Whether a run ends with a result and prints nothing on the way. -/
structure Yields (x : Run α) (a : α) : Prop where
  outcome : x.outcome = .ok a
  printed : x.printed = []

theorem Yields.bind {x : Run α} {a : α} {b : β} {f : α → Run β} (h : x.Yields a)
    (hnext : (f a).Yields b) : (x >>= f).Yields b where
  outcome := (outcome_bind_ok h.outcome f).trans hnext.outcome
  printed := by rw [printed_bind_ok h.outcome, h.printed, hnext.printed, List.append_nil]

theorem Yields.outcome_bind {x : Run α} {a : α} (h : x.Yields a) (f : α → Run β) :
    (x >>= f).outcome = (f a).outcome :=
  outcome_bind_ok h.outcome f

theorem Yields.printed_bind {x : Run α} {a : α} (h : x.Yields a) (f : α → Run β) :
    (x >>= f).printed = (f a).printed := by
  rw [printed_bind_ok h.outcome, h.printed, List.nil_append]

end Run

variable {w : World}

theorem loadSettings_outcome {config : Option String} {settings : Settings}
    (h : w.settings config = .ok settings) :
    (loadSettings w config).outcome = .ok settings := by
  unfold loadSettings
  rw [h]
  dsimp only
  cases settings.debug.isOn with
  | true => rfl
  | false => rfl

/-- Whether a file can be read and holds a document. -/
def World.HoldsDocument (w : World) (path : String) (document : Value) : Prop :=
  ∃ bytes, w.tree.read path = .ok bytes ∧ (Story.Source.bytes bytes).load = .ok document

theorem readStory_outcome {path : String} {document : Value} (h : w.HoldsDocument path document) :
    (readStory w path).outcome = .ok document := by
  obtain ⟨bytes, hread, hload⟩ := h
  unfold readStory
  rw [hread]
  dsimp only
  rw [hload]
  rfl

/-- Whether a file can be read and is no UTF-8 text. -/
def World.Undecodable (w : World) (path : String) : Prop :=
  ∃ fault, w.tree.readText path = .error (.notUtf8 fault)

/-- A source file changes the scans of an atlas and nothing else; only a file that is no UTF-8 text
ends the run. -/
theorem addSource_outcome (w : World) (a : Atlas Seconds) (path : String) :
    (∃ fault, w.tree.readText path = .error (.notUtf8 fault) ∧
        (addSource w a path).outcome = .error (.escaped (.notUtf8 fault))) ∨
      ¬ w.Undecodable path ∧
        ∃ sources, (addSource w a path).outcome = .ok { a with sources } := by
  unfold addSource World.Undecodable
  cases w.tree.readText path with
  | ok content => exact .inr ⟨fun ⟨_, h⟩ => (by cases h), _, rfl⟩
  | error e =>
      cases e with
      | unreadable fault => exact .inr ⟨fun ⟨_, h⟩ => (by cases h), a.sources, rfl⟩
      | notUtf8 fault => exact .inl ⟨fault, rfl, rfl⟩

theorem addSources_outcome (w : World) (a : Atlas Seconds) (paths : List String) :
    ((∃ path ∈ paths, w.Undecodable path) ∧
        ∃ fault, (addSources w a paths).outcome = .error (.escaped (.notUtf8 fault))) ∨
      (¬ ∃ path ∈ paths, w.Undecodable path) ∧
        ∃ sources, (addSources w a paths).outcome = .ok { a with sources } := by
  induction paths generalizing w a with
  | nil => exact .inr ⟨fun ⟨_, h, _⟩ => List.not_mem_nil h, a.sources, rfl⟩
  | cons path rest ih =>
      rw [addSources]
      obtain ⟨fault, hfault, hstop⟩ | ⟨hdecodes, sources, hadded⟩ := addSource_outcome w a path
      · exact .inl ⟨⟨path, .head rest, fault, hfault⟩, fault, Run.outcome_bind_error hstop _⟩
      · rw [Run.outcome_bind_ok hadded]
        rcases ih (w.later 1) { a with sources } with
          ⟨⟨bad, hbad, hundecodable⟩, hstop⟩ | ⟨hrest, hadded⟩
        · exact .inl ⟨⟨bad, .tail path hbad, hundecodable⟩, hstop⟩
        · refine .inr ⟨?_, hadded⟩
          rintro ⟨bad, hbad, hundecodable⟩
          rcases List.mem_cons.mp hbad with rfl | hbad
          · exact hdecodes hundecodable
          · exact hrest ⟨bad, hbad, hundecodable⟩

theorem addStory_outcome {a : Atlas Seconds} {path : String} {document : Value}
    {built : Story.Built} (hbuilt : (Story.Source.ofValue document).build.value = .ok built)
    (hknots : built.graph.isEmpty = false) :
    (addStory w path document a).outcome =
      .ok (a.accept (w.clock 0) (w.clock 1) built).value.2 := by
  rw [addStory, Run.outcome_ofLogged_bind, Atlas.setStory_value, hbuilt]
  simp only [hknots]
  rfl

/-- Settings that keep a compiled story, and keep it fresh at every reading of the clock. -/
structure KeepsStory (w : World) (settings : Settings) : Prop where
  kept : settings.compiledCache.isOn = true
  fresh : ∀ n, ¬ settings.compiledTtl.span ≤ w.clock n - w.clock 0

/-- Loading ends with an atlas whose story is the one that was read, or at the first source file
that is no UTF-8 text. -/
theorem loadAtlas_outcome {config : Option String} {settings : Settings}
    (hload : w.settings config = .ok settings) (hsettings : KeepsStory w settings)
    {story : String} {document : Value} (hstory : w.HoldsDocument story document)
    {built : Story.Built} (hbuilt : (Story.Source.ofValue document).build.value = .ok built)
    (hknots : built.graph.isEmpty = false) (sources : List String) :
    ((∃ path ∈ sources, w.Undecodable path) ∧
        ∃ fault, (loadAtlas w config story sources).outcome = .error (.escaped (.notUtf8 fault))) ∨
      (¬ ∃ path ∈ sources, w.Undecodable path) ∧
        ∃ a, (loadAtlas w config story sources).outcome = .ok a ∧
          ∀ n, a.freshStory? (w.clock n) = some (CompiledStory.ofBuilt (w.clock 0) built) := by
  rw [loadAtlas, Run.outcome_bind_ok (loadSettings_outcome hload),
    Run.outcome_bind_ok (readStory_outcome hstory),
    Run.outcome_bind_ok (addStory_outcome hbuilt hknots)]
  obtain hstop | ⟨hdecodes, scans, hadded⟩ :=
    addSources_outcome (w.later 2)
      ((Atlas.create settings).accept (w.clock 0) (w.clock 1) built).value.2 sources
  · exact .inl hstop
  · refine .inr ⟨hdecodes, _, hadded, fun n => ?_⟩
    exact Atlas.freshStory?_accept (w.clock 1) hsettings.kept (hsettings.fresh n) hknots

end KnotAtlas.Cli
