import KnotAtlas.Proofs.Cli.Console
import KnotAtlas.Proofs.Cli.Launch
import KnotAtlas.Proofs.Cli.Outcome
import KnotAtlas.Proofs.Except
import KnotAtlas.Proofs.Integrity.Verdict

/-!
Validation from a story's document to an exit code. The report of an atlas that holds a fresh story
is that of the story's graph, and the command tells it and ends by it. It also ends early, whatever
the report would say, at a source file that is no UTF-8 text, and at a line that the console can
make nothing of.
-/

namespace KnotAtlas.Cli

/-- Whether a report fails a validation: a check failed, or one warned where that counts. -/
def Fails (r : Integrity.Report) (strict : Bool) : Prop :=
  r.isValid = false ∨ strict = true ∧ ∃ c ∈ r.checks, c.severity = .warn

section Telling

theorem sayAdvice_outcome (suggestions : List String) :
    (sayAdvice suggestions).outcome = .ok () := by
  rw [sayAdvice]
  split
  · rfl
  · rw [Run.outcome_say_bind, Run.outcome_say_bind]
    exact Run.outcome_forM (fun _ => rfl) _

theorem sayUnlocated_outcome (knots : List String) : (sayUnlocated knots).outcome = .ok () := by
  rw [sayUnlocated]
  split
  · rfl
  · rfl

/-- What a validation prints on the way does not matter to how it ends. -/
theorem validate_outcome (w : World) (a : Atlas Seconds) (story : String) (sources : List String)
    (strict : Bool) :
    (validate w a story sources strict).outcome =
      if !(w.integrity a).value.isValid || (strict && !(w.integrity a).value.warnings.isEmpty)
      then .error .refused else .ok () := by
  rw [validate, Run.outcome_ofLogged_bind, Run.outcome_say_bind, Run.outcome_say_bind,
    Run.outcome_bind_ok (Run.outcome_forM (fun _ => rfl) _),
    Run.outcome_bind_ok (sayAdvice_outcome _)]
  dsimp only
  rw [Run.outcome_bind_ok (sayUnlocated_outcome _), Run.outcome_say_bind]
  split
  · rfl
  · rfl

theorem validate_ends (w : World) (a : Atlas Seconds) (story : String) (sources : List String)
    (strict : Bool) :
    (validate w a story sources strict).outcome = .error .refused ∧
        Fails (w.integrity a).value strict ∨
      (validate w a story sources strict).outcome = .ok () ∧
        ¬ Fails (w.integrity a).value strict := by
  have hfails : (!(w.integrity a).value.isValid ||
      (strict && !(w.integrity a).value.warnings.isEmpty)) = true ↔
        Fails (w.integrity a).value strict := by
    rw [Fails, ← Integrity.Report.warnings_ne_nil_iff]
    simp
  rw [validate_outcome, ← hfails]
  split
  · rename_i h
    exact .inl ⟨rfl, h⟩
  · rename_i h
    exact .inr ⟨rfl, h⟩

theorem World.allKnots_of_freshStory? {w : World} {a : Atlas Seconds}
    {story : CompiledStory Seconds} (h : a.freshStory? (w.clock 0) = some story) :
    w.allKnots a = story.knots := by
  rw [World.allKnots, h]

/-- A story that is fresh whenever the clock is read is reported on as it was built. -/
theorem World.integrity_value {w : World} {a : Atlas Seconds} {since : Seconds}
    {built : Story.Built}
    (h : ∀ n, a.freshStory? (w.clock n) = some (CompiledStory.ofBuilt since built)) :
    (w.integrity a).value = Integrity.ofBuilt built := by
  have hknots : (w.later 2).allKnots a = (CompiledStory.ofBuilt since built).knots :=
    World.allKnots_of_freshStory? (h (2 + 0))
  exact Atlas.integrity_value (h 0) (h 1) hknots

end Telling

section Ending

variable {source : Story.Source} {built : Story.Built} {w : World} {words : List String}
  {config : Option String} {settings : Settings} {story : String} {sources : List String}
  {strict : Bool} {document : Value}

/-- A validation ends with a failure that no command has words for: at a source file that is no
text, or at a line that the console refuses. -/
inductive Breaks (w : World) (c : Console) (words sources : List String) : Prop where
  | undecodable (path : String) (mem : path ∈ sources) (bad : w.Undecodable path)
  | refused (refuses : c.Refuses (plan w words).printed)

theorem breaks_iff {c : Console} :
    Breaks w c words sources ↔
      (∃ path ∈ sources, w.Undecodable path) ∨ c.Refuses (plan w words).printed := by
  constructor
  · rintro (⟨path, hpath, hbad⟩ | hrefuses)
    · exact .inl ⟨path, hpath, hbad⟩
    · exact .inr hrefuses
  · rintro (⟨path, hpath, hbad⟩ | hrefuses)
    · exact .undecodable path hpath hbad
    · exact .refused hrefuses

/-- A program that validates a story ends by its report, or breaks. -/
theorem validate_answer (hbuilt : source.build.value = .ok built)
    (hknots : built.graph.isEmpty = false)
    (hlaunch : Launches w words config (.validate story sources strict))
    (hload : w.settings config = .ok settings) (hkeeps : KeepsStory w settings)
    (hholds : w.HoldsDocument story document) (hsource : Story.Source.ofValue document = source)
    (c : Console) :
    ((run w c words).exit = 1 ↔
        Fails (Integrity.ofBuilt built) strict ∨ Breaks w c words sources) ∧
      ((run w c words).exit = 0 ↔
        ¬ (Fails (Integrity.ofBuilt built) strict ∨ Breaks w c words sources)) ∧
      ((run w c words).escape.isSome ↔ Breaks w c words sources) := by
  obtain ⟨setup, hplan⟩ := plan_of_launches hlaunch
  rw [run, breaks_iff, hplan, Plan.answer, Plan.printed, Answer.exit_ofRun_eq_one_iff,
    Answer.exit_ofRun_eq_zero_iff, Answer.isSome_escape_ofRun_iff, Command.execute]
  cases hsource
  generalize hrefused : c.Refuses _ = refused
  obtain ⟨hbad, fault, hstop⟩ | ⟨hdecodes, a, hloaded, hfresh⟩ :=
    loadAtlas_outcome hload hkeeps hholds hbuilt hknots sources
  · rw [Run.outcome_bind_error hstop]
    simp [Answer.exitOf, Answer.escapeOf, hbad]
  · rw [Run.outcome_bind_ok hloaded]
    have hends := validate_ends (w.later (loadReadings sources)) a story sources strict
    rw [World.integrity_value fun n => hfresh (loadReadings sources + n)] at hends
    rcases hends with ⟨hend, hfails⟩ | ⟨hend, hfails⟩
    · rw [hend]
      simp [Answer.exitOf, Answer.escapeOf, hfails, hdecodes]
    · rw [hend]
      simp [Answer.exitOf, Answer.escapeOf, hfails, hdecodes]

/-- Validating a story with knots, while its compiled form is kept and fresh. The report says of the
story's graph what it ought to. An atlas that was handed the story holds it until its time is over,
and every atlas that holds it gives this report, as long as it is fresh whenever the clock is read.
The command ends with exit code 1 if the report fails, or warns where that counts, and else with 0;
but it breaks, with 1 as well, at a source file that is no UTF-8 text, and at a line in which the
console takes part of a name for a mark that makes no sense. -/
theorem validation_verdict (hbuilt : source.build.value = .ok built)
    (hknots : built.graph.knots ≠ []) :
    Integrity.Verdict built.graph built.diagnostics.dangling (Integrity.ofBuilt built) ∧
    (∀ (a : Atlas Seconds) (now since later : Seconds), a.settings.compiledCache.isOn = true →
      ¬ a.compiledTtl ≤ now - since →
      (a.afterStory since later source).freshStory? now =
        some (CompiledStory.ofBuilt since built)) ∧
    (∀ (a : Atlas Seconds) (now noted asked since : Seconds),
      (∀ t ∈ [now, noted, asked], a.storyMisfit? t = none) →
      (∀ t ∈ [now, noted, asked], a.freshStory? t = some (CompiledStory.ofBuilt since built)) →
      (a.tryIntegrity now noted asked).value = .ok (Integrity.ofBuilt built)) ∧
    ∀ (w : World) (c : Console) (words : List String) (config : Option String)
      (settings : Settings) (story : String) (sources : List String) (strict : Bool)
      (document : Value),
      Launches w words config (.validate story sources strict) →
      w.settings config = .ok settings → KeepsStory w settings →
      w.HoldsDocument story document → Story.Source.ofValue document = source →
      ((run w c words).exit = 1 ↔
        Fails (Integrity.ofBuilt built) strict ∨ Breaks w c words sources) ∧
      ((run w c words).exit = 0 ↔
        ¬ (Fails (Integrity.ofBuilt built) strict ∨ Breaks w c words sources)) ∧
      ((run w c words).escape.isSome ↔ Breaks w c words sources) := by
  have hfull : built.graph.isEmpty = false := by simpa [Graph.isEmpty] using hknots
  refine ⟨?_, ?_, ?_, ?_⟩
  · exact Integrity.verdict_inspect built.graph built.diagnostics built.graph.knots hknots
  · intro a now since later hkept hfresh
    exact Atlas.freshStory?_afterStory later hbuilt hfull hkept hfresh
  · intro a now noted asked since hfits hfresh
    exact Atlas.tryIntegrity_value hfits hfresh
  · intro w c words config settings story sources strict document hlaunch hload hkeeps hholds
      hsource
    exact validate_answer hbuilt hfull hlaunch hload hkeeps hholds hsource c

end Ending

/-- The text of a story with two knots, in bytes. -/
def twoKnotsBytes : List UInt8 :=
  ("\x7b\"root\": [null, \x7b\"A\": [\"^on\", \x7b\"->\": \"B\"\x7d], \"B\": [\"^end\"]\x7d]\x7d".toList).map
    fun c => UInt8.ofNat c.toNat

def twoKnotsBuilt : Story.Built :=
  ⟨⟨["A", "B"], [⟨"A", "B", "on", false⟩]⟩, {}⟩

/-- A working directory with that story and a source file that is no text; a second goes by after
the clock was read for the first time. -/
def twoKnots : World :=
  { tree := Files.ofList [("s.json", .file twoKnotsBytes), ("bad.ink", .file [0x3d, 0xff])]
    env := []
    read := fun text => (Yaml.read text).mapError Yaml.Fault.message?
    clock := fun n => if n = 0 then .whole 0 else .whole 1 }

theorem twoKnots_document : ∃ document, twoKnots.HoldsDocument "s.json" document ∧
    (Story.Source.ofValue document).build.value = .ok twoKnotsBuilt := by
  have hread : twoKnots.tree.read "s.json" = .ok twoKnotsBytes := by decide +kernel
  have hload : ((Story.Source.bytes twoKnotsBytes).load.toOption.map
      fun document => (Story.Source.ofValue document).build.value) = some (.ok twoKnotsBuilt) := by
    decide +kernel
  obtain ⟨document, hdocument, hbuilt⟩ := Option.map_eq_some_iff.mp hload
  exact ⟨document, ⟨twoKnotsBytes, hread, Except.eq_ok_of_toOption hdocument⟩, hbuilt⟩

theorem twoKnots_settings :
    ∃ settings, twoKnots.settings none = .ok settings ∧ KeepsStory twoKnots settings := by
  have hload : ((twoKnots.settings none).toOption.any fun settings =>
      settings.compiledCache.isOn && [Seconds.whole 0, .whole 1].all fun now =>
        !decide (settings.compiledTtl.span ≤ now - .whole 0)) = true := by
    decide +kernel
  obtain ⟨settings, hsettings, hkeeps⟩ := Option.any_eq_true _ _ |>.mp hload
  simp only [Bool.and_eq_true, List.all_cons, List.all_nil, Bool.not_eq_true',
    decide_eq_false_iff_not, and_true] at hkeeps
  obtain ⟨hkept, hstart, hlater⟩ := hkeeps
  refine ⟨settings, Except.eq_ok_of_toOption hsettings, hkept, fun n => ?_⟩
  cases n with
  | zero => exact hstart
  | succ n => exact hlater

theorem twoKnots_launches {sources : List String} (h : haveNull ("s.json" :: sources) = false)
    (strict : Bool) :
    Launches twoKnots ("validate" :: "s.json" :: validateOptions sources strict) none
      (.validate "s.json" sources strict) :=
  launches_validate (by decide +kernel) rfl h strict

theorem twoKnots_undecodable : twoKnots.Undecodable "bad.ink" :=
  ⟨⟨1, 2, 0xff, .invalidStart⟩, by decide +kernel⟩

def linearLine : String :=
  "  [yellow]![/yellow] Branching: Story appears quite linear (average 0.50 connections per knot)"

/-- What is told of the story, with its marks. -/
theorem twoKnots_printed (hlaunch : Launches twoKnots ["validate", "s.json"] none
    (.validate "s.json" [] false)) :
    (plan twoKnots ["validate", "s.json"]).printed =
      [.markup "[bold]Story integrity:[/bold] s.json", .markup "",
        .markup "  [green]✓[/green] Entry points: Entry points: A",
        .markup "  [green]✓[/green] Reachability: All knots reachable",
        .markup "  [yellow]![/yellow] Dead ends: Found 1 potential dead ends: B",
        .markup linearLine,
        .markup "", .markup "[bold]Suggestions[/bold]", .plain ("  • " ++ Integrity.openEndAdvice),
        .markup "", .markup "[green]Validation passed:[/green] 2 warnings, 2 passed"] := by
  obtain ⟨setup, hplan⟩ := plan_of_launches hlaunch
  rw [hplan, Plan.printed]
  decide +kernel

/-- The terminal has nothing to say against that. -/
theorem twoKnots_taken (hlaunch : Launches twoKnots ["validate", "s.json"] none
    (.validate "s.json" [] false)) :
    ¬ terminal.Refuses (plan twoKnots ["validate", "s.json"]).printed := by
  rw [twoKnots_printed hlaunch]
  refine Console.not_refuses ?_
  simp only [List.forall_mem_cons]
  exact ⟨fault?_terminal_ofList rfl, fault?_terminal_ofList rfl, fault?_terminal_ofList rfl,
    fault?_terminal_ofList rfl, fault?_terminal_ofList rfl, fault?_terminal_ofList rfl,
    fault?_terminal_ofList rfl, fault?_terminal_ofList rfl, rfl, fault?_terminal_ofList rfl,
    fault?_terminal_ofList rfl, List.forall_mem_nil _⟩

/-- The story has an entry point, so its report is valid; it has an open end, which counts only
where warnings do. -/
theorem twoKnots_validated :
    (Integrity.ofBuilt twoKnotsBuilt).isValid = true ∧
      (run twoKnots terminal ["validate", "s.json"]).exit = 0 ∧
      (run twoKnots terminal ["validate", "s.json", "--strict"]).exit = 1 := by
  obtain ⟨document, hholds, hbuilt⟩ := twoKnots_document
  obtain ⟨settings, hload, hkeeps⟩ := twoKnots_settings
  obtain ⟨-, -, -, hrun⟩ := validation_verdict hbuilt (by decide)
  have hpaths : haveNull ["s.json"] = false := by
    rw [haveNull_eq]
    decide +kernel
  have hvalid : (Integrity.ofBuilt twoKnotsBuilt).isValid = true := by decide +kernel
  have hwarns : ∃ c ∈ (Integrity.ofBuilt twoKnotsBuilt).checks, c.severity = .warn := by
    decide +kernel
  obtain ⟨-, hzero, -⟩ := hrun twoKnots terminal _ none settings "s.json" [] false document
    (twoKnots_launches hpaths false) hload hkeeps hholds rfl
  obtain ⟨hone, -, -⟩ := hrun twoKnots terminal _ none settings "s.json" [] true document
    (twoKnots_launches hpaths true) hload hkeeps hholds rfl
  refine ⟨hvalid, ?_, ?_⟩
  · refine hzero.mpr ?_
    rintro (hfails | ⟨path, hpath, -⟩ | hrefused)
    · simp [Fails, hvalid] at hfails
    · cases hpath
    · exact twoKnots_taken (twoKnots_launches hpaths false) hrefused
  · exact hone.mpr (.inl (.inr ⟨rfl, hwarns⟩))

/-- With the source file that is no text, the run ends with 1 although the report is valid. -/
theorem twoKnots_cut_short :
    (Integrity.ofBuilt twoKnotsBuilt).isValid = true ∧
      (run twoKnots terminal ["validate", "s.json", "-s", "bad.ink"]).exit = 1 := by
  obtain ⟨document, hholds, hbuilt⟩ := twoKnots_document
  obtain ⟨settings, hload, hkeeps⟩ := twoKnots_settings
  have hpaths : haveNull ["s.json", "bad.ink"] = false := by
    rw [haveNull_eq]
    decide
  obtain ⟨hone, -, -⟩ := validate_answer hbuilt (by decide) (twoKnots_launches hpaths false) hload
    hkeeps hholds rfl terminal
  exact ⟨by decide +kernel, hone.mpr (.inr (.undecodable "bad.ink" (.head _) twoKnots_undecodable))⟩

end KnotAtlas.Cli
