import KnotAtlas.Proofs.Atlas.Sources
import KnotAtlas.Proofs.Cli.Validation
import KnotAtlas.Proofs.Graph.Closure

/-!
What is shown of a path between two knots. The names that the command takes for known are those of
the compiled story while it is kept and fresh; the path is looked for in the graph that detection is
checked against, which has a lifetime of its own. While both are fresh a shortest path is shown
exactly if there is any; once the graph's time is over, none is found. A name in which the console
takes a part for a mark that makes no sense is not shown.
-/

namespace KnotAtlas.Cli

/-! ### Loading a story alone -/

section Loading

variable {w : World} {config : Option String} {settings : Settings} {story : String}
  {document : Value} {built : Story.Built}

theorem yields_loadSettings (h : w.settings config = .ok settings) :
    (loadSettings w config).Yields settings := by
  refine ⟨loadSettings_outcome h, ?_⟩
  unfold loadSettings
  rw [h]
  dsimp only
  cases settings.debug.isOn with
  | true => rfl
  | false => rfl

theorem yields_readStory (h : w.HoldsDocument story document) :
    (readStory w story).Yields document := by
  refine ⟨readStory_outcome h, ?_⟩
  obtain ⟨bytes, hread, hload⟩ := h
  unfold readStory
  rw [hread]
  dsimp only
  rw [hload]
  rfl

theorem yields_ofLogged {α : Type} (x : Logged α) : (Run.ofLogged x).Yields x.value := by
  refine ⟨rfl, ?_⟩
  rw [Run.printed, Run.ofLogged, List.filterMap_map]
  exact List.filterMap_eq_nil_iff.mpr fun _ _ => rfl

theorem yields_addStory {a : Atlas Seconds}
    (hbuilt : (Story.Source.ofValue document).build.value = .ok built)
    (hknots : built.graph.isEmpty = false) :
    (addStory w story document a).Yields
      (a.accept (w.clock 0) (w.clock 1) built).value.2 := by
  rw [addStory]
  refine (yields_ofLogged _).bind ?_
  rw [Atlas.setStory_value, hbuilt]
  simp only [hknots, Bool.false_eq_true, if_false]
  exact ⟨rfl, rfl⟩

/-- An atlas with nothing but a story that was handed over at some time, and a graph that detection
is checked against since a later time. -/
def storyAtlas (settings : Settings) (built : Story.Built) (since later : Seconds) :
    Atlas Seconds :=
  ((Atlas.create settings).accept since later built).value.2

theorem yields_loadAtlas (hload : w.settings config = .ok settings)
    (hholds : w.HoldsDocument story document)
    (hbuilt : (Story.Source.ofValue document).build.value = .ok built)
    (hknots : built.graph.isEmpty = false) :
    (loadAtlas w config story []).Yields
      (storyAtlas settings built (w.clock 0) (w.clock 1)) := by
  rw [loadAtlas]
  refine (yields_loadSettings hload).bind ((yields_readStory hholds).bind ?_)
  exact (yields_addStory hbuilt hknots).bind ⟨rfl, rfl⟩

end Loading

/-! ### What the command asks -/

section Asking

variable {settings : Settings} {built : Story.Built} {now since later : Seconds}
  {start goal : String}

/-- Whether a name is taken for that of a knot, once a story was handed over some time ago: compiled
stories are kept, the time of this one is not over, and it has a knot of that name. -/
structure Knows (settings : Settings) (built : Story.Built) (age : Seconds) (name : String) :
    Prop where
  kept : settings.compiledCache.isOn = true
  fresh : ¬ settings.compiledTtl.span ≤ age
  knot : name ∈ built.graph.knots

theorem storyAtlas_eq (hknots : built.graph.isEmpty = false) :
    storyAtlas settings built since later =
      { Atlas.create settings with
        compiled :=
          if settings.compiledCache.isOn then some (CompiledStory.ofBuilt since built) else none
        layer :=
          { (Atlas.create settings).layer with
            detector := (Atlas.create settings).detector.setFlows
              (Atlas.flowsFor settings built.graph) true
            cached := some (Analysis.ofGraph built.graph, later) } } := by
  rw [storyAtlas, Atlas.accept_value _ since later hknots, Atlas.hold_eq]
  rfl

theorem sources_storyAtlas (hknots : built.graph.isEmpty = false) :
    (storyAtlas settings built since later).sources.entries = [] := by
  rw [storyAtlas_eq hknots]
  rfl

theorem readings_storyAtlas (hknots : built.graph.isEmpty = false) :
    World.readings (storyAtlas settings built since later) = 1 := by
  rw [World.readings, sources_storyAtlas hknots]
  rfl

theorem mem_allKnots_storyAtlas {w : World} (later : Seconds)
    (hknots : built.graph.isEmpty = false) {name : String} :
    name ∈ w.allKnots (storyAtlas settings built since later) ↔
      Knows settings built (w.clock 0 - since) name := by
  by_cases hstory :
      settings.compiledCache.isOn = true ∧ ¬ settings.compiledTtl.span ≤ w.clock 0 - since
  · obtain ⟨hkept, hfresh⟩ := hstory
    have hheld : (storyAtlas settings built since later).freshStory? (w.clock 0) =
        some (CompiledStory.ofBuilt since built) :=
      Atlas.freshStory?_accept later hkept hfresh hknots
    rw [World.allKnots_of_freshStory? hheld]
    exact ⟨fun h => ⟨hkept, hfresh, h⟩, fun h => h.knot⟩
  · have hnone : (storyAtlas settings built since later).freshStory? (w.clock 0) = none := by
      rw [storyAtlas_eq hknots, Atlas.freshStory?, Option.filter_eq_none_iff]
      intro compiled hcompiled
      change (if settings.compiledCache.isOn then _ else none) = some compiled at hcompiled
      split at hcompiled
      · rename_i hkept
        cases hcompiled
        have hover : (Atlas.create settings).compiledTtl ≤
            w.clock 0 - (CompiledStory.ofBuilt since built).compiledAt :=
          Decidable.not_not.mp fun hfresh => hstory ⟨hkept, hfresh⟩
        simpa using hover
      · cases hcompiled
    -- nothing declares a knot where there are no sources
    rw [World.allKnots, hnone, World.freshSources, sources_storyAtlas hknots]
    change name ∈ Atlas.sortedNames [] ↔ _
    rw [Atlas.mem_sortedNames_iff]
    exact ⟨fun h => absurd h List.not_mem_nil, fun h => absurd ⟨h.kept, h.fresh⟩ hstory⟩

/-- While the graph is fresh, paths are those of the story; later there are none. -/
theorem path?_storyAtlas (hknots : built.graph.isEmpty = false) :
    (storyAtlas settings built since later).layer.path? now start goal =
      if now - later < settings.staticTtl.span then findPath? built.graph.links start goal
      else none := by
  rw [storyAtlas_eq hknots, Validated.path?, Validated.fresh?]
  change (if now - later < settings.staticTtl.span then _ else _ : Option Analysis).bind _ = _
  split
  · rfl
  · rfl

end Asking

/-! ### What is shown -/

/-- The lines that show a path. -/
def routeLines (route : List String) : List Print :=
  [.markup (" → ".intercalate (route.map fun knot => s!"[cyan]{knot}[/cyan]")),
    .markup s!"[dim]{route.length - 1} steps[/dim]"]

/-- The line that says that there is no path. -/
def noPathLine (start goal : String) : Print :=
  .markup s!"[yellow]No path from {start} to {goal}[/yellow]"

def unknownLine (name : String) : Print :=
  .markup (errorLine s!"Unknown knot '{name}'")

section Showing

variable {w : World} {a : Atlas Seconds} {start goal : String}

theorem yields_requireKnown {known : List String} {knot : String} (h : knot ∈ known) :
    (requireKnown known knot).Yields () := by
  rw [requireKnown, if_pos h]
  exact ⟨rfl, rfl⟩

theorem requireKnown_unknown {known : List String} {knot : String} (h : knot ∉ known) :
    (requireKnown known knot).outcome = .error .refused ∧
      (requireKnown known knot).printed = [unknownLine knot] := by
  rw [requireKnown, if_neg h]
  exact ⟨rfl, rfl⟩

theorem showPath_unknown_start (goal : String) (h : start ∉ w.allKnots a) :
    (showPath w a start goal).outcome = .error .refused ∧
      (showPath w a start goal).printed = [unknownLine start] := by
  obtain ⟨hends, hlines⟩ := requireKnown_unknown h
  rw [showPath, Run.outcome_bind_error hends, Run.printed_bind_error hends]
  exact ⟨rfl, hlines⟩

theorem showPath_unknown_goal (hstart : start ∈ w.allKnots a) (h : goal ∉ w.allKnots a) :
    (showPath w a start goal).outcome = .error .refused ∧
      (showPath w a start goal).printed = [unknownLine goal] := by
  obtain ⟨hends, hlines⟩ := requireKnown_unknown h
  rw [showPath, (yields_requireKnown hstart).outcome_bind, Run.outcome_bind_error hends,
    (yields_requireKnown hstart).printed_bind, Run.printed_bind_error hends]
  exact ⟨rfl, hlines⟩

theorem showPath_known (hstart : start ∈ w.allKnots a) (hgoal : goal ∈ w.allKnots a) :
    (∃ route, a.layer.path? (w.clock (World.readings a)) start goal = some route ∧
        (showPath w a start goal).outcome = .ok () ∧
        (showPath w a start goal).printed = routeLines route) ∨
      a.layer.path? (w.clock (World.readings a)) start goal = none ∧
        (showPath w a start goal).outcome = .error .refused ∧
        (showPath w a start goal).printed = [noPathLine start goal] := by
  rw [showPath, (yields_requireKnown hstart).outcome_bind,
    (yields_requireKnown hgoal).outcome_bind, (yields_requireKnown hstart).printed_bind,
    (yields_requireKnown hgoal).printed_bind]
  cases a.layer.path? (w.clock (World.readings a)) start goal with
  | none => exact .inr ⟨rfl, rfl, rfl⟩
  | some route => exact .inl ⟨route, rfl, rfl, rfl⟩

end Showing

/-- Whether a run shows a shortest path if one is to be found, and says that there is none if not. -/
def ShowsPath (links : List Link) (start goal : String) (found : Prop) (x : Run Unit) : Prop :=
  found ∧ x.outcome = .ok () ∧
      (∃ route, IsShortest links start goal route ∧ x.printed = routeLines route) ∨
    ¬ found ∧ x.outcome = .error .refused ∧ x.printed = [noPathLine start goal]

/-- What an answer tells of the way between two knots: a shortest path with code 0 if one is to be
found, and with code 1 that there is none if not; where the console refuses a line it is neither. -/
structure TellsPath (links : List Link) (start goal : String) (found refused : Prop)
    (answer : Answer) : Prop where
  shown : (answer.exit = 0 ∧
      ∃ route, IsShortest links start goal route ∧ answer.printed = routeLines route) ↔
    found ∧ ¬ refused
  missed : (answer.exit = 1 ∧ answer.escape.isNone ∧ answer.printed = [noPathLine start goal]) ↔
    ¬ found ∧ ¬ refused
  broken : (answer.exit = 1 ∧ answer.escape.isSome) ↔ refused

section Telling

variable {settings : Settings} {built : Story.Built} {w : World} {since later : Seconds}
  {start goal : String}

/-- How a run ends and what it hands over is all that showing a path is about. -/
theorem ShowsPath.congr {links : List Link} {found : Prop} {x y : Run Unit}
    (h : ShowsPath links start goal found x) (hend : y.outcome = x.outcome)
    (hlines : y.printed = x.printed) : ShowsPath links start goal found y := by
  rw [ShowsPath, hend, hlines]
  exact h

/-- What a run shows of a path is told, unless the console refuses it. -/
theorem ShowsPath.tells {links : List Link} {found : Prop} {x : Run Unit}
    (h : ShowsPath links start goal found x) (c : Console) (setup : Log.Setup) :
    TellsPath links start goal found (c.Refuses x.printed) (.ofRun c setup x) := by
  by_cases hrefused : c.Refuses x.printed
  · obtain ⟨hexit, fault, hescape⟩ := Answer.ofRun_of_refused setup hrefused
    refine ⟨iff_of_false ?_ fun h => h.2 hrefused, iff_of_false ?_ fun h => h.2 hrefused,
      iff_of_true ⟨hexit, by rw [hescape]; rfl⟩ hrefused⟩
    · rw [hexit]
      exact fun h => Nat.one_ne_zero h.1
    · rw [hescape]
      rintro ⟨-, ⟨⟩, -⟩
  · obtain ⟨hexit, hescape, hprinted⟩ := Answer.ofRun_of_taken setup hrefused
    obtain ⟨hfound, hend, hroute⟩ | ⟨hfound, hend, hnone⟩ := h
    · rw [hend] at hexit hescape
      refine ⟨iff_of_true ⟨hexit, by rwa [hprinted]⟩ ⟨hfound, hrefused⟩,
        iff_of_false ?_ fun h => h.1 hfound, iff_of_false ?_ hrefused⟩
      · rw [hexit]
        exact fun h => Nat.zero_ne_one h.1
      · rw [hexit]
        exact fun h => Nat.zero_ne_one h.1
    · rw [hend] at hexit hescape
      refine ⟨iff_of_false ?_ fun h => hfound h.1,
        iff_of_true ⟨hexit, by rw [hescape]; rfl, hprinted.trans hnone⟩ ⟨hfound, hrefused⟩,
        iff_of_false ?_ hrefused⟩
      · rw [hexit]
        exact fun h => Nat.one_ne_zero h.1
      · rw [hescape]
        rintro ⟨-, ⟨⟩⟩

theorem exit_of_unknown {x : Run Unit} {name : String} (hend : x.outcome = .error .refused)
    (hlines : x.printed = [unknownLine name]) (c : Console) (setup : Log.Setup) :
    (Answer.ofRun c setup x).exit = 1 ∧
      (¬ c.Refuses x.printed → (Answer.ofRun c setup x).printed = [unknownLine name]) := by
  refine ⟨Answer.exit_ofRun_eq_one_iff.mpr (.inl (by rw [hend]; rfl)), fun htaken => ?_⟩
  rw [(Answer.ofRun_of_taken setup htaken).2.2, hlines]

/-- With both names known, a path is found exactly if there is any and the graph is fresh. -/
theorem showPath_shows (hknots : built.graph.isEmpty = false)
    (hstart : Knows settings built (w.clock 0 - since) start)
    (hgoal : Knows settings built (w.clock 0 - since) goal) :
    ShowsPath built.graph.links start goal
      (Leads built.graph.links start goal ∧ w.clock 1 - later < settings.staticTtl.span)
      (showPath w (storyAtlas settings built since later) start goal) := by
  have hfirst := (mem_allKnots_storyAtlas later hknots).mpr hstart
  have hlast := (mem_allKnots_storyAtlas later hknots).mpr hgoal
  have hcases := showPath_known hfirst hlast
  rw [readings_storyAtlas hknots, path?_storyAtlas hknots] at hcases
  obtain ⟨route, hroute, hends, hlines⟩ | ⟨hnone, hends, hlines⟩ := hcases
  · split at hroute
    · rename_i hfresh
      have hleads : Leads built.graph.links start goal := by
        refine Classical.byContradiction fun hno => ?_
        cases hroute.symm.trans (findPath?_eq_none_iff.mpr hno)
      exact .inl ⟨⟨hleads, hfresh⟩, hends, route, isShortest_of_findPath? hroute, hlines⟩
    · cases hroute
  · refine .inr ⟨?_, hends, hlines⟩
    rintro ⟨hleads, hfresh⟩
    rw [if_pos hfresh, findPath?_eq_none_iff] at hnone
    exact hnone hleads

/-- A program that shows a path shows it of the story that it loads. -/
theorem plan_path {words : List String} {config : Option String} {story : String}
    {document : Value} (hknots : built.graph.isEmpty = false)
    (hlaunch : Launches w words config (.path story start goal))
    (hload : w.settings config = .ok settings) (hholds : w.HoldsDocument story document)
    (hbuilt : (Story.Source.ofValue document).build.value = .ok built) :
    ∃ setup r, plan w words = .run setup r ∧
      let shown := showPath (w.later 2) (storyAtlas settings built (w.clock 0) (w.clock 1)) start goal
      r.outcome = shown.outcome ∧ r.printed = shown.printed := by
  obtain ⟨setup, hplan⟩ := plan_of_launches hlaunch
  have hloads := yields_loadAtlas hload hholds hbuilt hknots
  exact ⟨setup, _, hplan, hloads.outcome_bind _, hloads.printed_bind _⟩

/-- What is told of the way between two knots of a story, whatever the settings are. At any time
after the story was handed over, while both names are known, a shortest path is shown exactly if
links lead from the one to the other and the time of the graph is not over; otherwise it is said
that there is none. A program loads the story and tells this as soon as it has; a name that is not
known ends it with a word about the first such name. All this is told unless the console refuses a
line, which breaks the program. -/
theorem route_told (hknots : built.graph.knots ≠ []) (settings : Settings) :
    (∀ (w : World) (c : Console) (setup : Log.Setup) (since later : Seconds)
      (start goal : String),
      Knows settings built (w.clock 0 - since) start →
      Knows settings built (w.clock 0 - since) goal →
      let shown := showPath w (storyAtlas settings built since later) start goal
      TellsPath built.graph.links start goal
        (Leads built.graph.links start goal ∧ w.clock 1 - later < settings.staticTtl.span)
        (c.Refuses shown.printed) (.ofRun c setup shown)) ∧
    ∀ (w : World) (c : Console) (words : List String) (config : Option String)
      (story start goal : String) (document : Value),
      Launches w words config (.path story start goal) → w.settings config = .ok settings →
      w.HoldsDocument story document →
      (Story.Source.ofValue document).build.value = .ok built →
      let age := w.clock 2 - w.clock 0
      let refused := c.Refuses (plan w words).printed
      (¬ Knows settings built age start →
        (run w c words).exit = 1 ∧ (¬ refused → (run w c words).printed = [unknownLine start])) ∧
      (Knows settings built age start → ¬ Knows settings built age goal →
        (run w c words).exit = 1 ∧ (¬ refused → (run w c words).printed = [unknownLine goal])) ∧
      (Knows settings built age start → Knows settings built age goal →
        TellsPath built.graph.links start goal
          (Leads built.graph.links start goal ∧
            w.clock 3 - w.clock 1 < settings.staticTtl.span)
          refused (run w c words)) := by
  have hfull : built.graph.isEmpty = false := by simpa [Graph.isEmpty] using hknots
  refine ⟨?_, ?_⟩
  · intro w c setup since later start goal hstart hgoal
    exact (showPath_shows hfull hstart hgoal).tells c setup
  · intro w c words config story start goal document hlaunch hload hholds hbuilt
    obtain ⟨setup, r, hplan, hend, hlines⟩ := plan_path hfull hlaunch hload hholds hbuilt
    have hmem : ∀ name, name ∈ (w.later 2).allKnots
        (storyAtlas settings built (w.clock 0) (w.clock 1)) ↔
          Knows settings built (w.clock 2 - w.clock 0) name :=
      fun name => mem_allKnots_storyAtlas _ hfull
    rw [run, hplan, Plan.answer, Plan.printed]
    refine ⟨fun hstart => ?_, fun hstart hgoal => ?_, fun hstart hgoal => ?_⟩
    · obtain ⟨hstops, hunknown⟩ := showPath_unknown_start goal (mt (hmem start).mp hstart)
      exact exit_of_unknown (hend.trans hstops) (hlines.trans hunknown) c setup
    · obtain ⟨hstops, hunknown⟩ :=
        showPath_unknown_goal ((hmem start).mpr hstart) (mt (hmem goal).mp hgoal)
      exact exit_of_unknown (hend.trans hstops) (hlines.trans hunknown) c setup
    · exact ((showPath_shows hfull hstart hgoal).congr hend hlines).tells c setup

end Telling

theorem twoKnots_leads : Leads twoKnotsBuilt.graph.links "A" "B" :=
  .tail .refl ⟨⟨"A", "B", "on", false⟩, .head _, rfl, rfl⟩

/-- What the settings of a world make of the story with two knots: whether its names are known once it
is loaded, and whether its graph is fresh then. -/
theorem twoKnots_known (w : World) (fresh : Bool)
    (h : ((w.settings none).toOption.any fun settings =>
      settings.compiledCache.isOn &&
        !decide (settings.compiledTtl.span ≤ w.clock 2 - w.clock 0) &&
        decide (w.clock 3 - w.clock 1 < settings.staticTtl.span) == fresh) = true) :
    ∃ settings, w.settings none = .ok settings ∧
      Knows settings twoKnotsBuilt (w.clock 2 - w.clock 0) "A" ∧
      Knows settings twoKnotsBuilt (w.clock 2 - w.clock 0) "B" ∧
      (w.clock 3 - w.clock 1 < settings.staticTtl.span ↔ fresh = true) := by
  obtain ⟨settings, hsettings, hknown⟩ := Option.any_eq_true _ _ |>.mp h
  simp only [Bool.and_eq_true, Bool.not_eq_true', decide_eq_false_iff_not, beq_iff_eq] at hknown
  obtain ⟨⟨hkept, hstory⟩, hfresh⟩ := hknown
  refine ⟨settings, Except.eq_ok_of_toOption hsettings, ⟨hkept, hstory, .head _⟩,
    ⟨hkept, hstory, .tail _ (.head _)⟩, ?_⟩
  rw [← hfresh, decide_eq_true_iff]

theorem twoKnots_launches_path {w : World} (hconfig : w.env.find? configVariable = none) :
    Launches w ["path", "s.json", "A", "B"] none (.path "s.json" "A" "B") := by
  have hwords : ∀ word ∈ ["s.json", "A", "B"], isOptionWord word = false := by decide +kernel
  have hpaths : haveNull ["s.json"] = false := by
    rw [haveNull_eq]
    decide
  have hlaunch := launches_path (w := w) hwords (by rw [hconfig]; rfl) hpaths
  rwa [hconfig] at hlaunch

/-- The terminal has nothing to say against what is told of the way from the one knot to the
other. -/
theorem twoKnots_path_taken {w : World}
    (hlaunch : Launches w ["path", "s.json", "A", "B"] none (.path "s.json" "A" "B"))
    (h : ((Command.path "s.json" "A" "B").execute w none).printed.all
      (fun p => (terminal.fault? p).isNone) = true) :
    ¬ terminal.Refuses (plan w ["path", "s.json", "A", "B"]).printed := by
  obtain ⟨setup, hplan⟩ := plan_of_launches hlaunch
  rw [hplan, Plan.printed]
  exact Console.not_refuses_of_all h

/-- With the usual settings the one link of the story is shown. -/
theorem twoKnots_shown :
    (run twoKnots terminal ["path", "s.json", "A", "B"]).exit = 0 ∧
      ∃ route, IsShortest twoKnotsBuilt.graph.links "A" "B" route ∧
        (run twoKnots terminal ["path", "s.json", "A", "B"]).printed = routeLines route := by
  obtain ⟨document, hholds, hbuilt⟩ := twoKnots_document
  obtain ⟨settings, hload, hstart, hgoal, hfresh⟩ :=
    twoKnots_known twoKnots true (by decide +kernel)
  obtain ⟨-, hrun⟩ := @route_told twoKnotsBuilt (by decide) settings
  have hlaunch := twoKnots_launches_path (w := twoKnots) rfl
  obtain ⟨-, -, htells⟩ := hrun twoKnots terminal _ none "s.json" "A" "B" document hlaunch hload
    hholds hbuilt
  have htaken := twoKnots_path_taken hlaunch (by decide +kernel)
  exact (htells hstart hgoal).shown.mpr ⟨⟨twoKnots_leads, hfresh.mpr rfl⟩, htaken⟩

/-- The story with two knots, and a graph that is never fresh. -/
def hasty : World :=
  { twoKnots with env := [("INKSCOPE_STATIC_CACHE_TTL", "0")] }

/-- Both names are known and a link leads from the one to the other, but no path is shown. -/
theorem hasty_lost :
    Leads twoKnotsBuilt.graph.links "A" "B" ∧
      (∃ document, hasty.HoldsDocument "s.json" document ∧
        (Story.Source.ofValue document).build.value = .ok twoKnotsBuilt) ∧
      (∃ settings, hasty.settings none = .ok settings ∧
        Knows settings twoKnotsBuilt (hasty.clock 2 - hasty.clock 0) "A" ∧
        Knows settings twoKnotsBuilt (hasty.clock 2 - hasty.clock 0) "B") ∧
      (run hasty terminal ["path", "s.json", "A", "B"]).exit = 1 ∧
      (run hasty terminal ["path", "s.json", "A", "B"]).printed = [noPathLine "A" "B"] := by
  obtain ⟨document, hholds, hbuilt⟩ := twoKnots_document
  have hholds : hasty.HoldsDocument "s.json" document := hholds
  obtain ⟨settings, hload, hstart, hgoal, hfresh⟩ :=
    twoKnots_known hasty false (by decide +kernel)
  have hlaunch := twoKnots_launches_path (w := hasty) rfl
  obtain ⟨setup, r, hplan, hend, hlines⟩ := plan_path (by decide) hlaunch hload hholds hbuilt
  have htaken := twoKnots_path_taken hlaunch (by decide +kernel)
  have htells := ((showPath_shows (by decide) hstart hgoal).congr hend hlines).tells terminal setup
  rw [hplan] at htaken
  obtain ⟨hexit, -, hprinted⟩ := htells.missed.mpr
    ⟨fun hfound => absurd (hfresh.mp hfound.2) Bool.false_ne_true, htaken⟩
  rw [run, hplan]
  exact ⟨twoKnots_leads, ⟨document, hholds, hbuilt⟩, ⟨settings, hload, hstart, hgoal⟩, hexit,
    hprinted⟩

end KnotAtlas.Cli
