import Mathlib.Data.List.Nodup
import KnotAtlas.Integrity.Checks
import KnotAtlas.Proofs.Graph.Reach

/-!
What the report of a story says of its graph. Each check is told by its name and by when it warns or
fails; only the check for entry points can fail, and it fails if every knot has a link that leads to
it. Nothing can be reached then, since reachability is measured from the entry points.
-/

namespace KnotAtlas.Integrity

theorem occursIn_eq_true_iff {word cs : List Char} : occursIn word cs = true ↔ word <:+: cs := by
  induction cs with
  | nil => rw [occursIn, List.isEmpty_iff, List.infix_nil]
  | cons c rest ih =>
      rw [occursIn, Bool.or_eq_true, List.isPrefixOf_iff_prefix, ih, List.infix_cons_iff]

/-- Whether a knot is named like an ending: by the words that end a story, or with `end` in its name
in letters of either case. -/
def NamedLikeEnding (knot : String) : Prop :=
  knot = "DONE" ∨ knot = "END" ∨ "end".toList <:+: (Text.lower knot).toList

theorem isEndingName_eq_true_iff {knot : String} :
    isEndingName knot = true ↔ NamedLikeEnding knot := by
  simp only [isEndingName, NamedLikeEnding, Bool.or_eq_true, decide_eq_true_eq,
    occursIn_eq_true_iff, or_assoc]

/-- Whether a report has a check of the given name that came out in the given way. -/
def Report.Has (r : Report) (name : String) (s : Severity) : Prop :=
  ∃ c ∈ r.checks, c.name = name ∧ c.severity = s

theorem Report.isValid_eq_false_iff {r : Report} :
    r.isValid = false ↔ ∃ c ∈ r.checks, c.severity = .fail := by
  simp [Report.isValid]

theorem Report.warnings_ne_nil_iff {r : Report} :
    r.warnings ≠ [] ↔ ∃ c ∈ r.checks, c.severity = .warn := by
  simp [Report.warnings, Report.withSeverity]

/-- A report whose checks have different names came out in a way at a check if that check did. -/
theorem Report.has_iff {r : Report} (hnames : (r.checks.map (·.name)).Nodup) {c : Check}
    (hc : c ∈ r.checks) {s : Severity} : r.Has c.name s ↔ c.severity = s := by
  constructor
  · rintro ⟨other, hother, hname, hs⟩
    rw [← List.inj_on_of_nodup_map hnames hother hc hname]
    exact hs
  · exact fun hs => ⟨c, hc, rfl, hs⟩

theorem entryPointCheck_spec (entries : List String) :
    (entryPointCheck entries).name = "entry_points" ∧
      ((entryPointCheck entries).severity = .fail ↔ entries = []) := by
  cases entries with
  | nil => exact ⟨rfl, fun _ => rfl, fun _ => rfl⟩
  | cons first rest =>
      rw [entryPointCheck, if_neg (by simp)]
      split
      · simp
      · simp

theorem reachabilityCheck_spec (unreachable : List String) :
    (reachabilityCheck unreachable).name = "reachability" ∧
      (reachabilityCheck unreachable).severity ≠ .fail ∧
      ((reachabilityCheck unreachable).severity = .warn ↔ ∃ knot, knot ∈ unreachable) := by
  cases unreachable with
  | nil => simp [reachabilityCheck]
  | cons first rest => simp [reachabilityCheck]

theorem deadEndCheck_spec (openEnds : List String) :
    (deadEndCheck openEnds).name = "dead_ends" ∧
      (deadEndCheck openEnds).severity ≠ .fail ∧
      ((deadEndCheck openEnds).severity = .warn ↔ ∃ knot, knot ∈ openEnds) := by
  cases openEnds with
  | nil => simp [deadEndCheck]
  | cons first rest => simp [deadEndCheck]

theorem branchingCheck_spec (knotCount linkCount : Int) :
    (branchingCheck knotCount linkCount).name = "branching" ∧
      (branchingCheck knotCount linkCount).severity ≠ .fail := by
  simp only [branchingCheck]
  split
  · simp
  · split
    · simp
    · simp

theorem danglingChecks_spec (dangling : List Story.Dangling) :
    (danglingChecks dangling).map (·.name) =
        (if dangling.isEmpty then [] else ["dangling_diverts"]) ∧
      ∀ c ∈ danglingChecks dangling, c.name = "dangling_diverts" ∧ c.severity = .warn := by
  cases dangling with
  | nil => simp [danglingChecks]
  | cons first rest => simp [danglingChecks]

/-- What a report says of a graph, and of the dangling diverts found while it was built. -/
structure Verdict (g : Graph) (dangling : List Story.Dangling) (r : Report) : Prop where
  names : r.checks.map (·.name) =
    ["entry_points", "reachability", "dead_ends", "branching"] ++
      if dangling.isEmpty then [] else ["dangling_diverts"]
  invalid_iff : r.isValid = false ↔ ∀ knot ∈ g.knots, g.HasIncoming knot
  all_named : r.isValid = false → ⟨"reachability", .warn,
    s!"Found {g.knots.length} unreachable knots: {joined g.knots}"⟩ ∈ r.checks
  reachability_warns : r.Has "reachability" .warn ↔ ∃ knot ∈ g.knots, ¬ g.Reachable knot
  dead_ends_warns : r.Has "dead_ends" .warn ↔
    ∃ knot ∈ g.knots, ¬ g.HasOutgoing knot ∧ ¬ NamedLikeEnding knot

section Inspected

variable (g : Graph) (diagnostics : Story.Diagnostics) (known : List String)

theorem mem_inspect_iff {c : Check} :
    c ∈ (inspect g.analyze diagnostics known).checks ↔
      c = entryPointCheck g.analyze.entryPoints ∨ c = reachabilityCheck g.analyze.unreachable ∨
        c = deadEndCheck (openEnds g.analyze.deadEnds) ∨
        c = branchingCheck g.analyze.totalKnots g.analyze.totalLinks ∨
        c ∈ danglingChecks diagnostics.dangling := by
  simp only [inspect, List.mem_append, List.mem_cons, List.not_mem_nil, or_false, or_assoc]

theorem isValid_inspect_iff :
    (inspect g.analyze diagnostics known).isValid = false ↔ g.analyze.entryPoints = [] := by
  obtain ⟨-, hentry⟩ := entryPointCheck_spec g.analyze.entryPoints
  rw [Report.isValid_eq_false_iff, ← hentry]
  constructor
  · rintro ⟨c, hc, hfail⟩
    rcases (mem_inspect_iff g diagnostics known).mp hc with rfl | rfl | rfl | rfl | hc
    · exact hfail
    · exact absurd hfail (reachabilityCheck_spec _).2.1
    · exact absurd hfail (deadEndCheck_spec _).2.1
    · exact absurd hfail (branchingCheck_spec _ _).2
    · rw [((danglingChecks_spec _).2 c hc).2] at hfail
      cases hfail
  · exact fun hfail => ⟨_, (mem_inspect_iff g diagnostics known).mpr (.inl rfl), hfail⟩

theorem names_inspect :
    (inspect g.analyze diagnostics known).checks.map (·.name) =
      ["entry_points", "reachability", "dead_ends", "branching"] ++
        if diagnostics.dangling.isEmpty then [] else ["dangling_diverts"] := by
  rw [inspect, List.map_append, (danglingChecks_spec _).1]
  simp only [List.map_cons, List.map_nil, (entryPointCheck_spec _).1, (reachabilityCheck_spec _).1,
    (deadEndCheck_spec _).1, (branchingCheck_spec _ _).1]

theorem nodup_names_inspect :
    ((inspect g.analyze diagnostics known).checks.map (·.name)).Nodup := by
  rw [names_inspect]
  cases diagnostics.dangling.isEmpty with
  | true => decide
  | false => decide

theorem reachability_inspect_iff :
    (inspect g.analyze diagnostics known).Has "reachability" .warn ↔
      ∃ knot ∈ g.knots, ¬ g.Reachable knot := by
  obtain ⟨hname, -, hwarn⟩ := reachabilityCheck_spec g.analyze.unreachable
  rw [← hname, Report.has_iff (nodup_names_inspect g diagnostics known)
    ((mem_inspect_iff g diagnostics known).mpr (.inr (.inl rfl))), hwarn]
  simp only [Graph.mem_unreachable_iff]

theorem dead_ends_inspect_iff :
    (inspect g.analyze diagnostics known).Has "dead_ends" .warn ↔
      ∃ knot ∈ g.knots, ¬ g.HasOutgoing knot ∧ ¬ NamedLikeEnding knot := by
  obtain ⟨hname, -, hwarn⟩ := deadEndCheck_spec (openEnds g.analyze.deadEnds)
  rw [← hname, Report.has_iff (nodup_names_inspect g diagnostics known)
    ((mem_inspect_iff g diagnostics known).mpr (.inr (.inr (.inl rfl)))), hwarn]
  simp only [openEnds, List.mem_filter, Graph.mem_deadEnds_iff, ← isEndingName_eq_true_iff,
    Bool.not_eq_true', Bool.not_eq_true, and_assoc]

theorem verdict_inspect (hknots : g.knots ≠ []) :
    Verdict g diagnostics.dangling (inspect g.analyze diagnostics known) where
  names := names_inspect g diagnostics known
  invalid_iff := by
    rw [isValid_inspect_iff, List.eq_nil_iff_forall_not_mem]
    simp only [Graph.mem_entryPoints_iff, not_and, Classical.not_not]
  all_named := by
    intro hinvalid
    have hentries := (isValid_inspect_iff g diagnostics known).mp hinvalid
    refine (mem_inspect_iff g diagnostics known).mpr (.inr (.inl ?_))
    rw [g.unreachable_eq_knots hentries, reachabilityCheck, if_neg (by simpa using hknots)]
  reachability_warns := reachability_inspect_iff g diagnostics known
  dead_ends_warns := dead_ends_inspect_iff g diagnostics known

end Inspected

end KnotAtlas.Integrity
