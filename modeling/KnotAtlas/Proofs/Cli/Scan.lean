import KnotAtlas.Proofs.Cli.Console
import KnotAtlas.Proofs.Cli.Launch
import KnotAtlas.Proofs.Cli.Outcome

/-!
What a scan of source files shows. Files are read one after another. Each that is a text gets a row
of the table, and each that cannot be opened a line of its own in front of the table; neither changes
what is shown of the others. A file that can be opened but is no UTF-8 text ends the scan where it
stands, and no table is shown. The console may take parts of a path for marks, but never parts of
the names that a file declares.
-/

namespace KnotAtlas.Cli

/-- The row that the scan of a file gives, if the file is a text. -/
def sourceRow? (w : World) (path : String) : Option (List String) :=
  match w.tree.readText path with
  | .ok content =>
    let s := Source.scan (Files.plainPath path) content (Seconds.floating 0)
    some [s.path, namesCell s.knots, namesCell s.variableNames]
  | .error _ => none

/-- What is said of a file that cannot be opened; of others nothing is. -/
def fileWords (w : World) (path : String) : List Print :=
  match w.tree.readText path with
  | .error (.unreadable fault) =>
    [.markup s!"[red]✗[/red] Cannot read '{Files.plainPath path}': {fault.message}"]
  | _ => []

/-- What is printed of the rows of a scan. -/
def sourcesTable (rows : List (List String)) : List Print :=
  [.markup "", .table ⟨"Ink sources", ["File", "Knots", "Variables"], rows⟩, .markup ""]

/-- Whether the files `front` stand before the first one that is no UTF-8 text, which has the given
fault. -/
def World.Stumbles (w : World) (files front : List String) (fault : Text.Utf8.Fault) : Prop :=
  ∃ path rest, files = front ++ path :: rest ∧ (∀ earlier ∈ front, ¬ w.Undecodable earlier) ∧
    w.tree.readText path = .error (.notUtf8 fault)

section Scanning

variable (w : World)

theorem sourceRow?_eq_none_iff {path : String} :
    sourceRow? w path = none ↔ ∃ fault, w.tree.readText path = .error fault := by
  unfold sourceRow?
  cases w.tree.readText path with
  | ok content => simp
  | error fault => simp

/-- A file is no UTF-8 text and ends the scan, or it gives a row or a line, as it may be. -/
theorem scanFile_ends (path : String) :
    (∃ fault, w.tree.readText path = .error (.notUtf8 fault) ∧
        (scanFile w path).outcome = .error (.escaped (.notUtf8 fault)) ∧
        (scanFile w path).printed = []) ∨
      ¬ w.Undecodable path ∧ (scanFile w path).outcome = .ok (sourceRow? w path) ∧
        (scanFile w path).printed = fileWords w path := by
  unfold scanFile World.Undecodable sourceRow? fileWords
  cases w.tree.readText path with
  | ok content =>
      refine .inr ⟨?_, rfl, rfl⟩
      rintro ⟨fault, hfault⟩
      cases hfault
  | error e =>
      cases e with
      | unreadable fault =>
          refine .inr ⟨?_, rfl, rfl⟩
          rintro ⟨undecoded, hfault⟩
          cases hfault
      | notUtf8 fault => exact .inl ⟨fault, rfl, rfl, rfl⟩

theorem scanFiles_end (files : List String) :
    (∃ front fault, w.Stumbles files front fault ∧
        (files.mapM (scanFile w)).outcome = .error (.escaped (.notUtf8 fault)) ∧
        (files.mapM (scanFile w)).printed = front.flatMap (fileWords w)) ∨
      (∀ path ∈ files, ¬ w.Undecodable path) ∧
        (files.mapM (scanFile w)).outcome = .ok (files.map (sourceRow? w)) ∧
        (files.mapM (scanFile w)).printed = files.flatMap (fileWords w) := by
  induction files with
  | nil => exact .inr ⟨fun _ h => absurd h List.not_mem_nil, rfl, rfl⟩
  | cons path rest ih =>
      rw [List.mapM_cons]
      obtain ⟨fault, hfault, hstop, hsilent⟩ | ⟨hdecodes, hrow, hwords⟩ := scanFile_ends w path
      · refine .inl ⟨[], fault, ⟨path, rest, rfl, fun _ h => absurd h List.not_mem_nil, hfault⟩,
          Run.outcome_bind_error hstop _, ?_⟩
        rw [Run.printed_bind_error hstop, hsilent, List.flatMap_nil]
      · rw [Run.outcome_bind_ok hrow, Run.printed_bind_ok hrow, hwords]
        obtain ⟨front, fault, ⟨bad, later, rfl, hfront, hfault⟩, hstop, hprinted⟩ |
          ⟨hrest, hrows, hprinted⟩ := ih
        · refine .inl ⟨path :: front, fault,
            ⟨bad, later, rfl, List.forall_mem_cons.mpr ⟨hdecodes, hfront⟩, hfault⟩,
            Run.outcome_bind_error hstop _, ?_⟩
          rw [Run.printed_bind_error hstop, hprinted, List.flatMap_cons]
        · refine .inr ⟨List.forall_mem_cons.mpr ⟨hdecodes, hrest⟩, ?_, ?_⟩
          · rw [Run.outcome_bind_ok hrows]
            rfl
          · rw [Run.printed_bind_ok hrows, hprinted, List.flatMap_cons]
            exact congrArg _ (List.append_nil _)

theorem scan_ends (files : List String) :
    (∃ front fault, w.Stumbles files front fault ∧
        (scan w files).outcome = .error (.escaped (.notUtf8 fault)) ∧
        (scan w files).printed = front.flatMap (fileWords w)) ∨
      (∀ path ∈ files, ¬ w.Undecodable path) ∧
        (scan w files).outcome =
          (if (files.map (sourceRow? w)).any Option.isNone then .error .refused else .ok ()) ∧
        (scan w files).printed = files.flatMap (fileWords w) ++
          sourcesTable (files.filterMap (sourceRow? w)) := by
  rw [scan]
  obtain ⟨front, fault, hstumbles, hstop, hprinted⟩ | ⟨hdecode, hrows, hprinted⟩ :=
    scanFiles_end w files
  · refine .inl ⟨front, fault, hstumbles, Run.outcome_bind_error hstop _, ?_⟩
    rw [Run.printed_bind_error hstop, hprinted]
  · have htable : (files.map (sourceRow? w)).filterMap id = files.filterMap (sourceRow? w) := by
      rw [List.filterMap_map]
      rfl
    rw [Run.outcome_bind_ok hrows, Run.printed_bind_ok hrows, hprinted, htable]
    refine .inr ⟨hdecode, ?_, ?_⟩
    · split
      · rfl
      · rfl
    · split
      · rfl
      · rfl

/-- A file with a row or a line of its own does not end the scan. -/
theorem not_undecodable {path : String} (h : sourceRow? w path ≠ none ∨ fileWords w path ≠ []) :
    ¬ w.Undecodable path := by
  rintro ⟨fault, hfault⟩
  unfold sourceRow? fileWords at h
  rw [hfault] at h
  simp at h

theorem any_isNone_iff {files : List String} :
    (files.map (sourceRow? w)).any Option.isNone = true ↔
      ∃ path ∈ files, ∃ fault, w.tree.readText path = .error fault := by
  simp only [List.any_map, List.any_eq_true, Function.comp_apply, Option.isNone_iff_eq_none,
    sourceRow?_eq_none_iff]

end Scanning

section Cells

theorem isPlainCell_of_all {cell : String}
    (h : cell.toList.all (fun ch => ch ∈ [',', ' ', '-']) = true) : IsPlainCell cell :=
  fun ch hch => .inr (of_decide_eq_true (List.all_eq_true.mp h ch hch))

theorem isPlainCell_append {a b : String} (ha : IsPlainCell a) (hb : IsPlainCell b) :
    IsPlainCell (a ++ b) := by
  intro ch hch
  rw [String.toList_append, List.mem_append] at hch
  exact hch.elim (ha ch) (hb ch)

theorem isPlainCell_intercalate {names : List String} (h : ∀ name ∈ names, IsPlainCell name) :
    IsPlainCell (", ".intercalate names) := by
  induction names with
  | nil => exact fun ch hch => absurd hch List.not_mem_nil
  | cons name rest ih =>
      obtain ⟨hname, hrest⟩ := List.forall_mem_cons.mp h
      cases rest with
      | nil => exact hname
      | cons other others =>
          rw [String.intercalate_cons_cons]
          have hcomma : IsPlainCell ", " := isPlainCell_of_all rfl
          exact isPlainCell_append (isPlainCell_append hname hcomma) (ih hrest)

theorem isPlainCell_namesCell {names : List String} (h : ∀ name ∈ names, IsPlainCell name) :
    IsPlainCell (namesCell names) := by
  rw [namesCell]
  split
  · exact isPlainCell_of_all rfl
  · exact isPlainCell_intercalate h

theorem isWordChar_of_isIdentifierStart {ch : Char} (h : Text.isIdentifierStart ch = true) :
    Text.isWordChar ch = true := by
  rw [Text.isIdentifierStart, Bool.or_eq_true, beq_iff_eq] at h
  rcases h with halpha | rfl
  · have hsmall : ch.toNat < 128 := by
      unfold Char.isAlpha Char.isUpper Char.isLower at halpha
      simp only [Bool.or_eq_true, Bool.and_eq_true, decide_eq_true_eq, UInt32.le_iff_toNat_le]
        at halpha
      change ch.val.toNat < 128
      rcases halpha with ⟨-, hlast⟩ | ⟨-, hlast⟩
      · exact Nat.lt_of_le_of_lt hlast (by decide)
      · exact Nat.lt_of_le_of_lt hlast (by decide)
    rw [Text.isWordChar, if_pos hsmall, Char.isAlphanum, halpha]
    rfl
  · decide

theorem isPlainCell_identifier {cs name rest : List Char}
    (h : Text.takeIdentifier? cs = some (name, rest)) : IsPlainCell (String.ofList name) := by
  intro ch hch
  rw [String.toList_ofList] at hch
  refine .inl ?_
  cases cs with
  | nil => cases h
  | cons c more =>
      rw [Text.takeIdentifier?] at h
      split at h
      · rename_i hstart
        cases h
        rcases List.mem_cons.mp hch with rfl | hmore
        · exact isWordChar_of_isIdentifierStart hstart
        · exact List.all_eq_true.mp List.all_takeWhile _ hmore
      · cases h

theorem isPlainCell_knots {content name : String} (h : name ∈ Source.knots content) :
    IsPlainCell name := by
  obtain ⟨line, -, hline⟩ := List.mem_filterMap.mp h
  obtain ⟨cs, hknot, rfl⟩ := Option.map_eq_some_iff.mp hline
  simp only [Source.knotOnLine?, bind, Option.bind_eq_some_iff] at hknot
  obtain ⟨afterRule, -, ⟨read, rest⟩, hname, hknot⟩ := hknot
  dsimp only at hknot
  split at hknot
  · cases hknot
  · obtain ⟨later, -, last, -, hend⟩ := by
      simpa only [Option.bind_eq_some_iff] using hknot
    split at hend
    · cases hend
      exact isPlainCell_identifier hname
    · cases hend

theorem isPlainCell_variableNames {content name : String}
    (h : name ∈ Source.variableNames content) : IsPlainCell name := by
  obtain ⟨line, -, hline⟩ := List.mem_filterMap.mp h
  obtain ⟨cs, hvariable, rfl⟩ := Option.map_eq_some_iff.mp hline
  unfold Source.variableOnLine? at hvariable
  split at hvariable
  · split at hvariable
    · cases hvariable
    · obtain ⟨⟨read, rest⟩, hname, rfl⟩ := Option.map_eq_some_iff.mp hvariable
      exact isPlainCell_identifier hname
  · cases hvariable

/-- Of a row, all but the path is plain. -/
theorem sourceRow?_plain {w : World} {path : String} {row : List String}
    (h : sourceRow? w path = some row) : ∀ cell ∈ row.drop 1, IsPlainCell cell := by
  unfold sourceRow? at h
  split at h
  · cases h
    intro cell hcell
    simp only [List.drop_succ_cons, List.drop_zero, List.mem_cons, List.not_mem_nil,
      or_false] at hcell
    rcases hcell with rfl | rfl
    · exact isPlainCell_namesCell fun _ => isPlainCell_knots
    · exact isPlainCell_namesCell fun _ => isPlainCell_variableNames
  · cases h

theorem eq_of_plain {row shown : List String}
    (h : List.Forall₂ (fun cell seen => IsPlainCell cell → seen = cell) row shown)
    (hplain : ∀ cell ∈ row, IsPlainCell cell) : shown = row := by
  induction h with
  | nil => rfl
  | cons hcell hcells ih =>
      obtain ⟨hfirst, hrest⟩ := List.forall_mem_cons.mp hplain
      rw [hcell hfirst, ih hrest]

/-- Whatever a console makes of paths, it shows the knots and variables of each row. -/
theorem rows_seen {rows shown : List (List String)}
    (h : List.Forall₂ (List.Forall₂ fun cell seen => IsPlainCell cell → seen = cell) rows shown)
    (hplain : ∀ row ∈ rows, ∀ cell ∈ row.drop 1, IsPlainCell cell) :
    shown.map (·.drop 1) = rows.map (·.drop 1) := by
  induction h with
  | nil => rfl
  | cons hrow hrows ih =>
      obtain ⟨hfirst, hrest⟩ := List.forall_mem_cons.mp hplain
      rw [List.map_cons, List.map_cons, ih hrest, eq_of_plain (List.forall₂_drop 1 hrow) hfirst]

end Cells

section Listing

variable {w : World} {words : List String} {config : Option String} {files : List String}

theorem World.Stumbles.exists_fault {front : List String} {fault : Text.Utf8.Fault}
    (h : w.Stumbles files front fault) :
    ∃ path ∈ files, w.tree.readText path = .error (.notUtf8 fault) := by
  obtain ⟨path, rest, rfl, -, hfault⟩ := h
  exact ⟨path, List.mem_append_right front (.head rest), hfault⟩

theorem exit_scan_iff :
    (Answer.exitOf (scan w files).outcome = 1 ↔
      ∃ path ∈ files, ∃ fault, w.tree.readText path = .error fault) ∧
    (Answer.exitOf (scan w files).outcome = 0 ↔
      ∀ path ∈ files, ∃ content, w.tree.readText path = .ok content) := by
  have hall : (∀ path ∈ files, ∃ content, w.tree.readText path = .ok content) ↔
      ¬ ∃ path ∈ files, ∃ fault, w.tree.readText path = .error fault := by
    simp [Except.exists_ok_iff]
  rw [hall]
  obtain ⟨front, fault, hstumbles, hstop, -⟩ | ⟨-, hend, -⟩ := scan_ends w files
  · obtain ⟨path, hpath, hfault⟩ := hstumbles.exists_fault
    have hfails : ∃ path ∈ files, ∃ fault, w.tree.readText path = .error fault :=
      ⟨path, hpath, _, hfault⟩
    rw [hstop]
    exact ⟨iff_of_true rfl hfails, iff_of_false Nat.one_ne_zero (not_not.mpr hfails)⟩
  · rw [hend, ← any_isNone_iff]
    split
    · rename_i hfails
      exact ⟨iff_of_true rfl hfails, iff_of_false Nat.one_ne_zero (not_not.mpr hfails)⟩
    · rename_i hfine
      exact ⟨iff_of_false Nat.zero_ne_one hfine, iff_of_true rfl hfine⟩

/-- A table that is handed over and taken is seen, with the knots and variables of its rows. -/
theorem table_seen {c : Console} {setup : Log.Setup} {x : Run Unit} {front : List Print}
    (hshows : c.ShowsPlainCells) (htaken : ¬ c.Refuses x.printed)
    (hprinted : x.printed = front ++ sourcesTable (files.filterMap (sourceRow? w))) :
    ∃ t, .table t ∈ (Answer.ofRun c setup x).seen ∧
      t.rows.map (·.drop 1) = (files.filterMap (sourceRow? w)).map (·.drop 1) := by
  let told : Table :=
    ⟨"Ink sources", ["File", "Knots", "Variables"], files.filterMap (sourceRow? w)⟩
  have hmem : .table told ∈ x.printed := by
    rw [hprinted]
    exact List.mem_append_right _ (.tail _ (.head _))
  have hseen : ∃ seen, c (.table told) = .ok seen :=
    Except.exists_ok_iff.mpr fun fault hfault => htaken ⟨_, hmem, fault, hfault⟩
  obtain ⟨seen, hseen⟩ := hseen
  obtain ⟨t, rfl, hrows⟩ := hshows told seen hseen
  refine ⟨t, ?_, rows_seen hrows ?_⟩
  · rw [Answer.ofRun, Run.on_of_taken htaken]
    exact List.mem_filterMap.mpr ⟨_, hmem, by rw [hseen]; rfl⟩
  · intro row hrow
    obtain ⟨path, -, hpath⟩ := List.mem_filterMap.mp hrow
    exact sourceRow?_plain hpath

/-- A scan of any files ends with exit code 1 if one of them cannot be read as UTF-8 text, or if the
console refuses a line, and else with 0. While every file that can be opened is UTF-8 text, each that
cannot be opened is told with the reason, and a table follows with a row for each of the others in
their order; a console that shows plain cells shows all their knots and variables. But the first file
that is no UTF-8 text ends the scan by a failure that it has no words for: nothing is shown but what
was told of the files in front of it. -/
theorem sources_listed (hlaunch : Launches w words config (.scan files)) (c : Console) :
    let handed := (plan w words).printed
    let answer := run w c words
    (answer.exit = 1 ↔
      (∃ path ∈ files, ∃ fault, w.tree.readText path = .error fault) ∨ c.Refuses handed) ∧
    (answer.exit = 0 ↔
      (∀ path ∈ files, ∃ content, w.tree.readText path = .ok content) ∧ ¬ c.Refuses handed) ∧
    (c.Refuses handed → ∃ fault, answer.escape = some (.badMarks fault)) ∧
    ((∀ path ∈ files, ¬ w.Undecodable path) →
      handed = files.flatMap (fileWords w) ++ sourcesTable (files.filterMap (sourceRow? w)) ∧
      (¬ c.Refuses handed → answer.escape.isSome = false ∧ answer.printed = handed ∧
        (c.ShowsPlainCells → ∃ t, .table t ∈ answer.seen ∧
          t.rows.map (·.drop 1) = (files.filterMap (sourceRow? w)).map (·.drop 1)))) ∧
    ((∃ path ∈ files, w.Undecodable path) →
      ∃ front fault, w.Stumbles files front fault ∧ handed = front.flatMap (fileWords w) ∧
        (¬ c.Refuses handed → answer.escape = some (.notUtf8 fault) ∧ answer.printed = handed)) := by
  obtain ⟨setup, hplan⟩ := plan_of_launches hlaunch
  obtain ⟨hone, hzero⟩ := @exit_scan_iff w files
  rw [run, hplan, Plan.answer, Plan.printed, Command.execute]
  refine ⟨?_, ?_, fun h => (Answer.ofRun_of_refused setup h).2, ?_, ?_⟩
  · rw [Answer.exit_ofRun_eq_one_iff, hone]
  · rw [Answer.exit_ofRun_eq_zero_iff, hzero]
  · intro hdecode
    obtain ⟨front, fault, hstumbles, -, -⟩ | ⟨-, hend, hprinted⟩ := scan_ends w files
    · obtain ⟨path, hpath, hfault⟩ := hstumbles.exists_fault
      exact absurd ⟨fault, hfault⟩ (hdecode path hpath)
    · refine ⟨hprinted, fun htaken => ?_⟩
      obtain ⟨-, hescape, hall⟩ := Answer.ofRun_of_taken setup htaken
      refine ⟨?_, hall, fun hshows => table_seen hshows htaken hprinted⟩
      rw [hescape, hend]
      split
      · rfl
      · rfl
  · rintro ⟨path, hpath, hbad⟩
    obtain ⟨front, fault, hstumbles, hstop, hprinted⟩ | ⟨hdecode, -, -⟩ := scan_ends w files
    · refine ⟨front, fault, hstumbles, hprinted, fun htaken => ?_⟩
      obtain ⟨-, hescape, hall⟩ := Answer.ofRun_of_taken setup htaken
      rw [hescape, hstop]
      exact ⟨rfl, hall⟩
    · exact absurd hbad (hdecode path hpath)

end Listing

/-- A directory with a source file, a directory, and a file that is no text. -/
def sourceFolder : World :=
  { tree := Files.ofList
      [("a.ink", .file ("== A ==\nVAR x = 1".toList.map fun c => UInt8.ofNat c.toNat)),
        ("drafts", .directory), ("bad.ink", .file [0x3d, 0xff])]
    env := []
    read := fun text => (Yaml.read text).mapError Yaml.Fault.message?
    clock := fun n => .whole n }

theorem sourceFolder_launches {file : String} {files : List String}
    (hwords : ∀ word ∈ file :: files, isOptionWord word = false)
    (hpaths : ((file :: files).any fun path => decide (Char.ofNat 0 ∈ path.toList)) = false) :
    Launches sourceFolder ("scan" :: file :: files) none (.scan (file :: files)) :=
  launches_scan hwords rfl ((haveNull_eq _).trans hpaths)

/-- A missing file and a directory leave the rows of the other files as they are. -/
theorem sourceFolder_listed :
    (run sourceFolder terminal ["scan", "gone.ink", "a.ink", "drafts", "a.ink"]).exit = 1 ∧
      (run sourceFolder terminal ["scan", "gone.ink", "a.ink", "drafts", "a.ink"]).printed =
        [Print.markup "[red]✗[/red] Cannot read 'gone.ink': No such file or directory",
          Print.markup "[red]✗[/red] Cannot read 'drafts': Is a directory"] ++
          sourcesTable [["a.ink", "A", "x"], ["a.ink", "A", "x"]] ∧
      ∃ t, Print.table t ∈
          (run sourceFolder terminal ["scan", "gone.ink", "a.ink", "drafts", "a.ink"]).seen ∧
        t.rows.map (·.drop 1) = [["A", "x"], ["A", "x"]] := by
  have hlaunch := @sourceFolder_launches "gone.ink" ["a.ink", "drafts", "a.ink"]
    (by decide +kernel) (by decide)
  obtain ⟨hone, -, -, hlisted, -⟩ := sources_listed hlaunch terminal
  have hdecode : ∀ path ∈ ["gone.ink", "a.ink", "drafts", "a.ink"],
      sourceRow? sourceFolder path ≠ none ∨ fileWords sourceFolder path ≠ [] := by
    decide +kernel
  obtain ⟨hhanded, htold⟩ := hlisted fun path hpath => not_undecodable _ (hdecode path hpath)
  have hwords : ["gone.ink", "a.ink", "drafts", "a.ink"].flatMap (fileWords sourceFolder) =
      [.markup "[red]✗[/red] Cannot read 'gone.ink': No such file or directory",
        .markup "[red]✗[/red] Cannot read 'drafts': Is a directory"] := by
    decide +kernel
  have hrows : ["gone.ink", "a.ink", "drafts", "a.ink"].filterMap (sourceRow? sourceFolder) =
      [["a.ink", "A", "x"], ["a.ink", "A", "x"]] := by
    decide +kernel
  rw [hwords, hrows] at hhanded
  rw [hrows] at htold
  obtain ⟨-, hprinted, hseen⟩ := htold (by
    rw [hhanded]
    exact Console.not_refuses_of_all (by decide +kernel))
  exact ⟨hone.mpr (.inl ⟨"gone.ink", .head _, .unreadable .notFound, by decide +kernel⟩),
    hprinted.trans hhanded, hseen terminal_showsPlainCells⟩

/-- A file that is no text takes the row of the file in front of it along, and is not told itself. -/
theorem sourceFolder_cut_short :
    sourceRow? sourceFolder "a.ink" = some ["a.ink", "A", "x"] ∧
      (run sourceFolder terminal ["scan", "a.ink", "bad.ink"]).exit = 1 ∧
      (run sourceFolder terminal ["scan", "a.ink", "bad.ink"]).printed = [] := by
  have hlaunch := @sourceFolder_launches "a.ink" ["bad.ink"] (by decide +kernel) (by decide)
  obtain ⟨setup, hplan⟩ := plan_of_launches hlaunch
  have hprinted : (scan sourceFolder ["a.ink", "bad.ink"]).printed = [] := by decide +kernel
  have hexit : Answer.exitOf (scan sourceFolder ["a.ink", "bad.ink"]).outcome = 1 := by
    decide +kernel
  have htaken : ¬ terminal.Refuses (scan sourceFolder ["a.ink", "bad.ink"]).printed := by
    rw [hprinted]
    exact Console.not_refuses_of_all rfl
  obtain ⟨hends, -, hall⟩ := Answer.ofRun_of_taken setup htaken
  rw [run, hplan]
  exact ⟨by decide +kernel, hends.trans hexit, hall.trans hprinted⟩

end KnotAtlas.Cli
