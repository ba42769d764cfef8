import KnotAtlas.Cli.Console
import KnotAtlas.Proofs.Except

/-!
What a console makes of a run. A run of which it takes everything is left as it is. Any other ends at
the first thing that the console can make nothing of, by a failure that no command has words for.
What is seen of a table may be anything, but there are consoles that show cells without marks as they
stand; the terminal is one.
-/

namespace KnotAtlas.Cli

section Cutting

variable {α : Type} {c : Console} {x : Run α} {setup : Log.Setup}

/-- Whether a console can make nothing of something among what is handed over. -/
def Console.Refuses (c : Console) (handed : List Print) : Prop :=
  ∃ p ∈ handed, ∃ fault, c p = .error fault

theorem Console.fault?_eq_some_iff {p : Print} {fault : String} :
    c.fault? p = some fault ↔ c p = .error fault := by
  rw [Console.fault?]
  cases c p with
  | ok seen => exact ⟨fun h => (by cases h), fun h => (by cases h)⟩
  | error e =>
      constructor
      · intro h
        cases h
        rfl
      · intro h
        cases h
        rfl

theorem Console.fault?_of_taken {handed : List Print} (h : ¬ c.Refuses handed) {p : Print}
    (hp : p ∈ handed) : c.fault? p = none := by
  cases hfault : c.fault? p with
  | none => rfl
  | some fault => exact absurd ⟨p, hp, fault, Console.fault?_eq_some_iff.mp hfault⟩ h

theorem Console.not_refuses {handed : List Print} (h : ∀ p ∈ handed, c.fault? p = none) :
    ¬ c.Refuses handed := by
  rintro ⟨p, hp, fault, hfault⟩
  have hnone := h p hp
  rw [Console.fault?_eq_some_iff.mpr hfault] at hnone
  cases hnone

theorem Console.not_refuses_of_all {handed : List Print}
    (h : handed.all (fun p => (c.fault? p).isNone) = true) : ¬ c.Refuses handed :=
  Console.not_refuses fun p hp => Option.isNone_iff_eq_none.mp (List.all_eq_true.mp h p hp)

theorem Run.on_of_taken (h : ¬ c.Refuses x.printed) : x.on c = x := by
  have hnone : x.printed.findSome? c.fault? = none :=
    List.findSome?_eq_none_iff.mpr fun _ hp => Console.fault?_of_taken h hp
  rw [Run.on, hnone]

theorem Run.outcome_on_of_refused (h : c.Refuses x.printed) :
    ∃ fault, (x.on c).outcome = .error (.escaped (.badMarks fault)) := by
  obtain ⟨p, hp, fault, hfault⟩ := h
  have hsome : (x.printed.findSome? c.fault?).isSome := by
    rw [List.findSome?_isSome_iff]
    exact ⟨p, hp, by rw [Console.fault?_eq_some_iff.mpr hfault]; rfl⟩
  obtain ⟨first, hfirst⟩ := Option.isSome_iff_exists.mp hsome
  rw [Run.on, hfirst]
  exact ⟨first, rfl⟩

/-- What is answered of a run of which the console takes everything. -/
theorem Answer.ofRun_of_taken (setup : Log.Setup) {x : Run Unit} (h : ¬ c.Refuses x.printed) :
    (ofRun c setup x).exit = exitOf x.outcome ∧ (ofRun c setup x).escape = escapeOf x.outcome ∧
      (ofRun c setup x).printed = x.printed := by
  rw [ofRun, Run.on_of_taken h]
  exact ⟨rfl, rfl, rfl⟩

theorem Answer.ofRun_of_refused (setup : Log.Setup) {x : Run Unit} (h : c.Refuses x.printed) :
    (ofRun c setup x).exit = 1 ∧ ∃ fault, (ofRun c setup x).escape = some (.badMarks fault) := by
  obtain ⟨fault, hfault⟩ := Run.outcome_on_of_refused h
  rw [ofRun]
  dsimp only
  rw [hfault]
  exact ⟨rfl, fault, rfl⟩

theorem Answer.exit_ofRun_eq_one_iff {x : Run Unit} :
    (ofRun c setup x).exit = 1 ↔ exitOf x.outcome = 1 ∨ c.Refuses x.printed := by
  by_cases h : c.Refuses x.printed
  · exact iff_of_true (ofRun_of_refused setup h).1 (.inr h)
  · rw [(ofRun_of_taken setup h).1, or_iff_left h]

theorem Answer.exit_ofRun_eq_zero_iff {x : Run Unit} :
    (ofRun c setup x).exit = 0 ↔ exitOf x.outcome = 0 ∧ ¬ c.Refuses x.printed := by
  by_cases h : c.Refuses x.printed
  · rw [(ofRun_of_refused setup h).1]
    exact iff_of_false Nat.one_ne_zero fun hboth => hboth.2 h
  · rw [(ofRun_of_taken setup h).1, and_iff_left h]

theorem Answer.isSome_escape_ofRun_iff {x : Run Unit} :
    (ofRun c setup x).escape.isSome ↔ (escapeOf x.outcome).isSome ∨ c.Refuses x.printed := by
  by_cases h : c.Refuses x.printed
  · obtain ⟨-, fault, hfault⟩ := ofRun_of_refused setup h
    rw [hfault]
    exact iff_of_true rfl (.inr h)
  · rw [(ofRun_of_taken setup h).2.1, or_iff_left h]

end Cutting

section Seeing

/-- Whether a cell holds nothing but words, commas, blanks and dashes. -/
def IsPlainCell (cell : String) : Prop :=
  ∀ ch ∈ cell.toList, Text.isWordChar ch = true ∨ ch ∈ [',', ' ', '-']

/-- Whether tables are seen with all their cells, and plain ones as they stand. -/
def Console.ShowsPlainCells (c : Console) : Prop :=
  ∀ t seen, c (.table t) = .ok seen → ∃ u, seen = .table u ∧
    List.Forall₂ (List.Forall₂ fun cell shown => IsPlainCell cell → shown = cell) t.rows u.rows

theorem fault?_terminal_ofList {cs shown : List Char} (h : withoutMarks [] 0 0 cs = .ok shown) :
    terminal.fault? (.markup (String.ofList cs)) = none := by
  rw [Console.fault?, terminal, shownText, String.toList_ofList, h]
  rfl

/-- Text without brackets has no marks. -/
theorem withoutMarks_eq_of_unbracketed {opened : List (List Char)} {place : Nat} {cs : List Char}
    (h : '[' ∉ cs) : withoutMarks opened 0 place cs = .ok cs := by
  induction cs generalizing place with
  | nil => rfl
  | cons c rest ih =>
      obtain ⟨hc, hrest⟩ := not_or.mp (mt List.mem_cons.mpr h)
      have hmark : markAt? (c :: rest) = none := by
        unfold markAt?
        split
        · rename_i heq
          cases heq
          exact absurd rfl hc
        · rfl
      simp only [withoutMarks.eq_def opened 0 place (c :: rest), hmark, ih hrest]
      rfl

theorem shownText_of_plain {cell : String} (h : IsPlainCell cell) : shownText cell = .ok cell := by
  have hunbracketed : '[' ∉ cell.toList := by
    intro hmem
    rcases h _ hmem with hword | hsign
    · exact absurd hword (by decide)
    · exact absurd hsign (by decide)
  rw [shownText, withoutMarks_eq_of_unbracketed hunbracketed]
  exact congrArg Except.ok String.ofList_toList

theorem terminal_showsPlainCells : terminal.ShowsPlainCells := by
  intro t seen h
  obtain ⟨title, -, h⟩ := Except.bind_eq_ok_iff.mp h
  obtain ⟨columns, -, h⟩ := Except.bind_eq_ok_iff.mp h
  obtain ⟨rows, hrows, h⟩ := Except.bind_eq_ok_iff.mp h
  cases h
  refine ⟨_, rfl, ?_⟩
  rw [Except.mapM_eq_ok_iff] at hrows
  refine hrows.imp fun row shown hrow => ?_
  rw [Except.mapM_eq_ok_iff] at hrow
  refine hrow.imp fun cell shownCell hcell hplain => ?_
  rw [shownText_of_plain hplain] at hcell
  exact (Except.ok.inj hcell).symm

end Seeing
end KnotAtlas.Cli
