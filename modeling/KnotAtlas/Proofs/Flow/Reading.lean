import KnotAtlas.Flow.Reading
import KnotAtlas.Proofs.Except

/-!
Why data give no flow map. A flow may be no mapping, and its choices may count as some and have no
parts; then they are used as if they were of another kind. A name, a choice or a default may be one
that cannot be shown. What is wrong with a flow map is what is wrong with the first entry that cannot
be read.
-/

namespace KnotAtlas

namespace Datum

theorem parts_eq_error_iff {v : Datum} {m : Value.Misuse} :
    v.parts = .error m ↔ (∀ items, v.parts ≠ .ok items) ∧ m = .notIterable v.kind := by
  cases v <;> simp [parts, eq_comm]

theorem entry?_of_isTruthy {entries : List (Datum × Datum)} {key : String}
    (h : ((Datum.entry? entries key).getD .null).isTruthy = true) :
    ∃ v, Datum.entry? entries key = some v := by
  cases hentry : Datum.entry? entries key with
  | none =>
      rw [hentry] at h
      cases h
  | some v => exact ⟨v, rfl⟩

end Datum

variable [Datum.ShowLimit]

namespace Flow

/-- What can be wrong with a flow. Its choices come before its default. -/
inductive Unreadable : FlowMap.Fault → Datum → Prop
  | flow {v : Datum} (h : ∀ entries, v ≠ .mapping entries) :
      Unreadable (.misuse (.noAttribute v.kind "get")) v
  | choices {entries : List (Datum × Datum)} {choices : Datum}
      (h : Datum.entry? entries "choices" = some choices) (htruthy : choices.isTruthy = true)
      (hparts : ∀ items, choices.parts ≠ .ok items) :
      Unreadable (.misuse (.notIterable choices.kind)) (.mapping entries)
  | choice {entries : List (Datum × Datum)} {choices item : Datum} {front rest : List Datum}
      {f : Datum.ShowFault} (h : Datum.entry? entries "choices" = some choices)
      (htruthy : choices.isTruthy = true) (hparts : choices.parts = .ok (front ++ item :: rest))
      (hfront : ∀ v ∈ front, v.fault? = none) (hitem : item.fault? = some f) :
      Unreadable (.notShown f) (.mapping entries)
  | default {entries : List (Datum × Datum)} {f : Datum.ShowFault}
      (hchoices : ∃ names, readChoices ((Datum.entry? entries "choices").getD .null) = .ok names)
      (htruthy : (defaultOf entries).isTruthy = true) (h : (defaultOf entries).fault? = some f) :
      Unreadable (.notShown f) (.mapping entries)

theorem readName_eq_error_iff {v : Datum} {fault : FlowMap.Fault} :
    readName v = .error fault ↔ ∃ f, v.fault? = some f ∧ fault = .notShown f := by
  rw [readName, Datum.shown]
  cases v.fault? with
  | none => exact ⟨fun h => (by cases h), fun ⟨_, h, _⟩ => (by cases h)⟩
  | some f =>
      constructor
      · exact fun h => ⟨f, rfl, (Except.error.inj h).symm⟩
      · rintro ⟨f', hf, rfl⟩
        cases hf
        rfl

theorem readName_isOk_iff {v : Datum} : (∃ name, readName v = .ok name) ↔ v.fault? = none := by
  rw [readName, Datum.shown]
  cases v.fault? with
  | none => exact ⟨fun _ => rfl, fun _ => ⟨_, rfl⟩⟩
  | some f => exact ⟨fun ⟨_, h⟩ => (by cases h), fun h => (by cases h)⟩

theorem readChoices_eq_error_iff {v : Datum} {fault : FlowMap.Fault} :
    readChoices v = .error fault ↔ v.isTruthy = true ∧
      ((∀ items, v.parts ≠ .ok items) ∧ fault = .misuse (.notIterable v.kind) ∨
        ∃ front item rest f, v.parts = .ok (front ++ item :: rest) ∧
          (∀ w ∈ front, w.fault? = none) ∧ item.fault? = some f ∧ fault = .notShown f) := by
  rw [readChoices]
  cases htruthy : v.isTruthy with
  | false => exact ⟨fun h => (by cases h), fun h => absurd h.1 Bool.false_ne_true⟩
  | true =>
      simp only [if_true, true_and, Except.bind_eq_error_iff, Except.mapError_eq_error_iff,
        Datum.parts_eq_error_iff, Except.mapError_eq_ok_iff, Except.mapM_eq_error_iff,
        readName_eq_error_iff, readName_isOk_iff]
      constructor
      · rintro (⟨m, ⟨hparts, rfl⟩, rfl⟩ | ⟨items, hparts, front, item, rest, rfl, hfront, f, hf, rfl⟩)
        · exact .inl ⟨hparts, rfl⟩
        · exact .inr ⟨front, item, rest, f, hparts, hfront, hf, rfl⟩
      · rintro (⟨hparts, rfl⟩ | ⟨front, item, rest, f, hparts, hfront, hf, rfl⟩)
        · exact .inl ⟨_, ⟨hparts, rfl⟩, rfl⟩
        · exact .inr ⟨_, hparts, front, item, rest, rfl, hfront, f, hf, rfl⟩

theorem ofDatum_eq_error_iff {v : Datum} {fault : FlowMap.Fault} :
    ofDatum v = .error fault ↔ Unreadable fault v := by
  constructor
  · intro h
    cases v with
    | mapping entries =>
        rw [ofDatum] at h
        rcases Except.bind_eq_error_iff.mp h with hchoices | ⟨names, hnames, h⟩
        · obtain ⟨htruthy, hwrong⟩ := readChoices_eq_error_iff.mp hchoices
          obtain ⟨choices, hentry⟩ := Datum.entry?_of_isTruthy htruthy
          rw [hentry, Option.getD_some] at htruthy hwrong
          obtain ⟨hparts, rfl⟩ | ⟨front, item, rest, f, hparts, hfront, hitem, rfl⟩ := hwrong
          · exact .choices hentry htruthy hparts
          · exact .choice hentry htruthy hparts hfront hitem
        · dsimp only at h
          split at h
          · rename_i htruthy
            rcases Except.bind_eq_error_iff.mp h with hdefault | ⟨default?, -, h⟩
            · obtain ⟨f, hf, rfl⟩ := readName_eq_error_iff.mp (Except.map_eq_error_iff.mp hdefault)
              exact .default ⟨names, hnames⟩ htruthy hf
            · cases h
          · cases h
    | null | bool _ | int _ | float _ | str _ | date _ | moment _ _ | list _ | tuple _ =>
        cases h
        exact .flow fun entries h => (by cases h)
  · intro h
    cases h with
    | flow hflow =>
        cases v with
        | mapping entries => exact absurd rfl (hflow entries)
        | null | bool _ | int _ | float _ | str _ | date _ | moment _ _ | list _ | tuple _ => rfl
    | choices hentry htruthy hparts =>
        rw [ofDatum, hentry]
        exact Except.bind_eq_error_iff.mpr
          (.inl (readChoices_eq_error_iff.mpr ⟨htruthy, .inl ⟨hparts, rfl⟩⟩))
    | @choice entries choices item front rest f hentry htruthy hparts hfront hitem =>
        rw [ofDatum, hentry]
        exact Except.bind_eq_error_iff.mpr (.inl (readChoices_eq_error_iff.mpr
          ⟨htruthy, .inr ⟨front, item, rest, f, hparts, hfront, hitem, rfl⟩⟩))
    | @default entries f hchoices htruthy hfault =>
        obtain ⟨names, hnames⟩ := hchoices
        have hname := readName_eq_error_iff.mpr ⟨f, hfault, rfl⟩
        rw [ofDatum, hnames]
        simp only [htruthy, if_true, hname]
        rfl

end Flow

namespace FlowMap

/-- What can be wrong with an entry of a flow map. Its name comes before its flow. -/
inductive Unreadable (fault : Fault) (name flow : Datum) : Prop
  | name {f : Datum.ShowFault} (h : name.fault? = some f) (hfault : fault = .notShown f)
  | flow (hname : name.fault? = none) (h : Flow.Unreadable fault flow)

/-- What is wrong with a flow map is what is wrong with its first entry that cannot be read. -/
theorem ofEntries_eq_error_iff {entries : List (Datum × Datum)} {fault : Fault} :
    ofEntries entries = .error fault ↔
      ∃ front name v rest, entries = front ++ (name, v) :: rest ∧
        (∃ flows, ofEntries front = .ok flows) ∧ Unreadable fault name v := by
  rw [ofEntries, Except.foldlM_eq_error_iff]
  constructor
  · rintro ⟨front, ⟨name, v⟩, rest, flows, rfl, hfront, hstep⟩
    refine ⟨front, name, v, rest, rfl, ⟨flows, hfront⟩, ?_⟩
    rcases Except.bind_eq_error_iff.mp hstep with hname | ⟨word, hname, hstep⟩
    · obtain ⟨f, hf, hfault⟩ := Flow.readName_eq_error_iff.mp hname
      exact .name hf hfault
    · rcases Except.bind_eq_error_iff.mp hstep with hflow | ⟨flow, -, hstep⟩
      · exact .flow (Flow.readName_isOk_iff.mp ⟨word, hname⟩) (Flow.ofDatum_eq_error_iff.mp hflow)
      · cases hstep
  · rintro ⟨front, name, v, rest, rfl, ⟨flows, hfront⟩, hfails⟩
    refine ⟨front, (name, v), rest, flows, rfl, hfront, Except.bind_eq_error_iff.mpr ?_⟩
    cases hfails with
    | name hf hfault => exact .inl (Flow.readName_eq_error_iff.mpr ⟨_, hf, hfault⟩)
    | flow hname hflow =>
        obtain ⟨word, hword⟩ := Flow.readName_isOk_iff.mpr hname
        exact .inr ⟨word, hword, Except.bind_eq_error_iff.mpr
          (.inl (Flow.ofDatum_eq_error_iff.mpr hflow))⟩

end FlowMap
end KnotAtlas
