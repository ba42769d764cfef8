import KnotAtlas.Proofs.Flow.Reading
import KnotAtlas.Proofs.Settings.Precedence

/-!
Which errors end the reading of settings. The first entry that cannot be read decides the error, and
what was read before it does not matter. Most errors are those of a value that does not fit its
setting; errors of other kinds arise only inside the conversions, from values that nothing looks at
first: a lifetime that no floating number comes near, a flow that is no mapping, choices that have no
parts, and a value whose parts nest too deep to be shown.
-/

namespace KnotAtlas.Settings

/-! ### Kinds of errors -/

/-- The kinds of errors, as those who handle them tell them apart: a value that does not fit, a
number out of range, a value that lacks what is asked of it, one of the wrong type, and one that
nests too deep. -/
inductive Error.Kind where
  | value
  | overflow
  | attribute
  | type
  | recursion
  deriving DecidableEq, Repr

def misuseKind : Value.Misuse → Error.Kind
  | .noAttribute .. => .attribute
  | .notIterable .. => .type
  | .notReversible .. => .type

def shownKind : Datum.ShowFault → Error.Kind
  | .tooLong => .value
  | .tooDeep => .recursion

def faultKind : FlowMap.Fault → Error.Kind
  | .misuse m => misuseKind m
  | .notShown f => shownKind f

def Error.kind : Error → Error.Kind
  | .notBoolean .. => .value
  | .notSeconds .. => .value
  | .negative .. => .value
  | .tooLarge => .overflow
  | .notShown f => shownKind f
  | .flowsNotMapping => .value
  | .misuse m => misuseKind m
  | .flows fault => faultKind fault
  | .unknownOverride _ => .type

/-! ### Values of one setting -/

/-- Whether an entry gives a setting a value. -/
def IsFor (key : Key) (v : Datum) (entry : Datum × Datum) : Prop :=
  entry = (.str key.word, v) ∧ v.isNull = false

theorem IsFor.eq {key : Key} {v w : Datum} {word : String} (h : IsFor key v (.str word, w)) :
    Key.ofWord? word = some key ∧ v = w := by
  obtain ⟨⟨⟩, -⟩ := h
  exact ⟨Key.ofWord?_eq_some_iff.mpr rfl, rfl⟩

section Reading

variable [Datum.ShowLimit]

/-- Whether an error says of the value of a setting that it does not fit. -/
inductive Tells (name : String) (v : Datum) : Error → Prop
  | notBoolean : Tells name v (.notBoolean name v)
  | notSeconds : Tells name v (.notSeconds name v)
  | negative : Tells name v (.negative name v)
  | notShown {f : Datum.ShowFault} : v.fault? = some f → Tells name v (.notShown f)

theorem Tells.kind_eq {name : String} {v : Datum} {e : Error} (h : Tells name v e) :
    e.kind = .value ∨ e.kind = .recursion ∧ v.fault? = some .tooDeep := by
  cases h with
  | notBoolean | notSeconds | negative => exact .inl rfl
  | @notShown f hfault =>
      cases f with
      | tooLong => exact .inl rfl
      | tooDeep => exact .inr ⟨rfl, hfault⟩

theorem tells_of_readText {name : String} {v : Datum} {e : Error} (h : readText v = .error e) :
    Tells name v e := by
  rw [readText, Datum.shown] at h
  cases hfault : v.fault? with
  | some f =>
      rw [hfault] at h
      cases h
      exact .notShown hfault
  | none =>
      rw [hfault] at h
      cases h

theorem tells_of_readSwitch {name : String} {v : Datum} {e : Error}
    (h : readSwitch name v = .error e) : Tells name v e := by
  unfold readSwitch at h
  split at h
  · cases h
  · rcases Except.bind_eq_error_iff.mp h with htext | ⟨text, -, h⟩
    · exact tells_of_readText htext
    · dsimp only at h
      split at h
      · cases h
      · split at h
        · cases h
        · cases h
          exact .notBoolean

theorem tells_of_showing {name : String} {v : Datum} {e : Error}
    (h : (Error.notSeconds name v).showing v = e) : Tells name v e := by
  rw [Error.showing] at h
  split at h
  · rename_i f hfault
    exact h ▸ .notShown hfault
  · exact h ▸ .notSeconds

/-- A value is no lifetime because it does not fit, or because it is an integer that no floating
number comes near. -/
theorem readSpan_eq_error {name : String} {v : Datum} {e : Error} (h : readSpan name v = .error e) :
    Tells name v e ∨ e = .tooLarge ∧ ∃ n, v = .int n ∧ Decimal.ofInt? n = none := by
  rcases Except.bind_eq_error_iff.mp h with hnumber | ⟨x, -, hsign⟩
  · unfold readNumber at hnumber
    split at hnumber
    · cases hnumber
    · cases hnumber
    · rename_i n
      split at hnumber
      · cases hnumber
      · rename_i hnone
        cases hnumber
        exact .inr ⟨rfl, n, rfl, hnone⟩
    · split at hnumber
      · cases hnumber
      · cases hnumber
        exact .inl .notSeconds
    · exact .inl (tells_of_showing (Except.error.inj hnumber))
  · split at hsign
    · cases hsign
      exact .inl .negative
    · cases hsign

/-! ### What slips by -/

/-- The settings that are lifetimes. -/
def lifetimeKeys : List Key :=
  [.staticTtl, .sourceTtl, .compiledTtl]

/-- Values that nothing looks at before a conversion fails on them, with the kind of its error. -/
inductive Slips : Error.Kind → Key → Datum → Prop
  | lifetime {key : Key} {n : Int} :
      key ∈ lifetimeKeys → Decimal.ofInt? n = none → Slips .overflow key (.int n)
  | deep {key : Key} {v : Datum} :
      key ≠ .flows → v.fault? = some .tooDeep → Slips .recursion key v
  | flow {fault : FlowMap.Fault} {front rest : List (Datum × Datum)} {name v : Datum} :
      (∃ flows, FlowMap.ofEntries front = .ok flows) → FlowMap.Unreadable fault name v →
      fault ≠ .notShown .tooLong →
      Slips (faultKind fault) .flows (.mapping (front ++ (name, v) :: rest))

theorem readFlows_eq_error {v : Datum} {e : Error} (h : readFlows v = .error e) :
    e.kind = .value ∨ Slips e.kind .flows v := by
  unfold readFlows at h
  split at h
  · rename_i entries
    obtain ⟨fault, hfault, rfl⟩ := Except.mapError_eq_error_iff.mp h
    obtain ⟨front, name, v, rest, rfl, hfront, hfails⟩ :=
      FlowMap.ofEntries_eq_error_iff.mp hfault
    by_cases hlong : fault = .notShown .tooLong
    · exact .inl (hlong ▸ rfl)
    · exact .inr (.flow hfront hfails hlong)
  · cases h
    exact .inl rfl

/-- A value that fits no setting is told as such, or slips by. -/
theorem parse_eq_error {key : Key} {name : String} {v : Datum} {e : Error}
    (h : parse key name v = .error e) : e.kind = .value ∨ Slips e.kind key v := by
  have htold : key ≠ .flows → Tells name v e → e.kind = .value ∨ Slips e.kind key v := by
    intro hkey htells
    obtain hvalue | ⟨hdeep, hfault⟩ := htells.kind_eq
    · exact .inl hvalue
    · rw [hdeep]
      exact .inr (.deep hkey hfault)
  unfold parse at h
  split at h
  case h_1 | h_2 | h_3 | h_4 | h_5 =>
    exact htold (by decide) (tells_of_readSwitch (Except.map_eq_error_iff.mp h))
  case h_6 | h_7 | h_8 =>
    rcases readSpan_eq_error (Except.map_eq_error_iff.mp h) with htells | ⟨rfl, n, rfl, hn⟩
    · exact htold (by decide) htells
    · exact .inr (.lifetime (by decide) hn)
  case h_9 => exact htold (by decide) (tells_of_readText (Except.map_eq_error_iff.mp h))
  case h_10 => exact readFlows_eq_error (Except.map_eq_error_iff.mp h)

section Deep

variable {v : Datum} {f : Datum.ShowFault}

theorem readText_of_fault (h : v.fault? = some f) : readText v = .error (.notShown f) := by
  rw [readText, Datum.shown, h]
  rfl

/-- What cannot be shown for its depth has parts, so it is no truth value. -/
theorem readSwitch_of_tooDeep (name : String) (h : v.fault? = some .tooDeep) :
    readSwitch name v = .error (.notShown .tooDeep) := by
  have htext := readText_of_fault h
  cases v with
  | bool b => cases h
  | null | int _ | float _ | str _ | date _ | moment _ _ | list _ | tuple _ | mapping _ =>
      rw [readSwitch, htext]
      · rfl
      · exact fun _ hbool => by cases hbool

/-- Nor is it a number or a text. -/
theorem readSpan_of_tooDeep (name : String) (h : v.fault? = some .tooDeep) :
    readSpan name v = .error (.notShown .tooDeep) := by
  have hshowing : (Error.notSeconds name v).showing v = .notShown .tooDeep := by
    rw [Error.showing, h]
  suffices hnumber : readNumber name v = .error (.notShown .tooDeep) by
    rw [readSpan, hnumber]
    rfl
  cases v with
  | bool _ | float _ | str _ => cases h
  | int n =>
      rw [Datum.fault?, Datum.showFault?] at h
      split at h
      · cases h
      · cases h
  | null | date _ | moment _ _ | list _ | tuple _ | mapping _ =>
      exact congrArg Except.error hshowing

end Deep

theorem Slips.parse_eq {k : Error.Kind} {key : Key} {v : Datum} (h : Slips k key v)
    (name : String) : ∃ e, parse key name v = .error e ∧ e.kind = k := by
  cases h with
  | @lifetime key n hkey hn =>
      have hspan : readSpan name (.int n) = .error .tooLarge := by
        rw [readSpan, readNumber, hn]
        rfl
      simp only [lifetimeKeys, List.mem_cons, List.not_mem_nil, or_false] at hkey
      refine ⟨.tooLarge, ?_, rfl⟩
      rcases hkey with rfl | rfl | rfl <;> exact Except.map_eq_error_iff.mpr hspan
  | @deep key v hkey hfault =>
      refine ⟨.notShown .tooDeep, ?_, rfl⟩
      cases key with
      | debug | staticValidation | sourceCache | compiledCache | useSample =>
          exact Except.map_eq_error_iff.mpr (readSwitch_of_tooDeep name hfault)
      | staticTtl | sourceTtl | compiledTtl =>
          exact Except.map_eq_error_iff.mpr (readSpan_of_tooDeep name hfault)
      | fallbackKnot => exact Except.map_eq_error_iff.mpr (readText_of_fault hfault)
      | flows => exact absurd rfl hkey
  | @flow fault front rest name v hfront hfails _ =>
      have hflows : FlowMap.ofEntries (front ++ (name, v) :: rest) = .error fault :=
        FlowMap.ofEntries_eq_error_iff.mpr ⟨front, name, v, rest, rfl, hfront, hfails⟩
      refine ⟨.flows fault, Except.map_eq_error_iff.mpr ?_, rfl⟩
      exact Except.mapError_eq_error_iff.mpr ⟨_, hflows, rfl⟩

/-! ### Mappings -/

theorem readKey_eq_error_iff {s : Settings} {key : Key} {name : String} {v : Datum} {e : Error} :
    s.readKey key name v = .error e ↔ parse key name v = .error e := by
  cases key <;>
  · rw [parse, Except.map_eq_error_iff, readKey, Except.bind_eq_error_iff]
    refine or_iff_left ?_
    rintro ⟨_, _, ⟨⟩⟩

/-- Only an entry that gives a setting a value can fail to be read, whatever was read before. -/
theorem readEntry_eq_error_iff {s : Settings} {entry : Datum × Datum} {e : Error} :
    s.readEntry entry = .error e ↔
      ∃ key v, IsFor key v entry ∧ parse key key.word v = .error e := by
  obtain ⟨name, v⟩ := entry
  constructor
  · intro h
    cases name with
    | str word =>
        rw [readEntry] at h
        split at h
        · cases h
        · rename_i key hkey
          cases Key.ofWord?_eq_some_iff.mp hkey
          cases hnull : v.isNull with
          | true =>
              rw [hnull] at h
              cases h
          | false =>
              rw [hnull] at h
              exact ⟨key, v, ⟨rfl, hnull⟩, readKey_eq_error_iff.mp h⟩
    | null | bool _ | int _ | float _ | date _ | moment _ _ | list _ | tuple _ | mapping _ =>
        cases h
  · rintro ⟨key, v, ⟨⟨⟩, hnull⟩, h⟩
    rw [readEntry, Key.ofWord?_eq_some_iff.mpr rfl]
    simp only [hnull, Bool.false_eq_true, if_false]
    exact readKey_eq_error_iff.mpr h

theorem readEntry_isOk_iff (entry : Datum × Datum) (s : Settings) :
    (∃ t, s.readEntry entry = .ok t) ↔
      ∀ key v, IsFor key v entry → ∃ c, parse key key.word v = .ok c := by
  simp only [Except.exists_ok_iff, ne_eq, readEntry_eq_error_iff, not_exists, not_and]
  exact ⟨fun h key v hentry e => h e key v hentry, fun h e key v hentry => h key v hentry e⟩

/-- The first entry that cannot be read decides the error. -/
theorem ofEntries_eq_error_iff {entries : List (Datum × Datum)} {e : Error} :
    ofEntries entries = .error e ↔
      ∃ front entry rest, entries = front ++ entry :: rest ∧ (∃ s, ofEntries front = .ok s) ∧
        ∃ key v, IsFor key v entry ∧ parse key key.word v = .error e := by
  rw [ofEntries, Except.foldlM_eq_error_iff]
  constructor
  · rintro ⟨front, entry, rest, s, hentries, hfront, hentry⟩
    exact ⟨front, entry, rest, hentries, ⟨s, hfront⟩, readEntry_eq_error_iff.mp hentry⟩
  · rintro ⟨front, entry, rest, hentries, ⟨s, hfront⟩, hentry⟩
    exact ⟨front, entry, rest, s, hentries, hfront, readEntry_eq_error_iff.mpr hentry⟩

/-- How reading a mapping ends. It gives settings exactly if every value that is given to a setting
can be read, whatever else the mapping holds. The first that cannot be read decides the error, which
is that of a value unless that value slips by; and where none slips by, a mapping gives settings or
an error of a value. -/
theorem mapping_read_or_refused (entries : List (Datum × Datum)) :
    ((∃ s, ofEntries entries = .ok s) ↔
      ∀ entry ∈ entries, ∀ key v, IsFor key v entry → ∃ c, parse key key.word v = .ok c) ∧
    (∀ k : Error.Kind, k ≠ .value →
      ((∃ e, ofEntries entries = .error e ∧ e.kind = k) ↔
        ∃ front entry rest, entries = front ++ entry :: rest ∧ (∃ s, ofEntries front = .ok s) ∧
          ∃ key v, IsFor key v entry ∧ Slips k key v)) ∧
    ((∀ entry ∈ entries, ∀ key v k, IsFor key v entry → ¬ Slips k key v) →
      (∃ s, ofEntries entries = .ok s) ∨ ∃ e, ofEntries entries = .error e ∧ e.kind = .value) := by
  have hkinds : ∀ e, ofEntries entries = .error e → e.kind ≠ .value →
      ∃ front entry rest, entries = front ++ entry :: rest ∧ (∃ s, ofEntries front = .ok s) ∧
        ∃ key v, IsFor key v entry ∧ Slips e.kind key v := by
    intro e herror hkind
    obtain ⟨front, entry, rest, hentries, hfront, key, v, hentry, hparse⟩ :=
      ofEntries_eq_error_iff.mp herror
    rcases parse_eq_error hparse with hvalue | hslips
    · exact absurd hvalue hkind
    · exact ⟨front, entry, rest, hentries, hfront, key, v, hentry, hslips⟩
  refine ⟨Except.foldlM_isOk_iff readEntry_isOk_iff, fun k hk => ⟨?_, ?_⟩, fun hnone => ?_⟩
  · rintro ⟨e, herror, rfl⟩
    exact hkinds e herror hk
  · rintro ⟨front, entry, rest, hentries, hfront, key, v, hentry, hslips⟩
    obtain ⟨e, hparse, hkind⟩ := hslips.parse_eq key.word
    exact ⟨e, ofEntries_eq_error_iff.mpr
      ⟨front, entry, rest, hentries, hfront, key, v, hentry, hparse⟩, hkind⟩
  · cases hread : ofEntries entries with
    | ok s => exact .inl ⟨s, rfl⟩
    | error e =>
        refine .inr ⟨e, rfl, Decidable.byContradiction fun hkind => ?_⟩
        obtain ⟨front, entry, rest, rfl, -, key, v, hentry, hslips⟩ := hkinds e hread hkind
        exact hnone entry (List.mem_append_right _ (.head _)) key v _ hentry hslips

end Reading

/-- A lifetime, a flow with one choice, and a switch that is neither on nor off. -/
def undecidedEntries : List (Datum × Datum) :=
  [(.str "static_cache_ttl", .int 60),
    (.str "flow_map", .mapping [(.str "A", .mapping [(.str "choices", .list [.str "B"])])]),
    (.str "debug", .str "maybe")]

theorem undecidedEntries_refused :
    ∃ e, ofEntries undecidedEntries = .error e ∧ e.kind = .value := by
  obtain ⟨hread, -, hkinds⟩ := mapping_read_or_refused undecidedEntries
  have hswitch : ∃ e, parse .debug "debug" (.str "maybe") = .error e := ⟨_, rfl⟩
  refine (hkinds fun entry hentry key v k hfor hslips => ?_).resolve_left fun hok => ?_
  · obtain ⟨e, herror, hkind⟩ := hslips.parse_eq key.word
    simp only [undecidedEntries, List.mem_cons, List.not_mem_nil, or_false] at hentry
    obtain rfl | rfl | rfl := hentry <;> obtain ⟨⟨⟩, rfl⟩ := hfor.eq
    · cases herror
    · cases herror
    · cases hslips with
      | deep _ hfault => cases hfault
  · obtain ⟨e, herror⟩ := hswitch
    obtain ⟨c, hc⟩ := hread.mp hok _ (.tail _ (.tail _ (.head _))) .debug (.str "maybe") ⟨rfl, rfl⟩
    cases herror.symm.trans hc

/-- A flow map whose flow is a number. -/
def numberFlow : List (Datum × Datum) :=
  [(.str "flow_map", .mapping [(.str "A", .int 5)])]

/-- The flow is asked for its choices before it is looked at. -/
theorem numberFlow_slips :
    ¬ ((∃ s, ofEntries numberFlow = .ok s) ∨
      ∃ e, ofEntries numberFlow = .error e ∧ e.kind = .value) ∧
    ∃ e, ofEntries numberFlow = .error e ∧ e.kind = .attribute ∧
      e.message = "'int' object has no attribute 'get'" := by
  have herror : ofEntries numberFlow = .error (.flows (.misuse (.noAttribute "int" "get"))) := rfl
  refine ⟨?_, _, herror, rfl, by decide⟩
  rintro (⟨s, h⟩ | ⟨e, h, hkind⟩)
  · cases herror.symm.trans h
  · cases herror.symm.trans h
    cases hkind

end KnotAtlas.Settings
