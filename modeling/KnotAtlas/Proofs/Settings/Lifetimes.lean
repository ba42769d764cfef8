import KnotAtlas.Proofs.Except
import KnotAtlas.Settings.File

/-!
Lifetimes that are read, from a file or from decoded data and then from the environment. Each is a
floating number that is not below zero; one that is no number at all comes from a value that was
given.
-/

namespace KnotAtlas.Settings

/-! ### Lifetimes of settings -/

/-- Every lifetime is a floating number with a property. -/
structure Timed (p : Float → Prop) (s : Settings) : Prop where
  graph : ∃ x, s.staticTtl = .own x ∧ p x
  scans : ∃ x, s.sourceTtl = .own x ∧ p x
  story : ∃ x, s.compiledTtl = .own x ∧ p x

theorem Timed.default {p : Float → Prop} (h300 : p 300) (h600 : p 600) : Timed p {} :=
  ⟨⟨300, rfl, h300⟩, ⟨300, rfl, h300⟩, ⟨600, rfl, h600⟩⟩

/-- The lifetimes of the graph, of scans and of the compiled story. -/
def lifetimes (s : Settings) : List (Setting Float) :=
  [s.staticTtl, s.sourceTtl, s.compiledTtl]

theorem Timed.forall_lifetimes {p : Float → Prop} {s : Settings} (h : Timed p s) :
    ∀ ttl ∈ s.lifetimes, ∃ x, ttl = .own x ∧ p x := by
  simp only [lifetimes, List.forall_mem_cons]
  exact ⟨h.graph, h.scans, h.story, fun _ hnone => absurd hnone List.not_mem_nil⟩

/-! ### What is read -/

theorem foldlM_invariant {ι : Type} {step : Settings → ι → Except Error Settings}
    {inv : Settings → Prop} {items : List ι} {s t : Settings}
    (hstep : ∀ i ∈ items, ∀ s t, inv s → step s i = .ok t → inv t) (hs : inv s)
    (h : items.foldlM step s = .ok t) : inv t := by
  induction items generalizing s with
  | nil =>
      cases h
      exact hs
  | cons i rest ih =>
      rw [List.foldlM_cons] at h
      obtain ⟨m, hm, hrest⟩ := Except.bind_eq_ok_iff.mp h
      have hfirst := hstep i (.head rest) s m hs hm
      exact ih (fun j hj => hstep j (.tail i hj)) hfirst hrest

theorem mem_of_variableOf? {env : Environment} {key : Key} {named : String × String}
    (h : variableOf? env key = some named) : named ∈ env := by
  obtain ⟨name, -, h⟩ := Option.bind_eq_some_iff.mp h
  obtain ⟨value, hvalue, h⟩ := Option.bind_eq_some_iff.mp h
  split at h
  · cases h
  · cases h
    exact OrderedMap.mem_of_find? hvalue

variable [Datum.ShowLimit]

theorem readSpan_eq_ok_iff {name : String} {v : Datum} {x : Float} :
    readSpan name v = .ok x ↔ readNumber name v = .ok x ∧ ¬x < 0 := by
  rw [readSpan, Except.bind_eq_ok_iff]
  constructor
  · rintro ⟨y, hread, hspan⟩
    split at hspan
    · cases hspan
    · rename_i hnonneg
      cases hspan
      exact ⟨hread, hnonneg⟩
  · rintro ⟨hread, hnonneg⟩
    exact ⟨x, hread, if_neg hnonneg⟩

theorem ofText?_of_readNumber {name text : String} {x : Float}
    (h : readNumber name (.str text) = .ok x) : Decimal.ofText? text = some x := by
  rw [readNumber] at h
  split at h
  · rename_i y hy
    cases h
    exact hy
  · cases h

namespace Timed

variable {p : Float → Prop} {s t : Settings}

theorem readKey (h : Timed p s) {key : Key} {name : String} {v : Datum}
    (hreads : ∀ x, readSpan name v = .ok x → p x) (hkey : s.readKey key name v = .ok t) :
    Timed p t := by
  cases key <;> obtain ⟨a, ha, ⟨⟩⟩ := Except.bind_eq_ok_iff.mp hkey
  case staticTtl => exact ⟨⟨a, rfl, hreads a ha⟩, h.scans, h.story⟩
  case sourceTtl => exact ⟨h.graph, ⟨a, rfl, hreads a ha⟩, h.story⟩
  case compiledTtl => exact ⟨h.graph, h.scans, ⟨a, rfl, hreads a ha⟩⟩
  all_goals exact ⟨h.graph, h.scans, h.story⟩

theorem readEntry (h : Timed p s) {entry : Datum × Datum}
    (hreads : ∀ name x, readSpan name entry.2 = .ok x → p x)
    (hentry : s.readEntry entry = .ok t) : Timed p t := by
  obtain ⟨name, v⟩ := entry
  cases name with
  | str word =>
      rw [Settings.readEntry] at hentry
      split at hentry
      · cases hentry
        exact h
      · split at hentry
        · cases hentry
          exact h
        · exact h.readKey (hreads word) hentry
  | null | bool _ | int _ | float _ | date _ | moment _ _ | list _ | tuple _ | mapping _ =>
      cases hentry
      exact h

theorem readVariable (h : Timed p s) {env : Environment} {key : Key}
    (hreads : ∀ e ∈ env, ∀ name x, readSpan name (.str e.2) = .ok x → p x)
    (hkey : s.readVariable env key = .ok t) : Timed p t := by
  rw [Settings.readVariable] at hkey
  split at hkey
  · cases hkey
    exact h
  · rename_i name value hfound
    exact h.readKey (hreads (name, value) (mem_of_variableOf? hfound) name) hkey

theorem ofEntries {entries : List (Datum × Datum)} (h300 : p 300) (h600 : p 600)
    (hreads : ∀ entry ∈ entries, ∀ name x, readSpan name entry.2 = .ok x → p x)
    (h : Settings.ofEntries entries = .ok t) : Timed p t :=
  foldlM_invariant (fun entry hentry _ _ hs => hs.readEntry (hreads entry hentry))
    (.default h300 h600) h

theorem withEnvironment (h : Timed p s) {env : Environment}
    (hreads : ∀ e ∈ env, ∀ name x, readSpan name (.str e.2) = .ok x → p x)
    (henv : s.withEnvironment env = .ok t) : Timed p t :=
  foldlM_invariant (fun _ _ _ _ hs => hs.readVariable hreads) h henv

end Timed

/-! ### Where it is read from -/

/-- What settings are read from before the environment is looked at: a file, with whatever reads its
text, or data. -/
inductive Origin (φ : Type) where
  | file (read : Reader φ) (tree : Files.Tree) (path : Option String)
  | data (entries : List (Datum × Datum))

section Files

variable {φ : Type}

/-- The entries of the mapping that the bytes of a file hold; there are none without a mapping. -/
def entriesOfBytes (read : Reader φ) (bytes : List UInt8) : List (Datum × Datum) :=
  match Text.Utf8.decode bytes with
  | .error _ => []
  | .ok cs =>
    match read (Text.plainLineEnds cs) with
    | .ok (.mapping entries) => entries
    | _ => []

/-- The entries of the file that a path stands for. -/
def entriesAt (read : Reader φ) (tree : Files.Tree) (path : String) : List (Datum × Datum) :=
  match tree.look (filePath tree path) with
  | .ok (.file bytes) => entriesOfBytes read bytes
  | _ => []

namespace Origin

def entries : Origin φ → List (Datum × Datum)
  | .file _ _ none => []
  | .file read tree (some path) => entriesAt read tree path
  | .data entries => entries

/-- The values that an origin and the environment hold. -/
def values (origin : Origin φ) (env : Environment) : List Datum :=
  origin.entries.map (·.2) ++ env.map fun e => .str e.2

/-- Whether settings are what an origin and the environment give. -/
def Gives (origin : Origin φ) (env : Environment) (s : Settings) : Prop :=
  match origin with
  | .file read tree path => loadBy read tree path env = .ok s
  | .data entries => (ofEntries entries >>= fun s => s.withEnvironment env) = .ok s

end Origin

theorem ofEntries_of_ofBytes {read : Reader φ} {path : String} {bytes : List UInt8} {s : Settings}
    (h : ofBytes read path bytes = .ok s) : ofEntries (entriesOfBytes read bytes) = .ok s := by
  rw [ofBytes] at h
  rw [entriesOfBytes]
  cases hdecode : Text.Utf8.decode bytes with
  | error fault =>
      rw [hdecode] at h
      cases h
  | ok cs =>
      rw [hdecode] at h
      obtain ⟨v, hread, hdatum⟩ := Except.bind_eq_ok_iff.mp h
      dsimp only
      rw [Except.mapError_eq_ok_iff.mp hread]
      cases v with
      | null =>
          cases hdatum
          rfl
      | mapping entries => exact Except.mapError_eq_ok_iff.mp hdatum
      | bool _ | int _ | float _ | str _ | date _ | moment _ _ | list _ | tuple _ => cases hdatum

/-- A file gives what its entries give; without a file there are the defaults. -/
theorem ofEntries_of_ofPath {read : Reader φ} {tree : Files.Tree} {path : String} {s : Settings}
    (h : ofPath read tree path = .ok s) : ofEntries (entriesAt read tree path) = .ok s := by
  unfold ofPath at h
  unfold entriesAt
  dsimp only at h
  generalize tree.look (filePath tree path) = found at h ⊢
  obtain fault | bytes | - := found
  · cases fault with
    | tooLong => cases h
    | notFound | isDirectory | notDirectory =>
        cases h
        rfl
  · exact ofEntries_of_ofBytes h
  · cases h

variable {origin : Origin φ} {env : Environment} {s : Settings}

theorem Origin.Gives.read (h : origin.Gives env s) :
    ∃ base, ofEntries origin.entries = .ok base ∧ base.withEnvironment env = .ok s := by
  cases origin with
  | file read tree path =>
      have hload : loadBy read tree path env = .ok s := h
      unfold loadBy at hload
      cases path with
      | none =>
          obtain ⟨base, ⟨⟩, henv⟩ := Except.bind_eq_ok_iff.mp hload
          exact ⟨_, rfl, Except.mapError_eq_ok_iff.mp henv⟩
      | some path =>
          obtain ⟨base, hbase, henv⟩ := Except.bind_eq_ok_iff.mp hload
          refine ⟨base, ?_, Except.mapError_eq_ok_iff.mp henv⟩
          rw [entries]
          exact ofEntries_of_ofPath hbase
  | data entries =>
      obtain ⟨base, hbase, henv⟩ := Except.bind_eq_ok_iff.mp h
      exact ⟨base, hbase, henv⟩

/-- A lifetime is never below zero, and is a number unless a value that was given is read as none. -/
theorem Origin.Gives.timed (h : origin.Gives env s) :
    Timed (fun x => ¬x < 0 ∧ (x.isNaN = true →
      ∃ v ∈ origin.values env, ∃ name, readNumber name v = .ok x)) s := by
  obtain ⟨base, hbase, henv⟩ := h.read
  have hreads : ∀ v ∈ origin.values env, ∀ name x, readSpan name v = .ok x →
      ¬x < 0 ∧ (x.isNaN = true → ∃ v ∈ origin.values env, ∃ name, readNumber name v = .ok x) := by
    intro v hv name x hread
    obtain ⟨hnumber, hnonneg⟩ := readSpan_eq_ok_iff.mp hread
    exact ⟨hnonneg, fun _ => ⟨v, hv, name, hnumber⟩⟩
  refine (Timed.ofEntries ?_ ?_ ?_ hbase).withEnvironment ?_ henv
  · exact ⟨by decide, fun hnan => absurd hnan (by decide)⟩
  · exact ⟨by decide, fun hnan => absurd hnan (by decide)⟩
  · intro entry hentry
    exact hreads _ (List.mem_append_left _ (List.mem_map_of_mem hentry))
  · intro e he
    exact hreads _ (List.mem_append_right _ (List.mem_map_of_mem he))

end Files

end KnotAtlas.Settings
