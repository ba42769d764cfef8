import KnotAtlas.Proofs.Except
import KnotAtlas.Settings.Reading

/-!
Which source decides a setting. What each source tells of a setting is looked at key by key; a
source that is read later is laid over those before it, and the topmost that tells anything of a key
decides, whatever is told of the other keys.
-/

namespace KnotAtlas.Settings

/-- What a value stands for under a key; `name` is what messages call the setting. -/
def parse [Datum.ShowLimit] (key : Key) (name : String) (v : Datum) : Except Error Content :=
  match key with
  | .debug | .staticValidation | .sourceCache | .compiledCache | .useSample =>
    (fun b => .value (.bool b)) <$> readSwitch name v
  | .staticTtl | .sourceTtl | .compiledTtl => (fun x => .value (.float x)) <$> readSpan name v
  | .fallbackKnot => (fun s => .value (.str s)) <$> readText v
  | .flows => .flows <$> readFlows v

/-- What a source tells of each setting, if it names it. -/
abbrev Layer := Key → Option (Except Error Content)

namespace Layer

def silent : Layer :=
  fun _ => none

/-- A source that names one setting at most. -/
def only (key : Key) (told : Option (Except Error Content)) : Layer :=
  fun other => if other = key then told else none

def onto (later earlier : Layer) : Layer :=
  fun key => (later key).or (earlier key)

theorem only_none (key : Key) : only key none = silent :=
  funext fun _ => ite_self none

end Layer

/-- `t` holds what is told, and what `s` holds where nothing is told. -/
def Written (told : Layer) (s t : Settings) : Prop :=
  ∀ key, (told key).getD (.ok (s.content key)) = .ok (t.content key)

/-- Where one item at most is found, it does not matter from which end it is looked for. -/
theorem findSome?_reverse_bind {ι ν α β : Type} {items : List ι} {look : ι → Option α}
    (f : α → Option β) {name : ι → ν} {wanted : ν}
    (hlook : ∀ i, look i ≠ none → name i = wanted) (hnames : (items.map name).Nodup) :
    (items.reverse.findSome? fun i => (look i).bind f) = (items.findSome? look).bind f := by
  induction items with
  | nil => rfl
  | cons i rest ih =>
      obtain ⟨hfirst, hrest⟩ := List.nodup_cons.mp hnames
      rw [List.reverse_cons, List.findSome?_append, List.findSome?_singleton, ih hrest,
        List.findSome?_cons]
      cases hi : look i with
      | none => exact Option.or_none
      | some a =>
          -- no later item has the name of this one
          have hothers : rest.findSome? look = none := by
            refine List.findSome?_eq_none_iff.mpr fun j hj => ?_
            refine Decidable.byContradiction fun hfound => hfirst ?_
            rw [hlook i (by simp [hi]), ← hlook j hfound]
            exact List.mem_map_of_mem hj
          rw [hothers]
          rfl

theorem bind_unless {α β : Type} (absent : α → Bool) (f : α → β) (x : Option α) :
    (x.bind fun a => if absent a then none else some (f a)) =
      (x.filter fun a => !absent a).map f := by
  cases x with
  | none => rfl
  | some a => cases h : absent a <;> simp [Option.filter, h]

namespace Written

theorem silent (s : Settings) : Written .silent s s :=
  fun _ => rfl

theorem onto {earlier later : Layer} {s m t : Settings} (h : Written earlier s m)
    (hlater : Written later m t) : Written (later.onto earlier) s t := by
  intro key
  have hm := h key
  have ht := hlater key
  rw [Layer.onto]
  cases htold : later key with
  | some told =>
      rw [htold] at ht
      exact ht
  | none =>
      rw [htold] at ht
      rw [Option.none_or, hm]
      exact ht

section Items

variable {ι : Type} {step : Settings → ι → Except Error Settings} {items : List ι} {s t : Settings}

/-- Steps that write what their items tell write what the last item tells. -/
theorem foldlM {told : ι → Layer} (hstep : ∀ s t i, step s i = .ok t → Written (told i) s t)
    (h : items.foldlM step s = .ok t) :
    Written (fun key => items.reverse.findSome? fun i => told i key) s t := by
  induction items generalizing s with
  | nil =>
      cases h
      exact .silent t
  | cons i rest ih =>
      rw [List.foldlM_cons] at h
      obtain ⟨m, hm, hrest⟩ := Except.bind_eq_ok_iff.mp h
      have hlayer : (fun key => (i :: rest).reverse.findSome? fun i => told i key) =
          Layer.onto (fun key => rest.reverse.findSome? fun i => told i key) (told i) := by
        funext key
        rw [List.reverse_cons, List.findSome?_append, List.findSome?_singleton, Layer.onto]
      -- the first item lies lowest, so it comes last in the reversed list
      rw [hlayer]
      exact (hstep s m i hm).onto (ih hrest)

/-- Where no two items have one name, the item that is looked for by its name tells. -/
theorem foldlM_named {ν α : Type} (look : Key → ι → Option α) {told : α → Layer}
    (hstep : ∀ s t i, step s i = .ok t →
      Written (fun key => (look key i).bind fun a => told a key) s t)
    (name : ι → ν) (wanted : Key → ν) (hlook : ∀ key i, look key i ≠ none → name i = wanted key)
    (hnames : (items.map name).Nodup) (h : items.foldlM step s = .ok t) :
    Written (fun key => (items.findSome? (look key)).bind fun a => told a key) s t := by
  intro key
  have hkey := foldlM hstep h key
  simp only [findSome?_reverse_bind _ (hlook key) hnames] at hkey
  exact hkey

end Items

end Written

/-! ### What one item tells -/

theorem Key.ofWord?_eq_some_iff {word : String} {key : Key} :
    Key.ofWord? word = some key ↔ key.word = word := by
  rw [Key.ofWord?]
  constructor
  · intro h
    have hfound := List.find?_some h
    exact of_decide_eq_true hfound
  · rintro rfl
    cases key <;> decide

def Override.isNull : Override → Bool
  | .value v => v.isNull
  | .flows _ => false

theorem Override.isNull_eq_false {o : Override} (h : o ≠ .value .null) : o.isNull = false := by
  cases o with
  | flows m => rfl
  | value v =>
      cases v with
      | null => exact absurd rfl h
      | bool _ | int _ | float _ | str _ | list _ | object _ => rfl

namespace Layer

/-- What the value of an entry tells; a null tells nothing. -/
def ofDatum [Datum.ShowLimit] (v : Datum) : Layer :=
  fun key => if v.isNull then none else some (parse key key.word v)

/-- What an override tells; a null tells nothing. -/
def ofOverride (o : Override) : Layer :=
  fun _ => if o.isNull then none else some (.ok o.content)

def ofEnvironment [Datum.ShowLimit] (env : Environment) : Layer :=
  fun key => (variableOf? env key).map fun (name, value) => parse key name (.str value)

theorem findSome?_only (told : Layer) (items : List Key) (key : Key) :
    (items.findSome? fun i => only i (told i) key) = if key ∈ items then told key else none := by
  induction items with
  | nil => rfl
  | cons i rest ih =>
      rw [List.findSome?_cons, ih, only]
      by_cases hkey : key = i
      · subst hkey
        cases told key <;> simp
      · simp [hkey]

/-- What is told under a word. -/
def under (word : String) (told : Layer) : Layer :=
  fun key => if key.word = word then told key else none

theorem under_of_unknown {word : String} (h : Key.ofWord? word = none) (told : Layer) :
    under word told = silent := by
  funext key
  refine if_neg fun hword => ?_
  rw [Key.ofWord?_eq_some_iff.mpr hword] at h
  cases h

theorem under_of_known {word : String} {key : Key} (h : Key.ofWord? word = some key)
    (told : Layer) : under word told = only key (told key) := by
  funext other
  have hiff : other.word = word ↔ other = key := by
    rw [← Key.ofWord?_eq_some_iff, h, Option.some_inj, eq_comm]
  rw [under, only]
  by_cases hother : other = key
  · rw [if_pos hother, if_pos (hiff.mpr hother), hother]
  · rw [if_neg hother, if_neg (mt hiff.mp hother)]

theorem under_of_entry [Datum.ShowLimit] (word : String) (v : Datum) :
    (fun key : Key => (Datum.entry? [(.str word, v)] key.word).bind fun v => ofDatum v key) =
      under word (ofDatum v) := by
  funext key
  rw [Datum.entry?, List.findSome?_singleton, under]
  by_cases hword : key.word = word
  · simp [hword]
  · simp [hword, Ne.symm hword]

theorem under_of_override (word : String) (o : Override) :
    (fun key : Key => (OrderedMap.find? [(word, o)] key.word).bind fun o => ofOverride o key) =
      under word (ofOverride o) := by
  funext key
  rw [OrderedMap.find?_cons, under]
  by_cases hword : key.word = word
  · simp [hword]
  · simp [hword]

end Layer

namespace Written

variable {s t : Settings}

theorem overrideKey (s : Settings) (key : Key) (o : Override) :
    Written (.only key (some (.ok o.content))) s (s.overrideKey key o) := by
  intro other
  cases o with
  | flows m => cases key <;> cases other <;> rfl
  | value v => cases v <;> cases key <;> cases other <;> rfl

theorem override {named : String × Override} (h : s.override named = .ok t) :
    Written (fun key => (OrderedMap.find? [named] key.word).bind fun o => Layer.ofOverride o key)
      s t := by
  obtain ⟨word, o⟩ := named
  rw [Layer.under_of_override]
  rw [Settings.override] at h
  split at h
  · rename_i hnull
    cases h
    cases (show o = .value .null from hnull)
    have hsilent : Layer.under word (Layer.ofOverride (.value .null)) = .silent :=
      funext fun _ => ite_self none
    rw [hsilent]
    exact .silent _
  · cases h
  · rename_i key hkey hgiven
    cases h
    rw [Layer.under_of_known hkey, Layer.ofOverride, Override.isNull_eq_false hgiven]
    exact .overrideKey s key o

variable [Datum.ShowLimit]

theorem readKey {key : Key} {name : String} {v : Datum} (h : s.readKey key name v = .ok t) :
    Written (.only key (some (parse key name v))) s t := by
  intro other
  -- each setting is read into its own place, and the nine others stay as they are
  cases key <;>
  · obtain ⟨a, ha, ⟨⟩⟩ := Except.bind_eq_ok_iff.mp h
    cases other <;> first | rfl | (simp only [Layer.only, parse, ha]; rfl)

theorem readEntry {entry : Datum × Datum} (h : s.readEntry entry = .ok t) :
    Written (fun key => (Datum.entry? [entry] key.word).bind fun v => Layer.ofDatum v key) s t := by
  obtain ⟨name, v⟩ := entry
  cases name with
  | str word =>
      rw [Layer.under_of_entry]
      rw [Settings.readEntry] at h
      split at h
      · rename_i hunknown
        cases h
        rw [Layer.under_of_unknown hunknown]
        exact .silent _
      · rename_i key hkey
        rw [Layer.under_of_known hkey, Layer.ofDatum]
        split at h
        · rename_i hnull
          cases h
          rw [if_pos hnull, Layer.only_none]
          exact .silent _
        · rename_i hgiven
          cases Key.ofWord?_eq_some_iff.mp hkey
          rw [if_neg hgiven]
          exact .readKey h
  | null | bool _ | int _ | float _ | date _ | moment _ _ | list _ | tuple _ | mapping _ =>
      cases h
      exact .silent _

theorem readVariable (env : Environment) {key : Key} (h : s.readVariable env key = .ok t) :
    Written (.only key (Layer.ofEnvironment env key)) s t := by
  rw [Settings.readVariable] at h
  rw [Layer.ofEnvironment]
  cases hfound : variableOf? env key with
  | none =>
      rw [hfound] at h
      cases h
      rw [Option.map_none, Layer.only_none]
      exact .silent _
  | some named =>
      rw [hfound] at h
      exact .readKey h

end Written

/-! ### Which source decides -/

/-- The sources of settings. Neither a mapping nor overrides name anything twice. -/
structure Sources where
  mapping : List (Datum × Datum) := []
  environment : Environment := []
  overrides : OrderedMap String Override := []
  mapping_nodup : (mapping.map (·.1)).Nodup
  overrides_nodup : overrides.keys.Nodup

namespace Sources

def read [Datum.ShowLimit] (sources : Sources) : Except Error Settings := do
  let s ← ofEntries sources.mapping
  let s ← s.withEnvironment sources.environment
  s.withOverrides sources.overrides

/-- The entry of a key, unless it is absent or null. -/
def mapped? (sources : Sources) (key : Key) : Option Datum :=
  (Datum.entry? sources.mapping key.word).filter fun v => !v.isNull

/-- The override of a key, unless it is absent or null. -/
def override? (sources : Sources) (key : Key) : Option Override :=
  (sources.overrides.find? key.word).filter fun o => !o.isNull

/-- What decides about a key. -/
def decided [Datum.ShowLimit] (sources : Sources) (key : Key) : Except Error Content :=
  match sources.override? key with
  | some o => .ok o.content
  | none =>
    match variableOf? sources.environment key with
    | some (name, value) => parse key name (.str value)
    | none =>
      match sources.mapped? key with
      | some v => parse key key.word v
      | none => .ok (content {} key)

variable {sources : Sources} {s t : Settings}

theorem written_overrides (h : s.withOverrides sources.overrides = .ok t) :
    Written (fun key => (sources.overrides.find? key.word).bind fun o => Layer.ofOverride o key)
      s t := by
  simp only [OrderedMap.find?_eq_findSome? sources.overrides]
  refine Written.foldlM_named (fun key named => OrderedMap.find? [named] key.word)
    (fun _ _ _ => Written.override) (·.1) (fun key => key.word) ?_ sources.overrides_nodup h
  intro key named hlook
  rw [OrderedMap.find?_cons] at hlook
  exact (of_not_not fun hne => hlook (if_neg hne)).symm

section Deciding

variable [Datum.ShowLimit]

theorem written_mapping (h : ofEntries sources.mapping = .ok t) :
    Written (fun key => (Datum.entry? sources.mapping key.word).bind fun v =>
      Layer.ofDatum v key) {} t := by
  have hfound : ∀ key : Key, Datum.entry? sources.mapping key.word =
      sources.mapping.findSome? fun entry => Datum.entry? [entry] key.word := by
    intro key
    simp only [Datum.entry?, List.findSome?_singleton]
  simp only [hfound]
  refine Written.foldlM_named (fun key entry => Datum.entry? [entry] key.word)
    (fun _ _ _ => Written.readEntry) (·.1) (fun key => .str key.word) ?_ sources.mapping_nodup h
  rintro key ⟨name, v⟩ hlook
  cases name with
  | str word =>
      rw [Datum.entry?, List.findSome?_singleton] at hlook
      exact congrArg Datum.str (of_not_not fun hne => hlook (if_neg hne))
  | null | bool _ | int _ | float _ | date _ | moment _ _ | list _ | tuple _ | mapping _ =>
      exact absurd rfl hlook

theorem written_environment {env : Environment} (h : s.withEnvironment env = .ok t) :
    Written (.ofEnvironment env) s t := by
  have hstep : ∀ s t key, readVariable env s key = .ok t →
      Written (.only key (Layer.ofEnvironment env key)) s t :=
    fun _ _ _ => .readVariable env
  have hwritten := Written.foldlM hstep h
  have hlayer : (fun key => environmentKeys.reverse.findSome? fun other =>
      Layer.only other (Layer.ofEnvironment env other) key) = Layer.ofEnvironment env := by
    funext key
    rw [Layer.findSome?_only]
    cases key <;> rfl
  rw [hlayer] at hwritten
  exact hwritten

/-- What the sources tell, the last on top. -/
def told (sources : Sources) : Layer :=
  .onto (fun key => (sources.overrides.find? key.word).bind fun o => Layer.ofOverride o key)
    (.onto (.ofEnvironment sources.environment)
      fun key => (Datum.entry? sources.mapping key.word).bind fun v => Layer.ofDatum v key)

theorem written_told (h : sources.read = .ok t) : Written sources.told {} t := by
  obtain ⟨file, hfile, h⟩ := Except.bind_eq_ok_iff.mp h
  obtain ⟨seen, hseen, h⟩ := Except.bind_eq_ok_iff.mp h
  exact ((written_mapping hfile).onto (written_environment hseen)).onto (written_overrides h)

theorem told_eq_decided (key : Key) :
    (sources.told key).getD (.ok (content {} key)) = sources.decided key := by
  have hoverride : ((sources.overrides.find? key.word).bind fun o => Layer.ofOverride o key) =
      (sources.override? key).map fun o => .ok o.content :=
    bind_unless Override.isNull _ _
  have hentry : ((Datum.entry? sources.mapping key.word).bind fun v => Layer.ofDatum v key) =
      (sources.mapped? key).map (parse key key.word) :=
    bind_unless Datum.isNull _ _
  rw [told, Layer.onto, Layer.onto, hoverride, hentry, Layer.ofEnvironment, decided]
  cases sources.override? key with
  | some o => rfl
  | none =>
      cases variableOf? sources.environment key with
      | some named => rfl
      | none => cases sources.mapped? key <;> rfl

/-- An override decides about its setting, else a variable of the environment, else an entry of the
mapping, else the default. What the sources hold besides changes nothing. -/
theorem read_decided (h : sources.read = .ok s) (key : Key) :
    sources.decided key = .ok (s.content key) ∧
      ∀ (other : Sources) {t : Settings}, other.read = .ok t →
        other.override? key = sources.override? key →
        variableOf? other.environment key = variableOf? sources.environment key →
        other.mapped? key = sources.mapped? key → t.content key = s.content key := by
  have hdecided := written_told h key
  rw [told_eq_decided] at hdecided
  refine ⟨hdecided, fun other t hother hoverride hvariable hentry => ?_⟩
  have hsame := written_told hother key
  rw [told_eq_decided, decided, hoverride, hvariable, hentry] at hsame
  exact Except.ok.inj (hsame.symm.trans hdecided)

end Deciding

/-- Sources that gainsay one another, with names that mean nothing. -/
def layered : Sources where
  mapping := [(.str "debug", .bool true), (.str "enable_source_cache", .bool false),
    (.str "fallback_knot", .str "hub"), (.str "enable_static_validation", .null),
    (.str "colour", .int 3)]
  environment := [("INKSCOPE_DEBUG", "0"), ("INKSCOPE_FALLBACK_KNOT", ""), ("HOME", "there")]
  overrides := [("debug", .value .null), ("static_cache_ttl", .value (.int 0)),
    ("colour", .value .null)]
  mapping_nodup := by simp
  overrides_nodup := by decide

/-- The same on one setting, and nothing on the others. -/
def plain : Sources where
  mapping := [(.str "debug", .bool true)]
  environment := [("INKSCOPE_DEBUG", "0")]
  mapping_nodup := by simp
  overrides_nodup := by decide

theorem layered_settings :
    ∃ s t, layered.read = .ok s ∧ plain.read = .ok t ∧
      s.content .debug = .value (.bool false) ∧ t.content .debug = s.content .debug ∧
      s.content .staticTtl = .value (.int 0) ∧ s.content .sourceCache = .value (.bool false) ∧
      s.content .fallbackKnot = .value (.str "hub") ∧
      s.content .staticValidation = .value (.bool true) := by
  obtain ⟨s, hread⟩ : ∃ s, layered.read = .ok s := ⟨_, rfl⟩
  obtain ⟨t, hplain⟩ : ∃ t, plain.read = .ok t := ⟨_, rfl⟩
  have hcontent : ∀ key c, layered.decided key = .ok c → s.content key = c := by
    intro key c hc
    have hdecided := (read_decided hread key).1
    rw [hc] at hdecided
    exact (Except.ok.inj hdecided).symm
  have hframe := (read_decided hread .debug).2 plain hplain rfl rfl rfl
  exact ⟨s, t, hread, hplain, hcontent .debug _ rfl, hframe, hcontent .staticTtl _ rfl,
    hcontent .sourceCache _ rfl, hcontent .fallbackKnot _ rfl, hcontent .staticValidation _ rfl⟩

end Sources
end KnotAtlas.Settings
