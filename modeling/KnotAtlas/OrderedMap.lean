/-!
Finite maps that remember the order in which their keys arrived. A key that is written again keeps
its first place and takes the new value, as members of a document and entries of a table do.
-/

namespace KnotAtlas

/-- A map as its entries in order of arrival; the operations below never repeat a key. -/
abbrev OrderedMap (κ α : Type) := List (κ × α)

namespace OrderedMap

variable {κ α : Type} [DecidableEq κ]

/-- The value under `key`. -/
def find? (m : OrderedMap κ α) (key : κ) : Option α :=
  List.lookup key m

def keys (m : OrderedMap κ α) : List κ :=
  m.map (·.1)

/-- Writes `value` under `key`, in the key's old place if it has one and at the end if not. -/
def insert : OrderedMap κ α → κ → α → OrderedMap κ α
  | [], key, value => [(key, value)]
  | (k, v) :: rest, key, value =>
    if k = key then (key, value) :: rest else (k, v) :: insert rest key value

/-- Writes all entries of `other`, in their order, over `m`. -/
def update (m other : OrderedMap κ α) : OrderedMap κ α :=
  other.foldl (fun acc entry => acc.insert entry.1 entry.2) m

/-- Drops the entry under `key`. -/
def erase (m : OrderedMap κ α) (key : κ) : OrderedMap κ α :=
  m.filter fun entry => entry.1 ≠ key

/-- Whether `key` has an entry. -/
def has (m : OrderedMap κ α) (key : κ) : Bool :=
  (m.find? key).isSome

@[simp] theorem find?_nil (key : κ) : find? ([] : OrderedMap κ α) key = none := rfl

theorem find?_cons (entry : κ × α) (m : OrderedMap κ α) (key : κ) :
    find? (entry :: m) key = if key = entry.1 then some entry.2 else find? m key := by
  obtain ⟨k, v⟩ := entry
  by_cases h : key = k
  · simp [find?, h]
  · have hb : (key == k) = false := by simpa using h
    simp [find?, List.lookup_cons, hb, h]

theorem find?_eq_findSome? (m : OrderedMap κ α) (key : κ) :
    m.find? key = m.findSome? fun entry => find? [entry] key := by
  induction m with
  | nil => rfl
  | cons entry rest ih =>
      rw [find?_cons, List.findSome?_cons, find?_cons, ih]
      split <;> rfl

theorem find?_eq_none_iff {m : OrderedMap κ α} {key : κ} : m.find? key = none ↔ key ∉ m.keys := by
  induction m with
  | nil => simp [keys]
  | cons entry rest ih =>
    rw [find?_cons, keys, List.map_cons, List.mem_cons, not_or]
    by_cases hkey : key = entry.1
    · simp [hkey]
    · rw [if_neg hkey, ih]
      exact (and_iff_right hkey).symm

theorem find?_eq_none_of_not_mem {m : OrderedMap κ α} {key : κ} (h : key ∉ m.keys) :
    m.find? key = none :=
  find?_eq_none_iff.mpr h

theorem find?_insert (m : OrderedMap κ α) (key other : κ) (value : α) :
    (m.insert key value).find? other = if other = key then some value else m.find? other := by
  induction m with
  | nil => simp [insert, find?_cons]
  | cons entry rest ih =>
    obtain ⟨k, v⟩ := entry
    by_cases hk : k = key
    · subst hk
      by_cases ho : other = k <;> simp [insert, find?_cons, ho]
    · by_cases ho : other = k
      · subst ho
        simp [insert, hk, find?_cons]
      · simp [insert, hk, find?_cons, ho, ih]

theorem find?_update (m other : OrderedMap κ α) (h : other.keys.Nodup) (key : κ) :
    (m.update other).find? key = (other.find? key).or (m.find? key) := by
  induction other generalizing m with
  | nil => rfl
  | cons entry rest ih =>
    obtain ⟨k, value⟩ := entry
    obtain ⟨hnew, hrest⟩ := List.nodup_cons.1 h
    have hstep : m.update ((k, value) :: rest) = (m.insert k value).update rest := rfl
    rw [hstep, ih _ hrest, find?_cons, find?_insert]
    by_cases hkey : key = k
    · subst hkey
      simp [find?_eq_none_of_not_mem hnew]
    · simp [hkey]

theorem find?_update_or (m other : OrderedMap κ α) (key : κ) :
    (m.update other).find? key = ((update [] other).find? key).or (m.find? key) := by
  induction other generalizing m with
  | nil => rfl
  | cons entry rest ih =>
    have hstep : ∀ m : OrderedMap κ α,
        (m.update (entry :: rest)).find? key =
          ((update [] rest).find? key).or ((m.insert entry.1 entry.2).find? key) :=
      fun m => ih (m.insert entry.1 entry.2)
    rw [hstep, hstep, find?_insert, find?_insert, Option.or_assoc]
    by_cases hkey : key = entry.1
    · simp [hkey]
    · simp [hkey]

theorem find?_update_of_none (m : OrderedMap κ α) {other : OrderedMap κ α} {key : κ}
    (h : other.find? key = none) : (m.update other).find? key = m.find? key := by
  induction other generalizing m with
  | nil => rfl
  | cons entry rest ih =>
    rw [find?_cons] at h
    split at h
    · cases h
    · rename_i hkey
      have hstep : m.update (entry :: rest) = (m.insert entry.1 entry.2).update rest := rfl
      rw [hstep, ih _ h, find?_insert, if_neg hkey]

/-- A key that is present keeps its place; a new one goes to the end. -/
theorem keys_insert (m : OrderedMap κ α) (key : κ) (value : α) :
    (m.insert key value).keys = if key ∈ m.keys then m.keys else m.keys ++ [key] := by
  induction m with
  | nil => simp [insert, keys]
  | cons entry rest ih =>
    obtain ⟨k, v⟩ := entry
    by_cases hk : k = key
    · simp [insert, keys, hk]
    · simp only [insert, hk, if_false, keys, List.map_cons] at ih ⊢
      rw [ih]
      have hk' : key ≠ k := fun h => hk h.symm
      by_cases hm : key ∈ List.map (·.1) rest <;> simp [hm, hk']

theorem nodup_keys_insert {m : OrderedMap κ α} (h : m.keys.Nodup) (key : κ) (value : α) :
    (m.insert key value).keys.Nodup := by
  rw [keys_insert]
  split
  · exact h
  · rename_i hn
    exact List.nodup_append.2 ⟨h, by simp, by
      intro a ha b hb
      rw [List.mem_singleton.1 hb]
      exact fun hab => hn (hab ▸ ha)⟩

theorem mem_insert {m : OrderedMap κ α} {key : κ} {value : α} {e : κ × α}
    (h : e ∈ m.insert key value) : e ∈ m ∨ e = (key, value) := by
  induction m with
  | nil => exact .inr (List.mem_singleton.mp h)
  | cons first rest ih =>
      obtain ⟨k, v⟩ := first
      simp only [insert] at h
      split at h
      · cases h with
        | head => exact .inr rfl
        | tail _ h => exact .inl (.tail _ h)
      · cases h with
        | head => exact .inl (.head _)
        | tail _ h =>
            cases ih h with
            | inl h => exact .inl (.tail _ h)
            | inr h => exact .inr h

theorem mem_of_find? {m : OrderedMap κ α} {key : κ} {value : α}
    (h : m.find? key = some value) : (key, value) ∈ m := by
  induction m with
  | nil => cases h
  | cons entry rest ih =>
      rw [find?_cons] at h
      split at h
      · rename_i hk
        cases h
        subst hk
        exact .head _
      · exact .tail _ (ih h)

theorem find?_of_mem {m : OrderedMap κ α} (h : m.keys.Nodup) {key : κ} {value : α}
    (hmem : (key, value) ∈ m) : m.find? key = some value := by
  induction m with
  | nil => cases hmem
  | cons entry rest ih =>
      obtain ⟨hnew, hrest⟩ := List.nodup_cons.mp h
      rw [find?_cons]
      cases hmem with
      | head => exact if_pos rfl
      | tail _ hmem =>
          have hkey : key ≠ entry.1 := by
            rintro rfl
            exact hnew (List.mem_map.mpr ⟨_, hmem, rfl⟩)
          rw [if_neg hkey]
          exact ih hrest hmem

/-- A filter that looks at keys alone keeps what is under the keys that it lets through. -/
theorem find?_filter (p : κ → Prop) [DecidablePred p] (m : OrderedMap κ α) (key : κ) :
    find? (m.filter fun entry => p entry.1) key = if p key then m.find? key else none := by
  induction m with
  | nil => simp
  | cons entry rest ih =>
      by_cases hentry : p entry.1
      · rw [List.filter_cons_of_pos (by simpa using hentry), find?_cons, find?_cons, ih]
        by_cases hkey : key = entry.1
        · rw [if_pos hkey, if_pos hkey, if_pos (hkey ▸ hentry)]
        · rw [if_neg hkey, if_neg hkey]
      · rw [List.filter_cons_of_neg (by simpa using hentry), ih, find?_cons]
        by_cases hkey : key = entry.1
        · rw [if_neg (hkey ▸ hentry), if_neg (hkey ▸ hentry)]
        · rw [if_neg hkey]

omit [DecidableEq κ] in
theorem nodup_keys_filter {m : OrderedMap κ α} (h : m.keys.Nodup) (p : κ × α → Bool) :
    (keys (m.filter p)).Nodup :=
  h.sublist (List.filter_sublist.map _)

theorem find?_erase (m : OrderedMap κ α) (key other : κ) :
    (m.erase key).find? other = if other = key then none else m.find? other := by
  rw [erase, find?_filter (· ≠ key), ite_not]

theorem nodup_keys_erase {m : OrderedMap κ α} (h : m.keys.Nodup) (key : κ) :
    (m.erase key).keys.Nodup :=
  nodup_keys_filter h _

end OrderedMap
end KnotAtlas
