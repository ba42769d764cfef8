import KnotAtlas.Json.Reader
import KnotAtlas.Proofs.Except

/-!
Objects without repeated keys. A document is a tree of such objects; everything that is read from
JSON text is one, because a name that occurs again is written over.
-/

namespace KnotAtlas

/-- Whether no object in a value repeats a key. -/
inductive Value.DistinctKeys : Value → Prop
  | null : DistinctKeys .null
  | bool (b : Bool) : DistinctKeys (.bool b)
  | int (n : Int) : DistinctKeys (.int n)
  | float (x : Float) : DistinctKeys (.float x)
  | str (s : String) : DistinctKeys (.str s)
  | list {items : List Value} : (∀ v ∈ items, DistinctKeys v) → DistinctKeys (.list items)
  | object {members : List (String × Value)} : (OrderedMap.keys members).Nodup →
      (∀ e ∈ members, DistinctKeys e.2) → DistinctKeys (.object members)

namespace Value.DistinctKeys

theorem list_nil : (Value.list []).DistinctKeys :=
  .list fun _ h => absurd h List.not_mem_nil

theorem object_single {key : String} {v : Value} (h : v.DistinctKeys) :
    (Value.object [(key, v)]).DistinctKeys :=
  .object (List.pairwise_singleton _ key) (List.forall_mem_singleton.mpr h)

end Value.DistinctKeys

namespace Json

open Value (DistinctKeys)

theorem takeWord?_distinctKeys {cs rest : List Char} {v : Value}
    (h : takeWord? cs = some (v, rest)) : v.DistinctKeys := by
  obtain ⟨⟨word, w⟩, hmem, hword⟩ := List.exists_of_findSome?_eq_some h
  have hw : w.DistinctKeys := by
    simp only [words, List.mem_cons, Prod.mk.injEq, List.not_mem_nil, or_false] at hmem
    rcases hmem with ⟨-, rfl⟩ | ⟨-, rfl⟩ | ⟨-, rfl⟩ | ⟨-, rfl⟩ | ⟨-, rfl⟩ | ⟨-, rfl⟩
    · exact .null
    · exact .bool true
    · exact .bool false
    · exact .float _
    · exact .float _
    · exact .float _
  simp only [Option.ite_none_right_eq_some, Option.some.injEq, Prod.mk.injEq] at hword
  obtain ⟨-, rfl, -⟩ := hword
  exact hw

theorem readNumber_distinctKeys {limits : Limits} {cs rest : List Char} {v : Value}
    (h : readNumber limits cs = .ok (v, rest)) : v.DistinctKeys := by
  rw [readNumber] at h
  dsimp only at h
  generalize takeWhole _ = whole at h
  split at h
  · cases h
  · split at h
    · cases h
      exact .float _
    · split at h
      · split at h
        · cases h
        · cases h
          exact .int _
      · cases h
        exact .float _

theorem readScalar_distinctKeys {limits : Limits} {cs rest : List Char} {v : Value}
    (h : readScalar limits cs = .ok (v, rest)) : v.DistinctKeys := by
  simp only [readScalar] at h
  split at h
  · obtain ⟨⟨s, after⟩, -, hs⟩ := Except.bind_eq_ok_iff.mp h
    cases hs
    exact .str s
  · split at h
    · rename_i found hw
      cases h
      exact takeWord?_distinctKeys hw
    · exact readNumber_distinctKeys h

/-- What the parts of the reader give with some fuel. -/
structure ReadsDistinct (limits : Limits) (fuel : Nat) : Prop where
  value : ∀ depth cs v rest, readValue limits fuel depth cs = .ok (v, rest) → v.DistinctKeys
  items : ∀ depth cs items rest, readItems limits fuel depth cs = .ok (items, rest) →
    ∀ v ∈ items, v.DistinctKeys
  members : ∀ depth read cs members rest,
    readMembers limits fuel depth read cs = .ok (members, rest) →
    DistinctKeys (.object read) → DistinctKeys (.object members)

theorem DistinctKeys.insert {read : OrderedMap String Value} {v : Value}
    (h : DistinctKeys (.object read)) (hv : v.DistinctKeys) (name : String) :
    DistinctKeys (.object (read.insert name v)) := by
  obtain - | - | - | - | - | - | ⟨hk, hm⟩ := h
  refine .object (OrderedMap.nodup_keys_insert hk name v) ?_
  intro e he
  cases OrderedMap.mem_insert he with
  | inl he => exact hm e he
  | inr he =>
      subst he
      exact hv

theorem readsDistinct (limits : Limits) (fuel : Nat) : ReadsDistinct limits fuel := by
  induction fuel with
  | zero =>
      constructor
      · intro _ _ _ _ h
        cases h
      · intro _ _ _ _ h
        cases h
      · intro _ _ _ _ _ h
        cases h
  | succ fuel ih =>
      constructor
      · intro depth cs v rest h
        simp only [readValue] at h
        split at h
        · cases h
        · cases h
        · split at h
          · cases h
            exact .list (fun _ h => absurd h List.not_mem_nil)
          · obtain ⟨⟨items, after⟩, hi, hrest⟩ := Except.bind_eq_ok_iff.mp h
            cases hrest
            exact .list (ih.items _ _ _ _ hi)
        · split at h
          · cases h
            exact .object List.nodup_nil (fun _ h => absurd h List.not_mem_nil)
          · obtain ⟨⟨members, after⟩, hm, hrest⟩ := Except.bind_eq_ok_iff.mp h
            cases hrest
            exact ih.members _ _ _ _ _ hm
              (.object List.nodup_nil (fun _ h => absurd h List.not_mem_nil))
        · exact readScalar_distinctKeys h
      · intro depth cs items rest h
        rw [readItems] at h
        obtain ⟨⟨item, after⟩, hv, h⟩ := Except.bind_eq_ok_iff.mp h
        have hitem := ih.value _ _ _ _ hv
        dsimp only at h
        split at h
        · cases h
          intro v hv
          cases List.mem_singleton.mp hv
          exact hitem
        · obtain ⟨⟨later, _⟩, hl, h⟩ := Except.bind_eq_ok_iff.mp h
          cases h
          intro v hv
          cases hv with
          | head => exact hitem
          | tail _ hv => exact ih.items _ _ _ _ hl v hv
        · cases h
      · intro depth read cs members rest h hread
        simp only [readMembers] at h
        split at h
        · obtain ⟨⟨name, after⟩, -, h⟩ := Except.bind_eq_ok_iff.mp h
          dsimp only at h
          split at h
          · obtain ⟨⟨v, _⟩, hv, h⟩ := Except.bind_eq_ok_iff.mp h
            have hnext := DistinctKeys.insert hread (ih.value _ _ _ _ hv) name
            dsimp only at h
            split at h
            · cases h
              exact hnext
            · exact ih.members _ _ _ _ _ h hnext
            · cases h
          · cases h
        · cases h

/-- No object of a document that was read repeats a key. -/
theorem read_distinctKeys {limits : Limits} {cs : List Char} {v : Value}
    (h : read limits cs = .ok v) : v.DistinctKeys := by
  obtain ⟨⟨w, rest⟩, hv, h⟩ := Except.bind_eq_ok_iff.mp h
  dsimp only at h
  split at h
  · cases h
    exact (readsDistinct limits _).value _ _ _ _ hv
  · cases h

end Json
end KnotAtlas
