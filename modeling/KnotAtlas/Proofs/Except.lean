import Mathlib.Data.List.Forall2

/-!
When steps that can fail succeed: a step and what follows it, what is made of a result, and a step
for each element of a list, which gives a list of as many results. Of several steps the first that
fails decides the error.
-/

namespace KnotAtlas.Except

variable {ε α β : Type}

theorem bind_eq_ok_iff {x : Except ε α} {f : α → Except ε β} {b : β} :
    (x >>= f) = .ok b ↔ ∃ a, x = .ok a ∧ f a = .ok b := by
  cases x with
  | error e => exact ⟨fun h => (by cases h), fun ⟨_, h, _⟩ => (by cases h)⟩
  | ok a => exact ⟨fun h => ⟨a, rfl, h⟩, fun ⟨_, h, hf⟩ => by cases h; exact hf⟩

theorem bind_eq_error_iff {x : Except ε α} {f : α → Except ε β} {e : ε} :
    (x >>= f) = .error e ↔ x = .error e ∨ ∃ a, x = .ok a ∧ f a = .error e := by
  cases x with
  | error e' =>
      constructor
      · intro h
        cases h
        exact .inl rfl
      · intro h
        cases h with
        | inl h => exact h ▸ rfl
        | inr h =>
            obtain ⟨_, h, _⟩ := h
            cases h
  | ok a =>
      constructor
      · exact fun h => .inr ⟨a, rfl, h⟩
      · intro h
        cases h with
        | inl h => cases h
        | inr h =>
            obtain ⟨_, h, hf⟩ := h
            cases h
            exact hf

theorem exists_ok_iff {x : Except ε α} : (∃ a, x = .ok a) ↔ ∀ e, x ≠ .error e := by
  cases x with
  | error e => exact ⟨fun ⟨_, h⟩ => (by cases h), fun h => absurd rfl (h e)⟩
  | ok a => exact ⟨fun _ _ h => (by cases h), fun _ => ⟨a, rfl⟩⟩

theorem map_eq_ok_iff {x : Except ε α} {g : α → β} {b : β} :
    g <$> x = .ok b ↔ ∃ a, x = .ok a ∧ g a = b := by
  cases x with
  | error e => exact ⟨fun h => (by cases h), fun ⟨_, h, _⟩ => (by cases h)⟩
  | ok a => exact ⟨fun h => ⟨a, rfl, Except.ok.inj h⟩, fun ⟨_, h, hg⟩ => by cases h; exact hg ▸ rfl⟩

theorem map_eq_error_iff {x : Except ε α} {g : α → β} {e : ε} :
    g <$> x = .error e ↔ x = .error e := by
  cases x with
  | error e' => exact ⟨fun h => (by cases h; rfl), fun h => (by cases h; rfl)⟩
  | ok a => exact ⟨fun h => (by cases h), fun h => (by cases h)⟩

theorem mapM_eq_ok_iff {f : α → Except ε β} {as : List α} {bs : List β} :
    as.mapM f = .ok bs ↔ List.Forall₂ (fun a b => f a = .ok b) as bs := by
  induction as generalizing bs with
  | nil =>
      rw [List.mapM_nil, List.forall₂_nil_left_iff]
      exact ⟨fun h => (by cases h; rfl), fun h => h ▸ rfl⟩
  | cons a rest ih =>
      simp only [List.mapM_cons, bind_eq_ok_iff, List.forall₂_cons_left_iff, ih]
      constructor
      · rintro ⟨b, hb, later, hlater, heq⟩
        cases heq
        exact ⟨b, later, hb, hlater, rfl⟩
      · rintro ⟨b, later, hb, hlater, rfl⟩
        exact ⟨b, hb, later, hlater, rfl⟩

theorem mapError_eq_ok_iff {δ : Type} {g : ε → δ} {x : Except ε α} {a : α} :
    x.mapError g = .ok a ↔ x = .ok a := by
  cases x with
  | error e => exact ⟨fun h => (by cases h), fun h => (by cases h)⟩
  | ok b => exact ⟨fun h => (by cases h; rfl), fun h => (by cases h; rfl)⟩

theorem mapError_eq_error_iff {δ : Type} {g : ε → δ} {x : Except ε α} {d : δ} :
    x.mapError g = .error d ↔ ∃ e, x = .error e ∧ g e = d := by
  cases x with
  | error e =>
      constructor
      · exact fun h => ⟨e, rfl, Except.error.inj h⟩
      · rintro ⟨e', h, hg⟩
        cases h
        exact hg ▸ rfl
  | ok a => exact ⟨fun h => (by cases h), fun ⟨_, h, _⟩ => (by cases h)⟩

/-- Of values that are read one after another, the first that fails decides the error. -/
theorem mapM_eq_error_iff {f : α → Except ε β} {as : List α} {e : ε} :
    as.mapM f = .error e ↔
      ∃ front a rest, as = front ++ a :: rest ∧ (∀ b ∈ front, ∃ c, f b = .ok c) ∧
        f a = .error e := by
  induction as with
  | nil =>
      constructor
      · intro h
        cases h
      · rintro ⟨front, a, rest, has, -⟩
        exact absurd has.symm (by simp)
  | cons first later ih =>
      rw [List.mapM_cons, bind_eq_error_iff]
      constructor
      · rintro (hfirst | ⟨b, hb, hlater⟩)
        · exact ⟨[], first, later, rfl, fun _ h => (by cases h), hfirst⟩
        · rcases bind_eq_error_iff.mp hlater with hrest | ⟨bs, -, hnone⟩
          · obtain ⟨front, a, rest, rfl, hfront, hfails⟩ := ih.mp hrest
            exact ⟨first :: front, a, rest, rfl, List.forall_mem_cons.mpr ⟨⟨b, hb⟩, hfront⟩, hfails⟩
          · cases hnone
      · rintro ⟨front, a, rest, has, hfront, hfails⟩
        cases front with
        | nil =>
            cases has
            exact .inl hfails
        | cons a' front =>
            cases has
            obtain ⟨⟨b, hb⟩, hfront⟩ := List.forall_mem_cons.mp hfront
            exact .inr ⟨b, hb, bind_eq_error_iff.mpr
              (.inl (ih.mpr ⟨front, a, rest, rfl, hfront, hfails⟩))⟩

section Folds

variable {σ ι : Type} {step : σ → ι → Except ε σ} {items : List ι} {s : σ}

/-- Of steps taken one after another, the first that fails decides the error. -/
theorem foldlM_eq_error_iff {e : ε} :
    items.foldlM step s = .error e ↔
      ∃ front i rest m, items = front ++ i :: rest ∧ front.foldlM step s = .ok m ∧
        step m i = .error e := by
  induction items generalizing s with
  | nil =>
      constructor
      · intro h
        cases h
      · rintro ⟨front, i, rest, m, hitems, -⟩
        exact absurd hitems.symm (by simp)
  | cons first later ih =>
      rw [List.foldlM_cons, bind_eq_error_iff]
      constructor
      · rintro (hfirst | ⟨m, hm, hlater⟩)
        · exact ⟨[], first, later, s, rfl, rfl, hfirst⟩
        · obtain ⟨front, i, rest, m', rfl, hfront, hfails⟩ := ih.mp hlater
          refine ⟨first :: front, i, rest, m', rfl, ?_, hfails⟩
          rw [List.foldlM_cons, hm]
          exact hfront
      · rintro ⟨front, i, rest, m, hitems, hfront, hfails⟩
        cases front with
        | nil =>
            cases hfront
            cases hitems
            exact .inl hfails
        | cons i' front =>
            cases hitems
            rw [List.foldlM_cons] at hfront
            obtain ⟨m', hm', hfront⟩ := bind_eq_ok_iff.mp hfront
            exact .inr ⟨m', hm', ih.mpr ⟨front, i, rest, m, rfl, hfront, hfails⟩⟩

/-- Steps that succeed or fail whatever was done before succeed together exactly if each does. -/
theorem foldlM_isOk_iff {P : ι → Prop} (hstep : ∀ i s, (∃ t, step s i = .ok t) ↔ P i) :
    (∃ t, items.foldlM step s = .ok t) ↔ ∀ i ∈ items, P i := by
  induction items generalizing s with
  | nil => exact ⟨fun _ _ h => absurd h List.not_mem_nil, fun _ => ⟨s, rfl⟩⟩
  | cons i rest ih =>
      rw [List.forall_mem_cons, ← hstep i s]
      simp only [List.foldlM_cons, bind_eq_ok_iff]
      constructor
      · rintro ⟨t, m, hm, hrest⟩
        exact ⟨⟨m, hm⟩, ih.mp ⟨t, hrest⟩⟩
      · rintro ⟨⟨m, hm⟩, hrest⟩
        obtain ⟨t, ht⟩ := ih.mpr hrest
        exact ⟨t, m, hm, ht⟩

end Folds

/-- Whether two outcomes are alike: the same fault, or results that are alike. -/
inductive Alike (R : α → β → Prop) : Except ε α → Except ε β → Prop where
  | ok {a : α} {b : β} : R a b → Alike R (.ok a) (.ok b)
  | error (e : ε) : Alike R (.error e) (.error e)

theorem Alike.refl {R : α → α → Prop} (hrefl : ∀ a, R a a) (x : Except ε α) : Alike R x x := by
  cases x with
  | error e => exact .error e
  | ok a => exact .ok (hrefl a)

theorem Alike.eq {x y : Except ε α} (h : Alike Eq x y) : x = y := by
  cases h with
  | ok hab => rw [hab]
  | error e => rfl

theorem Alike.bind {γ δ : Type} {R : α → β → Prop} {S : γ → δ → Prop} {x : Except ε α}
    {y : Except ε β} {f : α → Except ε γ} {g : β → Except ε δ} (h : Alike R x y)
    (hnext : ∀ a b, R a b → Alike S (f a) (g b)) : Alike S (x >>= f) (y >>= g) := by
  cases h with
  | ok hab => exact hnext _ _ hab
  | error e => exact .error e

theorem Alike.map {γ δ : Type} {R : α → β → Prop} {S : γ → δ → Prop} {x : Except ε α}
    {y : Except ε β} {f : α → γ} {g : β → δ} (h : Alike R x y)
    (hnext : ∀ a b, R a b → S (f a) (g b)) : Alike S (x.map f) (y.map g) := by
  cases h with
  | ok hab => exact .ok (hnext _ _ hab)
  | error e => exact .error e

/-- What follows alike outcomes is the same if it does not tell alike results apart. -/
theorem Alike.bind_eq {γ : Type} {R : α → β → Prop} {x : Except ε α} {y : Except ε β}
    {f : α → Except ε γ} {g : β → Except ε γ} (h : Alike R x y)
    (hnext : ∀ a b, R a b → f a = g b) : (x >>= f) = (y >>= g) := by
  cases h with
  | ok hab => exact hnext _ _ hab
  | error e => rfl

theorem eq_ok_of_toOption {x : Except ε α} {a : α} (h : x.toOption = some a) : x = .ok a := by
  cases x with
  | error e => cases h
  | ok b =>
      cases h
      rfl

end KnotAtlas.Except
