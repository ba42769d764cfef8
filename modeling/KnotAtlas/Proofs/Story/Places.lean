import KnotAtlas.Proofs.Story.Trace

/-!
Arrays inside arrays. An array is known by its place, and the branch that a choice point leads to
lies inside an array below which the choice point was met.
-/

namespace KnotAtlas.Story

/-- The arrays inside an array, itself included: its items, and the members of objects among its
items, at any depth. -/
inductive Inside (outer : Place) : Place → Prop
  | here : Inside outer outer
  | item {p : Place} {i : Nat} {xs : List Value} :
      Inside outer p → p.items[i]? = some (.list xs) → Inside outer ⟨.item i :: p.path, xs⟩
  | member {p : Place} {i j : Nat} {members : List (String × Value)} {key : String}
      {xs : List Value} :
      Inside outer p → p.items[i]? = some (.object members) →
      members[j]? = some (key, .list xs) → Inside outer ⟨.member i j :: p.path, xs⟩

theorem Inside.trans {a b c : Place} (hab : Inside a b) (hbc : Inside b c) : Inside a c := by
  induction hbc with
  | here => exact hab
  | item _ hi ih => exact .item ih hi
  | member _ hi hj ih => exact .member ih hi hj

/-- A place in a body determines the array there. -/
theorem Inside.eq_of_path_eq {body : List Value} {p q : Place} (hp : Inside (bodyPlace body) p)
    (hq : Inside (bodyPlace body) q) (h : p.path = q.path) : p = q := by
  induction hp generalizing q with
  | here =>
      cases hq with
      | here => rfl
      | item _ _ | member _ _ _ => simp [bodyPlace] at h
  | item _ hi ih =>
      cases hq with
      | here => simp [bodyPlace] at h
      | item hq hi' =>
          simp only [List.cons.injEq, Step.item.injEq] at h
          obtain ⟨rfl, hpath⟩ := h
          cases ih hq hpath
          rw [hi] at hi'
          cases hi'
          rfl
      | member _ _ _ => simp at h
  | member _ hi hj ih =>
      cases hq with
      | here => simp [bodyPlace] at h
      | item _ _ => simp at h
      | member hq hi' hj' =>
          simp only [List.cons.injEq, Step.member.injEq] at h
          obtain ⟨⟨rfl, rfl⟩, hpath⟩ := h
          cases ih hq hpath
          rw [hi] at hi'
          cases hi'
          rw [hj] at hj'
          cases hj'
          rfl

theorem memberPlace?_eq_some {path : Path} {i : Nat} {members : List (String × Value)}
    {key : String} {place : Place} (h : memberPlace? path i members key = some place) :
    ∃ j, members[j]? = some (key, .list place.items) ∧ place.path = .member i j :: path := by
  rw [memberPlace?] at h
  split at h
  · rename_i name items j hf
    cases h
    have hmem := List.mem_of_find?_eq_some hf
    have hkey := List.find?_some hf
    simp only [decide_eq_true_eq] at hkey
    subst hkey
    exact ⟨j, List.mem_zipIdx_iff_getElem?.mp hmem, rfl⟩
  · cases h

theorem branchIn?_eq_some {place branch : Place} {key : String}
    (h : branchIn? place key = some branch) :
    ∃ i j members, place.items[i]? = some (.object members) ∧
      members[j]? = some (key, .list branch.items) ∧ branch.path = .member i j :: place.path := by
  obtain ⟨⟨entry, i⟩, hmem, hentry⟩ := List.exists_of_findSome?_eq_some h
  cases entry with
  | object members =>
      obtain ⟨j, hj, hpath⟩ := memberPlace?_eq_some hentry
      exact ⟨i, j, members, List.mem_zipIdx_iff_getElem?.mp hmem, hj, hpath⟩
  | null | bool _ | int _ | float _ | str _ | list _ => cases hentry

theorem branchIn?_inside {place branch : Place} {key : String}
    (h : branchIn? place key = some branch) : Inside place branch := by
  obtain ⟨path, items⟩ := branch
  obtain ⟨i, j, members, hi, hj, rfl⟩ := branchIn?_eq_some h
  exact .member .here hi hj

theorem findBranch?_inside {stack : List Place} {key : String} {branch : Place}
    (h : findBranch? stack key = some branch) : ∃ place ∈ stack, Inside place branch := by
  obtain ⟨place, hmem, hplace⟩ := List.exists_of_findSome?_eq_some h
  exact ⟨place, hmem, branchIn?_inside hplace⟩

section Folds

variable {σ ε γ : Type} {R : σ → σ → Prop} {step : σ → γ → Except ε σ} {s s' : σ}
variable (hrefl : ∀ s, R s s) (htrans : ∀ {a b c}, R a b → R b c → R a c)
include hrefl htrans

/-- A completed sequence of steps is related as its single steps are. -/
theorem foldlM_related {cs : List γ} (hs : ∀ c ∈ cs, ∀ s s', step s c = .ok s' → R s s')
    (h : cs.foldlM step s = .ok s') : R s s' := by
  induction cs generalizing s with
  | nil =>
      cases h
      exact hrefl _
  | cons c cs ih =>
      rw [List.foldlM_cons] at h
      cases hc : step s c with
      | error e => simp [hc, bind, Except.bind] at h
      | ok u =>
          rw [hc] at h
          have hu := hs c List.mem_cons_self s u hc
          exact htrans hu (ih (fun d hd => hs d (List.mem_cons_of_mem c hd)) h)

/-- Every step of a completed sequence was taken. -/
theorem foldlM_passes {cs : List γ} (hs : ∀ c ∈ cs, ∀ s s', step s c = .ok s' → R s s')
    (h : cs.foldlM step s = .ok s') {c : γ} (hc : c ∈ cs) :
    ∃ u u', step u c = .ok u' ∧ R u' s' := by
  induction cs generalizing s with
  | nil => cases hc
  | cons d cs ih =>
      have hrest : ∀ c ∈ cs, ∀ s s', step s c = .ok s' → R s s' := by
        intro c hc
        exact hs c (List.mem_cons_of_mem d hc)
      rw [List.foldlM_cons] at h
      cases hd : step s d with
      | error e => simp [hd, bind, Except.bind] at h
      | ok u =>
          rw [hd] at h
          cases hc with
          | head => exact ⟨s, u, hd, foldlM_related hrefl htrans hrest h⟩
          | tail _ hc => exact ih hrest h hc

end Folds

/-- Whether a meeting in the walk of `root` happens where the walk says that it does. -/
def Meeting.Placed (root : Place) : Meeting → Prop
  | .enter place _ => Inside root place
  | .choice key stack branch => (∀ place ∈ stack, Inside root place) ∧ branch = findBranch? stack key
  | .text _ | .divert _ _ => True

theorem Meeting.Placed.branch_inside {root branch : Place} {key : String} {stack : List Place}
    (h : (Meeting.choice key stack (some branch)).Placed root) : Inside root branch := by
  obtain ⟨hstack, hb⟩ := h
  obtain ⟨place, hmem, hplace⟩ := findBranch?_inside hb.symm
  exact (hstack place hmem).trans hplace

/-- Whether all that a tour kept is in its place. -/
def Tour.Placed (root : Place) (t : Tour (List Meeting)) : Prop :=
  ∀ m ∈ t.kept, m.Placed root

theorem Tour.Placed.concat {root : Place} {t : Tour (List Meeting)} {m : Meeting}
    {claimed : List Path} (h : t.Placed root) (hm : m.Placed root) :
    Tour.Placed root ⟨t.kept ++ [m], claimed⟩ := by
  intro x hx
  cases List.mem_append.mp hx with
  | inl hx => exact h x hx
  | inr hx =>
      cases List.mem_singleton.mp hx
      exact hm

/-- A leg that keeps everything in its place. -/
def Places (root : Place) (leg : Leg (List Meeting)) : Prop :=
  ∀ t t', leg t = .ok t' → t.Placed root → t'.Placed root

section Walk

variable {root : Place}

theorem walkMember_places {descend : Place → Leg (List Meeting)} {path : Path} {index : Nat}
    {entry : (String × Value) × Nat}
    (hd : ∀ xs, entry.1.2 = .list xs → Places root (descend ⟨.member index entry.2 :: path, xs⟩)) :
    Places root (fun t => walkMember descend path index t entry) := by
  intro t t' h ht
  obtain ⟨⟨key, value⟩, j⟩ := entry
  cases value with
  | list xs =>
      simp only [walkMember] at h
      split at h
      · cases h
        exact ht
      · exact hd xs rfl t t' h ht
  | null | bool _ | int _ | float _ | str _ | object _ =>
      cases h
      exact ht

theorem visitObject_places {jump : Place → Leg (List Meeting)} {stack : List Place}
    {inChoice : Bool} {members : List (String × Value)}
    (hj : ∀ branch, Inside root branch → Places root (jump branch))
    (hs : ∀ place ∈ stack, Inside root place) :
    Places root (visitObject tracing jump stack inChoice members) := by
  intro t t' h ht
  rw [visitObject] at h
  cases hk : branchKey? members with
  | some key =>
      have hm : (Meeting.choice key stack (findBranch? stack key)).Placed root := ⟨hs, rfl⟩
      cases hb : findBranch? stack key with
      | some branch =>
          simp only [hk, hb] at h
          rw [hb] at hm
          exact hj branch hm.branch_inside _ t' h (ht.concat hm)
      | none =>
          simp only [hk, hb] at h
          cases h
          rw [hb] at hm
          exact ht.concat hm
  | none =>
      cases hd : divertTarget? members with
      | some target =>
          simp only [hk, hd] at h
          cases h
          exact ht.concat trivial
      | none =>
          simp only [hk, hd] at h
          cases h
          exact ht

theorem visitItem_places {descend : Bool → Place → Leg (List Meeting)} {stack : List Place}
    {place : Place} {inChoice : Bool} {entry : Value × Nat}
    (hd : ∀ inChoice place, Inside root place → Places root (descend inChoice place))
    (hs : ∀ place ∈ stack, Inside root place) (hp : Inside root place)
    (hi : place.items[entry.2]? = some entry.1) :
    Places root (fun t => visitItem tracing descend stack place.path inChoice t entry) := by
  intro t t' h ht
  obtain ⟨value, i⟩ := entry
  cases value with
  | list xs => exact hd inChoice _ (.item hp hi) t t' h ht
  | str s =>
      simp only [visitItem] at h
      split at h
      · cases h
        exact ht.concat trivial
      · cases h
        exact ht
  | object members =>
      simp only [visitItem] at h
      cases hv : visitObject tracing (descend true) stack inChoice members t with
      | error e => simp [hv, bind, Except.bind] at h
      | ok u =>
          rw [hv] at h
          have hu : u.Placed root := visitObject_places (hd true) hs t u hv ht
          have hstep : ∀ c ∈ members.zipIdx, ∀ t t',
              walkMember (descend inChoice) place.path i t c = .ok t' →
              t.Placed root → t'.Placed root := by
            rintro ⟨⟨key, value⟩, j⟩ hc
            apply walkMember_places
            rintro xs rfl
            exact hd inChoice _ (.member hp hi (List.mem_zipIdx_iff_getElem?.mp hc))
          exact foldlM_related (fun _ h => h) (fun h k hx => k (h hx)) hstep h hu
  | null | bool _ | int _ | float _ =>
      cases h
      exact ht

/-- A walk below arrays of a body meets arrays and branches of that body only. -/
theorem walkArray_places (depth : Nat) {stack : List Place} {inChoice : Bool} {place : Place}
    (hs : ∀ place ∈ stack, Inside root place) (hp : Inside root place) :
    Places root (walkArray tracing depth stack inChoice place) := by
  induction depth generalizing stack inChoice place with
  | zero =>
      intro t t' h
      cases h
  | succ depth ih =>
      intro t t' h ht
      have hstack : ∀ q ∈ place :: stack, Inside root q := by
        intro q hq
        cases hq with
        | head => exact hp
        | tail _ hq => exact hs q hq
      have hstep : ∀ c ∈ place.items.zipIdx, ∀ t t',
          visitItem tracing (walkArray tracing depth (place :: stack)) (place :: stack) place.path
            inChoice t c = .ok t' → t.Placed root → t'.Placed root := by
        intro c hc
        apply visitItem_places (fun _ _ hq => ih hstack hq) hstack hp
        exact List.mem_zipIdx_iff_getElem?.mp hc
      exact foldlM_related (fun _ h => h) (fun h k hx => k (h hx)) hstep h (ht.concat hp)

end Walk

end KnotAtlas.Story
