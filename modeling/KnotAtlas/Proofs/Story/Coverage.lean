import KnotAtlas.Proofs.Story.Ledger
import KnotAtlas.Proofs.Story.Places

/-!
No array of a body is passed over. A walk under way has debts: a branch that was claimed and to
which no choice point has led yet, a choice point that has not been followed, an array that was
entered and not explored. A completed part of a walk leaves no debt that was not there before it, so
a completed walk leaves none.
-/

namespace KnotAtlas.Story

/-- Every array in an entered one is entered in the same way or claimed, and every divert is met. -/
structure Explored (place : Place) (inChoice : Bool) (t : Tour (List Meeting)) : Prop where
  items : ∀ i xs, place.items[i]? = some (.list xs) →
    .enter ⟨.item i :: place.path, xs⟩ inChoice ∈ t.kept
  members : ∀ i members j key xs, place.items[i]? = some (.object members) →
    members[j]? = some (key, .list xs) →
    .enter ⟨.member i j :: place.path, xs⟩ inChoice ∈ t.kept ∨
      .member i j :: place.path ∈ t.claimed
  diverts : ∀ members target, .object members ∈ place.items → branchKey? members = none →
    divertTarget? members = some target → .divert target inChoice ∈ t.kept

/-- What a walk under way still has to do. -/
inductive Debt where
  | reach (path : Path)
  | follow (branch : Place)
  | explore (place : Place) (inChoice : Bool)

/-- Whether a walk under way has a debt. -/
def Owes (t : Tour (List Meeting)) : Debt → Prop
  | .reach path => path ∈ t.claimed ∧
      ∀ key stack branch, .choice key stack (some branch) ∈ t.kept → branch.path ≠ path
  | .follow branch => (∃ key stack, .choice key stack (some branch) ∈ t.kept) ∧
      .enter branch true ∉ t.kept
  | .explore place inChoice => .enter place inChoice ∈ t.kept ∧ ¬ Explored place inChoice t

/-- A part of a walk from `t` to `t'` that leaves no new debt. -/
structure Pays (t t' : Tour (List Meeting)) : Prop where
  kept : ∀ m ∈ t.kept, m ∈ t'.kept
  claimed : ∀ path ∈ t.claimed, path ∈ t'.claimed
  debts : ∀ debt, Owes t' debt → Owes t debt

theorem Pays.refl (t : Tour (List Meeting)) : Pays t t :=
  ⟨fun _ h => h, fun _ h => h, fun _ h => h⟩

theorem Pays.trans {t u v : Tour (List Meeting)} (h : Pays t u) (k : Pays u v) : Pays t v :=
  ⟨fun m hm => k.kept m (h.kept m hm), fun p hp => k.claimed p (h.claimed p hp),
    fun d hd => h.debts d (k.debts d hd)⟩

theorem Explored.mono {place : Place} {inChoice : Bool} {t t' : Tour (List Meeting)}
    (h : Explored place inChoice t) (hk : ∀ m ∈ t.kept, m ∈ t'.kept)
    (hc : ∀ path ∈ t.claimed, path ∈ t'.claimed) : Explored place inChoice t' where
  items i xs hi := hk _ (h.items i xs hi)
  members i members j key xs hi hj := by
    cases h.members i members j key xs hi hj with
    | inl hm => exact .inl (hk _ hm)
    | inr hp => exact .inr (hc _ hp)
  diverts members target hm hb ht := hk _ (h.diverts members target hm hb ht)

/-- The debts that come with a meeting at which branches are claimed. -/
def Incurs (m : Meeting) (claims : List Path) : Debt → Prop
  | .reach path => path ∈ claims
  | .follow branch => ∃ key stack, m = .choice key stack (some branch)
  | .explore place inChoice => m = .enter place inChoice

/-- A tour after one more meeting. -/
def Tour.next (t : Tour (List Meeting)) (m : Meeting) (claims : List Path) :
    Tour (List Meeting) :=
  ⟨t.kept ++ [m], claims ++ t.claimed⟩

theorem owes_of_next {t : Tour (List Meeting)} {m : Meeting} {claims : List Path} {debt : Debt}
    (h : Owes (t.next m claims) debt) : Owes t debt ∨ Incurs m claims debt := by
  have hkept : ∀ x ∈ t.kept, x ∈ (t.next m claims).kept := by
    intro x hx
    exact List.mem_append_left _ hx
  cases debt with
  | reach path =>
      cases List.mem_append.mp h.1 with
      | inl hp => exact .inr hp
      | inr hp => exact .inl ⟨hp, fun key stack branch hc => h.2 key stack branch (hkept _ hc)⟩
  | follow branch =>
      obtain ⟨⟨key, stack, hc⟩, he⟩ := h
      cases List.mem_append.mp hc with
      | inl hc => exact .inl ⟨⟨key, stack, hc⟩, fun h => he (hkept _ h)⟩
      | inr hc => exact .inr ⟨key, stack, (List.mem_singleton.mp hc).symm⟩
  | explore place inChoice =>
      obtain ⟨hm, hx⟩ := h
      cases List.mem_append.mp hm with
      | inl hm =>
          refine .inl ⟨hm, fun h => hx (h.mono hkept ?_)⟩
          intro path hp
          exact List.mem_append_right _ hp
      | inr hm => exact .inr (List.mem_singleton.mp hm).symm

/-- A part of a walk pays if what follows its first meeting does, debts of that meeting included. -/
theorem pays_of_next {t t' : Tour (List Meeting)} {m : Meeting} {claims : List Path}
    (h : Pays (t.next m claims) t') (hd : ∀ debt, Incurs m claims debt → ¬ Owes t' debt) :
    Pays t t' where
  kept x hx := h.kept x (List.mem_append_left _ hx)
  claimed path hp := h.claimed path (List.mem_append_right _ hp)
  debts debt howes := by
    cases owes_of_next (h.debts debt howes) with
    | inl hold => exact hold
    | inr hnew => exact absurd howes (hd debt hnew)

theorem Pays.meets {t t' : Tour (List Meeting)} {m : Meeting} {claims : List Path}
    (h : Pays (t.next m claims) t') : m ∈ t'.kept :=
  h.kept m (List.mem_append_right _ List.mem_cons_self)

theorem pays_next {t : Tour (List Meeting)} {m : Meeting} {claims : List Path}
    (h : ∀ debt, ¬ Incurs m claims debt) : Pays t (t.next m claims) :=
  pays_of_next (.refl _) fun debt hd => absurd hd (h debt)

/-- Only entering an array and resolving a choice point make debts. -/
theorem not_incurs {m : Meeting} (henter : ∀ place inChoice, m ≠ .enter place inChoice)
    (hchoice : ∀ key stack branch, m ≠ .choice key stack (some branch)) (debt : Debt) :
    ¬ Incurs m [] debt := by
  cases debt with
  | reach path => exact List.not_mem_nil
  | follow branch =>
      rintro ⟨key, stack, h⟩
      exact hchoice key stack branch h
  | explore place inChoice => exact henter place inChoice

@[simp] theorem Tour.note_tracing (t : Tour (List Meeting)) (m : Meeting) :
    t.note tracing m = t.next m [] := rfl

@[simp] theorem Tour.enter_tracing (t : Tour (List Meeting)) (stack : List Place) (place : Place)
    (inChoice : Bool) :
    t.enter tracing stack place inChoice =
      t.next (.enter place inChoice) (claims (place :: stack) place.items) := rfl

/-- A leg that enters `place` and leaves no new debt. -/
def Covers (leg : Leg (List Meeting)) (place : Place) (inChoice : Bool) : Prop :=
  ∀ t t', leg t = .ok t' → Pays t t' ∧ .enter place inChoice ∈ t'.kept

theorem walkMember_pays {descend : Place → Leg (List Meeting)} {inChoice : Bool}
    (hd : ∀ place, Covers (descend place) place inChoice) {path : Path} {index : Nat}
    {t t' : Tour (List Meeting)} {entry : (String × Value) × Nat}
    (h : walkMember descend path index t entry = .ok t') :
    Pays t t' ∧ ∀ xs, entry.1.2 = .list xs →
      .enter ⟨.member index entry.2 :: path, xs⟩ inChoice ∈ t'.kept ∨
        .member index entry.2 :: path ∈ t'.claimed := by
  obtain ⟨⟨key, value⟩, j⟩ := entry
  cases value with
  | list items =>
      simp only [walkMember] at h
      split at h
      · rename_i hc
        cases h
        exact ⟨.refl t, fun _ _ => .inr hc⟩
      · obtain ⟨hp, he⟩ := hd _ t t' h
        refine ⟨hp, ?_⟩
        intro xs hxs
        cases hxs
        exact .inl he
  | null | bool _ | int _ | float _ | str _ | object _ =>
      cases h
      refine ⟨.refl t, ?_⟩
      intro xs hxs
      cases hxs

/-- A choice point is followed at once, which pays for it. -/
theorem visitObject_pays {jump : Place → Leg (List Meeting)} {stack : List Place} {inChoice : Bool}
    {members : List (String × Value)} (hj : ∀ place, Covers (jump place) place true)
    {t t' : Tour (List Meeting)} (h : visitObject tracing jump stack inChoice members t = .ok t') :
    Pays t t' ∧
    (∀ key branch, branchKey? members = some key → findBranch? stack key = some branch →
      .choice key stack (some branch) ∈ t'.kept) ∧
    (∀ target, branchKey? members = none → divertTarget? members = some target →
      .divert target inChoice ∈ t'.kept) := by
  rw [visitObject] at h
  cases hk : branchKey? members with
  | some key =>
      cases hb : findBranch? stack key with
      | some branch =>
          simp only [hk, hb, Tour.note_tracing] at h
          obtain ⟨hp, he⟩ := hj branch _ t' h
          refine ⟨pays_of_next hp ?_, ?_, by simp⟩
          · intro debt hd howes
            cases debt with
            | reach path => exact List.not_mem_nil hd
            | follow branch' =>
                obtain ⟨_, _, heq⟩ := hd
                cases heq
                exact howes.2 he
            | explore place inChoice => cases hd
          · intro key' branch' hkey hbranch
            cases hkey
            cases hb.symm.trans hbranch
            exact hp.meets
      | none =>
          simp only [hk, hb, Tour.note_tracing] at h
          cases h
          refine ⟨pays_next (not_incurs (by simp) (by simp)), ?_, by simp⟩
          intro key' branch' hkey hbranch
          cases hkey
          cases hb.symm.trans hbranch
  | none =>
      cases ht : divertTarget? members with
      | some target =>
          simp only [hk, ht, Tour.note_tracing] at h
          cases h
          refine ⟨pays_next (not_incurs (by simp) (by simp)), by simp, ?_⟩
          intro target' _ htarget
          cases htarget
          exact List.mem_append_right _ List.mem_cons_self
      | none =>
          simp only [hk, ht] at h
          cases h
          exact ⟨.refl t, by simp, by simp⟩

/-- What visiting an item leaves done: arrays in it are entered or claimed, a resolved choice point
is met with its branch, and a divert is met. -/
structure Visited (stack : List Place) (path : Path) (inChoice : Bool) (entry : Value × Nat)
    (t : Tour (List Meeting)) : Prop where
  item : ∀ xs, entry.1 = .list xs → .enter ⟨.item entry.2 :: path, xs⟩ inChoice ∈ t.kept
  member : ∀ members j key xs, entry.1 = .object members → members[j]? = some (key, .list xs) →
    .enter ⟨.member entry.2 j :: path, xs⟩ inChoice ∈ t.kept ∨
      .member entry.2 j :: path ∈ t.claimed
  choice : ∀ members key branch, entry.1 = .object members → branchKey? members = some key →
    findBranch? stack key = some branch → .choice key stack (some branch) ∈ t.kept
  divert : ∀ members target, entry.1 = .object members → branchKey? members = none →
    divertTarget? members = some target → .divert target inChoice ∈ t.kept

theorem Visited.mono {stack : List Place} {path : Path} {inChoice : Bool} {entry : Value × Nat}
    {t t' : Tour (List Meeting)} (h : Visited stack path inChoice entry t) (hp : Pays t t') :
    Visited stack path inChoice entry t' where
  item xs hi := hp.kept _ (h.item xs hi)
  member members j key xs hi hj := by
    cases h.member members j key xs hi hj with
    | inl hm => exact .inl (hp.kept _ hm)
    | inr hc => exact .inr (hp.claimed _ hc)
  choice members key branch hi hk hb := hp.kept _ (h.choice members key branch hi hk hb)
  divert members target hi hk ht := hp.kept _ (h.divert members target hi hk ht)

theorem visited_scalar {stack : List Place} {path : Path} {inChoice : Bool} {value : Value}
    {i : Nat} (hlist : ∀ xs, value ≠ .list xs) (hobject : ∀ members, value ≠ .object members)
    (t : Tour (List Meeting)) : Visited stack path inChoice (value, i) t where
  item xs h := absurd h (hlist xs)
  member members _ _ _ h _ := absurd h (hobject members)
  choice members _ _ h _ _ := absurd h (hobject members)
  divert members _ h _ _ := absurd h (hobject members)

theorem visitItem_pays {descend : Bool → Place → Leg (List Meeting)}
    (hd : ∀ inChoice place, Covers (descend inChoice place) place inChoice) {stack : List Place}
    {path : Path} {inChoice : Bool} {t t' : Tour (List Meeting)} {entry : Value × Nat}
    (h : visitItem tracing descend stack path inChoice t entry = .ok t') :
    Pays t t' ∧ Visited stack path inChoice entry t' := by
  obtain ⟨value, i⟩ := entry
  cases value with
  | list items =>
      obtain ⟨hp, he⟩ := hd inChoice _ t t' h
      have hobject : ∀ members, Value.list items ≠ .object members := by simp
      refine ⟨hp, ?_, ?_, ?_, ?_⟩
      · intro xs hxs
        cases hxs
        exact he
      · intro members _ _ _ h
        exact absurd h (hobject members)
      · intro members _ _ h
        exact absurd h (hobject members)
      · intro members _ h
        exact absurd h (hobject members)
  | str s =>
      simp only [visitItem, Tour.note_tracing] at h
      have hvisited : Visited stack path inChoice (.str s, i) t' :=
        visited_scalar (by simp) (by simp) t'
      split at h
      · cases h
        exact ⟨pays_next (not_incurs (by simp) (by simp)), hvisited⟩
      · cases h
        exact ⟨.refl t, hvisited⟩
  | object members =>
      simp only [visitItem] at h
      cases hv : visitObject tracing (descend true) stack inChoice members t with
      | error e => simp [hv, bind, Except.bind] at h
      | ok u =>
          rw [hv] at h
          obtain ⟨hvisit, hchoice, hdivert⟩ := visitObject_pays (hd true) hv
          have hstep : ∀ c ∈ members.zipIdx, ∀ t t',
              walkMember (descend inChoice) path i t c = .ok t' → Pays t t' := by
            intro c _ t t' hc
            exact (walkMember_pays (hd inChoice) hc).1
          have hrest : Pays u t' := foldlM_related Pays.refl Pays.trans hstep h
          refine ⟨hvisit.trans hrest, ?_, ?_, ?_, ?_⟩
          · intro xs hxs
            cases hxs
          · intro members' j key xs hm hj
            cases hm
            have hmem : ((key, .list xs), j) ∈ members.zipIdx := List.mem_zipIdx_iff_getElem?.mpr hj
            obtain ⟨v, w, hw, hlast⟩ := foldlM_passes Pays.refl Pays.trans hstep h hmem
            cases (walkMember_pays (hd inChoice) hw).2 xs rfl with
            | inl he => exact .inl (hlast.kept _ he)
            | inr hc => exact .inr (hlast.claimed _ hc)
          · intro members' key branch hm hk hb
            cases hm
            exact hrest.kept _ (hchoice key branch hk hb)
          · intro members' target hm hk ht
            cases hm
            exact hrest.kept _ (hdivert target hk ht)
  | null | bool _ | int _ | float _ =>
      cases h
      exact ⟨.refl t, visited_scalar (by simp) (by simp) t⟩

theorem mem_claims {stack : List Place} {items : List Value} {path : Path}
    (h : path ∈ claims stack items) :
    ∃ (i : Nat) (members : List (String × Value)) (key : String) (branch : Place),
      items[i]? = some (.object members) ∧ branchKey? members = some key ∧
      findBranch? stack key = some branch ∧ branch.path = path := by
  obtain ⟨entry, hmem, hentry⟩ := List.mem_filterMap.mp h
  obtain ⟨i, hi⟩ := List.mem_iff_getElem?.mp hmem
  cases entry with
  | object members =>
      simp only [Option.map_eq_some_iff, Option.bind_eq_some_iff] at hentry
      obtain ⟨branch, ⟨key, hk, hb⟩, hpath⟩ := hentry
      exact ⟨i, members, key, branch, hi, hk, hb, hpath⟩
  | null | bool _ | int _ | float _ | str _ | list _ => cases hentry

/-- A completed walk of an array leaves no new debt. By induction on the depth; the array's own
debts, its exploration and the branches it claims, are paid when its items have been visited. -/
theorem walkArray_covers (depth : Nat) (stack : List Place) (inChoice : Bool) (place : Place) :
    Covers (walkArray tracing depth stack inChoice place) place inChoice := by
  induction depth generalizing stack inChoice place with
  | zero =>
      intro t t' h
      cases h
  | succ depth ih =>
      intro t t' h
      simp only [walkArray, Tour.enter_tracing] at h
      have hstep : ∀ c ∈ place.items.zipIdx, ∀ t t',
          visitItem tracing (walkArray tracing depth (place :: stack)) (place :: stack) place.path
            inChoice t c = .ok t' → Pays t t' := by
        intro c _ t t' hc
        exact (visitItem_pays (ih (place :: stack)) hc).1
      have hp := foldlM_related Pays.refl Pays.trans hstep h
      have hvisited : ∀ i value, place.items[i]? = some value →
          Visited (place :: stack) place.path inChoice (value, i) t' := by
        intro i value hi
        have hmem : (value, i) ∈ place.items.zipIdx := List.mem_zipIdx_iff_getElem?.mpr hi
        obtain ⟨u, v, hv, hlast⟩ := foldlM_passes Pays.refl Pays.trans hstep h hmem
        exact (visitItem_pays (ih (place :: stack)) hv).2.mono hlast
      refine ⟨pays_of_next hp ?_, hp.meets⟩
      intro debt hd howes
      cases debt with
      | reach path =>
          obtain ⟨i, members, key, branch, hi, hk, hb, hpath⟩ := mem_claims hd
          have hc := (hvisited i _ hi).choice members key branch rfl hk hb
          exact howes.2 key _ branch hc hpath
      | follow branch =>
          obtain ⟨_, _, heq⟩ := hd
          cases heq
      | explore place' inChoice' =>
          cases hd
          apply howes.2
          constructor
          · intro i xs hi
            exact (hvisited i _ hi).item xs rfl
          · intro i members j key xs hi hj
            exact (hvisited i _ hi).member members j key xs rfl hj
          · intro members target hm hk ht
            obtain ⟨i, hi⟩ := List.mem_iff_getElem?.mp hm
            exact (hvisited i _ hi).divert members target rfl hk ht

end KnotAtlas.Story
