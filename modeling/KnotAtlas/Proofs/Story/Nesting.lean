import KnotAtlas.Proofs.Story.Places
import Mathlib.Data.List.Perm.Subperm

/-!
How deep arrays of a body can be nested. Arrays that are walked inside each other form a chain: each
is taken from one that is on the chain already. A chain in which no array comes twice is no longer
than the number of arrays in the body.
-/

namespace KnotAtlas

mutual

/-- The number of arrays in a value, itself included. -/
def Value.arrayCount : Value → Nat
  | .list items => Value.itemArrays items + 1
  | .object members => Value.memberArrays members
  | .null | .bool _ | .int _ | .float _ | .str _ => 0

def Value.itemArrays : List Value → Nat
  | [] => 0
  | v :: rest => v.arrayCount + Value.itemArrays rest

def Value.memberArrays : List (String × Value) → Nat
  | [] => 0
  | (_, v) :: rest => v.arrayCount + Value.memberArrays rest

end

namespace Story

/-- The number of arrays in a body, itself included. -/
def arrayCount (body : List Value) : Nat :=
  (Value.list body).arrayCount

/-- The arrays that a walk finds in an array: an item, or a member of an object among its items. -/
inductive Child (outer : Place) : Place → Prop
  | item {i : Nat} {xs : List Value} :
      outer.items[i]? = some (.list xs) → Child outer ⟨.item i :: outer.path, xs⟩
  | member {i j : Nat} {members : List (String × Value)} {key : String} {xs : List Value} :
      outer.items[i]? = some (.object members) → members[j]? = some (key, .list xs) →
      Child outer ⟨.member i j :: outer.path, xs⟩

theorem Child.path {outer inner : Place} (h : Child outer inner) :
    ∃ step, inner.path = step :: outer.path := by
  cases h with
  | item _ | member _ _ => exact ⟨_, rfl⟩

theorem Inside.child {root outer inner : Place} (h : Inside root outer) (hc : Child outer inner) :
    Inside root inner := by
  cases hc with
  | item hi => exact .item h hi
  | member hi hj => exact .member h hi hj

/-- Only one array in a body holds a given one. -/
theorem Child.unique {body : List Value} {p q inner : Place} (hp : Child p inner)
    (hq : Child q inner) (hip : Inside (bodyPlace body) p) (hiq : Inside (bodyPlace body) q) :
    p = q := by
  obtain ⟨_, hpath⟩ := hp.path
  obtain ⟨_, hpath'⟩ := hq.path
  rw [hpath] at hpath'
  exact hip.eq_of_path_eq hiq (List.cons.inj hpath').2

theorem branchIn?_child {holder branch : Place} {key : String}
    (h : branchIn? holder key = some branch) : Child holder branch := by
  obtain ⟨path, items⟩ := branch
  obtain ⟨i, j, members, hi, hj, rfl⟩ := branchIn?_eq_some h
  exact .member hi hj

mutual

/-- The arrays in a value at a path, those of objects inside objects left out. -/
def placesIn (path : Path) : Value → List Place
  | .list items => ⟨path, items⟩ :: itemPlaces path 0 items
  | .null | .bool _ | .int _ | .float _ | .str _ | .object _ => []

def itemPlaces (path : Path) (i : Nat) : List Value → List Place
  | [] => []
  | .object members :: rest => memberPlaces path i 0 members ++ itemPlaces path (i + 1) rest
  | v :: rest => placesIn (.item i :: path) v ++ itemPlaces path (i + 1) rest

def memberPlaces (path : Path) (i j : Nat) : List (String × Value) → List Place
  | [] => []
  | (_, v) :: rest => placesIn (.member i j :: path) v ++ memberPlaces path i (j + 1) rest

end

def ChildrenIn (ps : List Place) : Prop :=
  ∀ outer ∈ ps, ∀ inner, Child outer inner → inner ∈ ps

theorem ChildrenIn.append {ps qs : List Place} (hp : ChildrenIn ps) (hq : ChildrenIn qs) :
    ChildrenIn (ps ++ qs) := by
  intro outer houter inner hchild
  rw [List.mem_append] at houter ⊢
  exact houter.imp (hp outer · inner hchild) (hq outer · inner hchild)

theorem mem_itemPlaces_list (path : Path) {items xs : List Value} {i : Nat}
    (h : items[i]? = some (.list xs)) (first : Nat) :
    ⟨.item (first + i) :: path, xs⟩ ∈ itemPlaces path first items := by
  induction items generalizing first i with
  | nil => cases h
  | cons v rest ih =>
      cases i with
      | zero =>
          cases h
          simp [itemPlaces, placesIn]
      | succ i =>
          have hrest := ih h (first + 1)
          rw [Nat.add_right_comm, Nat.add_assoc] at hrest
          cases v <;> exact List.mem_append_right _ hrest

theorem mem_memberPlaces (path : Path) {members : List (String × Value)} {key : String}
    {xs : List Value} {j : Nat} (h : members[j]? = some (key, .list xs)) (i first : Nat) :
    ⟨.member i (first + j) :: path, xs⟩ ∈ memberPlaces path i first members := by
  induction members generalizing first j with
  | nil => cases h
  | cons entry rest ih =>
      cases j with
      | zero =>
          cases h
          simp [memberPlaces, placesIn]
      | succ j =>
          have hrest := ih h (first + 1)
          rw [Nat.add_right_comm, Nat.add_assoc] at hrest
          exact List.mem_append_right _ hrest

theorem mem_itemPlaces_member (path : Path) {items : List Value} {i j : Nat}
    {members : List (String × Value)} {key : String} {xs : List Value}
    (hi : items[i]? = some (.object members)) (hj : members[j]? = some (key, .list xs))
    (first : Nat) :
    ⟨.member (first + i) j :: path, xs⟩ ∈ itemPlaces path first items := by
  induction items generalizing first i with
  | nil => cases hi
  | cons v rest ih =>
      cases i with
      | zero =>
          cases hi
          have hmember := mem_memberPlaces path hj first 0
          rw [Nat.zero_add] at hmember
          exact List.mem_append_left _ hmember
      | succ i =>
          have hrest := ih hi (first + 1)
          rw [Nat.add_right_comm, Nat.add_assoc] at hrest
          cases v <;> exact List.mem_append_right _ hrest

mutual

theorem childrenIn_placesIn (path : Path) (v : Value) : ChildrenIn (placesIn path v) := by
  cases v with
  | list items =>
      have htail := childrenIn_itemPlaces path 0 items
      intro outer houter inner hchild
      cases houter with
      | head =>
          refine .tail _ ?_
          cases hchild with
          | item hi =>
              have hmem := mem_itemPlaces_list path hi 0
              rwa [Nat.zero_add] at hmem
          | member hi hj =>
              have hmem := mem_itemPlaces_member path hi hj 0
              rwa [Nat.zero_add] at hmem
      | tail _ houter => exact .tail _ (htail outer houter inner hchild)
  | null | bool _ | int _ | float _ | str _ | object _ =>
      intro outer houter
      cases houter

theorem childrenIn_itemPlaces (path : Path) (i : Nat) (items : List Value) :
    ChildrenIn (itemPlaces path i items) := by
  cases items with
  | nil =>
      intro outer houter
      cases houter
  | cons v rest =>
      have hrest := childrenIn_itemPlaces path (i + 1) rest
      cases v with
      | object members => exact (childrenIn_memberPlaces path i 0 members).append hrest
      | list xs => exact (childrenIn_placesIn (.item i :: path) (.list xs)).append hrest
      | null | bool _ | int _ | float _ | str _ => exact hrest

theorem childrenIn_memberPlaces (path : Path) (i j : Nat) (members : List (String × Value)) :
    ChildrenIn (memberPlaces path i j members) := by
  cases members with
  | nil =>
      intro outer houter
      cases houter
  | cons entry rest =>
      exact (childrenIn_placesIn (.member i j :: path) entry.2).append
        (childrenIn_memberPlaces path i (j + 1) rest)

end

mutual

theorem length_placesIn (path : Path) (v : Value) : (placesIn path v).length ≤ v.arrayCount := by
  cases v with
  | list items =>
      have hitems := length_itemPlaces path 0 items
      simp only [placesIn, List.length_cons, Value.arrayCount]
      omega
  | null | bool _ | int _ | float _ | str _ | object _ => exact Nat.zero_le _

theorem length_itemPlaces (path : Path) (i : Nat) (items : List Value) :
    (itemPlaces path i items).length ≤ Value.itemArrays items := by
  cases items with
  | nil => exact Nat.zero_le _
  | cons v rest =>
      have hrest := length_itemPlaces path (i + 1) rest
      cases v with
      | object members =>
          have hmembers := length_memberPlaces path i 0 members
          simp only [itemPlaces, List.length_append, Value.itemArrays, Value.arrayCount]
          omega
      | list xs =>
          have hxs := length_placesIn (.item i :: path) (.list xs)
          simp only [itemPlaces, List.length_append, Value.itemArrays]
          omega
      | null | bool _ | int _ | float _ | str _ =>
          simp only [itemPlaces, placesIn, List.nil_append, Value.itemArrays]
          omega

theorem length_memberPlaces (path : Path) (i j : Nat) (members : List (String × Value)) :
    (memberPlaces path i j members).length ≤ Value.memberArrays members := by
  cases members with
  | nil => exact Nat.zero_le _
  | cons entry rest =>
      have hentry := length_placesIn (.member i j :: path) entry.2
      have hrest := length_memberPlaces path i (j + 1) rest
      simp only [memberPlaces, List.length_append, Value.memberArrays]
      omega

end

theorem mem_placesIn {body : List Value} {p : Place} (h : Inside (bodyPlace body) p) :
    p ∈ placesIn [] (.list body) := by
  have hclosed := childrenIn_placesIn [] (.list body)
  induction h with
  | here => exact .head _
  | item _ hi ih => exact hclosed _ ih _ (.item hi)
  | member _ hi hj ih => exact hclosed _ ih _ (.member hi hj)

/-- Arrays of a body that can be walked inside each other, the innermost first: each but the body is
a new one from inside one below it. -/
inductive Chain (body : List Value) : List Place → Prop
  | body : Chain body [bodyPlace body]
  | push {outer inner : Place} {stack : List Place} :
      Chain body stack → outer ∈ stack → Child outer inner → inner ∉ stack →
      Chain body (inner :: stack)

namespace Chain

variable {body : List Value} {stack : List Place}

theorem inside (h : Chain body stack) : ∀ place ∈ stack, Inside (bodyPlace body) place := by
  induction h with
  | body =>
      intro place hplace
      cases List.mem_singleton.mp hplace
      exact .here
  | push _ houter hchild _ ih =>
      intro place hplace
      cases hplace with
      | head => exact (ih _ houter).child hchild
      | tail _ hplace => exact ih place hplace

theorem nodup (h : Chain body stack) : stack.Nodup := by
  induction h with
  | body => exact List.pairwise_singleton _ _
  | push _ _ _ hnew ih => exact List.nodup_cons.mpr ⟨hnew, ih⟩

theorem length_le (h : Chain body stack) : stack.length ≤ arrayCount body := by
  have hsub : stack ⊆ placesIn [] (.list body) := by
    intro place hplace
    exact mem_placesIn (h.inside place hplace)
  calc stack.length
      _ ≤ (placesIn [] (.list body)).length := (h.nodup.subperm hsub).length_le
      _ ≤ arrayCount body := length_placesIn [] (.list body)

theorem room {place : Place} {above : List Place} (h : Chain body (place :: above)) :
    above.length < arrayCount body := by
  have hlength := h.length_le
  rwa [List.length_cons] at hlength

/-- An array stands above the one that holds it. -/
theorem outer_mem_tail (h : Chain body stack) {outer inner : Place} (hinner : inner ∈ stack)
    (hchild : Child outer inner) (houter : Inside (bodyPlace body) outer) :
    outer ∈ stack.tail := by
  induction h with
  | body =>
      cases List.mem_singleton.mp hinner
      obtain ⟨step, hpath⟩ := hchild.path
      cases hpath
  | push hstack hmem hpushed _ ih =>
      cases hinner with
      | head =>
          cases hchild.unique hpushed houter (hstack.inside _ hmem)
          exact hmem
      | tail _ hinner => exact List.mem_of_mem_tail (ih hinner)

/-- The innermost array's children are not on the chain. -/
theorem descend {place inner : Place} {above : List Place} (h : Chain body (place :: above))
    (hchild : Child place inner) : Chain body (inner :: place :: above) := by
  refine .push h (.head above) hchild fun hmem => ?_
  have hplace := h.outer_mem_tail hmem hchild (h.inside place (.head above))
  exact (List.nodup_cons.mp h.nodup).1 hplace

/-- A choice point that leads to no array on the chain lengthens it. -/
theorem jump (h : Chain body stack) {key : String} {branch : Place}
    (hfound : findBranch? stack key = some branch) (hnew : branch ∉ stack) :
    Chain body (branch :: stack) := by
  obtain ⟨holder, hholder, hbranch⟩ := List.exists_of_findSome?_eq_some hfound
  exact .push h hholder (branchIn?_child hbranch) hnew

end Chain

end Story
end KnotAtlas
