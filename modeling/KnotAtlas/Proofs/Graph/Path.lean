import KnotAtlas.Graph.Path
import KnotAtlas.Proofs.Graph.Reach
import Mathlib.Data.List.Chain
import Mathlib.Data.List.Nodup

/-!
What the search for a path finds: the first of the shortest paths, in the order of the links. The
queue stands in that order as far as knots go that were not visited, and every path to the goal is
matched by one that goes on from a path in the queue. Where a knot is taken up, a path that came to
it by another way is matched anew by way of the knot's first path.
-/

namespace KnotAtlas

/-- A chain of links, told knot by knot. -/
structure IsPath (links : List Link) (start goal : String) (path : List String) : Prop where
  head : path.head? = some start
  last : path.getLast? = some goal
  linked : path.IsChain (Linked links)

/-- Whether a path parts from another by taking a target that stands earlier among those of the last
knot that both share. -/
def PartsEarlier (links : List Link) (path other : List String) : Prop :=
  ∃ shared knot a b rest rest',
    path = shared ++ knot :: a :: rest ∧ other = shared ++ knot :: b :: rest' ∧
    (targetsOf links knot).idxOf a < (targetsOf links knot).idxOf b

/-- A path as the search holds it, its last knot first. -/
inductive Route (links : List Link) (start : String) : List String → Prop
  | start : Route links start [start]
  | step {knot next : String} {before : List String} :
      Route links start (knot :: before) → Linked links knot next →
      Route links start (next :: knot :: before)

/-- `PartsEarlier` for routes of the same length. -/
inductive Earlier (links : List Link) : List String → List String → Prop
  | part {knot a b : String} {before : List String} :
      (targetsOf links knot).idxOf a < (targetsOf links knot).idxOf b →
      Earlier links (a :: knot :: before) (b :: knot :: before)
  | follow {a b : String} {p q : List String} :
      Earlier links p q → Earlier links (a :: p) (b :: q)

/-- The order in which routes wait: by length, then by the place of their targets. -/
def Ahead (links : List Link) (p q : List String) : Prop :=
  p = q ∨ p.length < q.length ∨ Earlier links p q

variable {links : List Link} {start goal : String}

namespace Route

theorem of_leads {knot : String} (h : Leads links start knot) :
    ∃ before, Route links start (knot :: before) := by
  induction h with
  | refl => exact ⟨[], .start⟩
  | tail _ hlinked ih =>
      obtain ⟨before, hroute⟩ := ih
      exact ⟨_, .step hroute hlinked⟩

theorem leads {knot : String} {before : List String} (h : Route links start (knot :: before)) :
    Leads links start knot := by
  generalize hr : knot :: before = route at h
  induction h generalizing knot before with
  | start =>
      cases hr
      exact .refl
  | step _ hlinked ih =>
      cases hr
      exact .tail (ih rfl) hlinked

theorem isPath {route : List String} (h : Route links start route)
    (hgoal : route.head? = some goal) : IsPath links start goal route.reverse := by
  refine ⟨?_, by rw [List.getLast?_reverse, hgoal], ?_⟩
  · rw [List.head?_reverse]
    clear hgoal
    induction h with
    | start => rfl
    | step _ _ ih => rw [List.getLast?_cons_cons, ih]
  · rw [List.isChain_reverse]
    clear hgoal
    induction h with
    | start => exact .singleton start
    | step _ hlinked ih => exact .cons_cons hlinked ih

theorem of_isPath {path : List String} (h : IsPath links start goal path) :
    Route links start path.reverse ∧ path.reverse.head? = some goal := by
  obtain ⟨hhead, hlast, hlinked⟩ := h
  refine ⟨?_, by rw [List.head?_reverse, hlast]⟩
  rw [← List.reverse_reverse path, List.isChain_reverse] at hlinked
  rw [← List.getLast?_reverse] at hhead
  clear hlast
  generalize path.reverse = route at hhead hlinked ⊢
  induction route with
  | nil => cases hhead
  | cons knot before ih =>
      cases before with
      | nil =>
          cases hhead
          exact .start
      | cons previous before =>
          rw [List.getLast?_cons_cons] at hhead
          cases hlinked with
          | cons_cons hlink hrest => exact .step (ih hhead hrest) hlink

theorem exists_later {route : List String} (h : Route links start route) :
    ∃ later, route = later ++ [start] := by
  induction h with
  | start => exact ⟨[], rfl⟩
  | @step knot next before _ _ ih =>
      obtain ⟨later, hlater⟩ := ih
      exact ⟨next :: later, by rw [hlater, List.cons_append]⟩

/-- Another way to a knot may be put in the place of the one that a route takes. -/
theorem splice {later u v : List String} {knot : String}
    (h : Route links start (later ++ knot :: u)) (hv : Route links start (knot :: v)) :
    Route links start (later ++ knot :: v) := by
  induction later with
  | nil => exact hv
  | cons last later ih =>
      cases later with
      | nil =>
          cases h with
          | step _ hlinked => exact .step hv hlinked
      | cons next later =>
          cases h with
          | step hroute hlinked => exact .step (ih hroute) hlinked

theorem linked {later u : List String} {knot next : String}
    (h : Route links start (later ++ next :: knot :: u)) : Linked links knot next := by
  induction later with
  | nil =>
      cases h with
      | step _ hlinked => exact hlinked
  | cons last later ih =>
      cases later with
      | nil =>
          cases h with
          | step hroute _ => exact ih hroute
      | cons _ _ =>
          cases h with
          | step hroute _ => exact ih hroute

end Route

namespace Earlier

theorem length_eq {p q : List String} (h : Earlier links p q) : p.length = q.length := by
  induction h with
  | part _ => rfl
  | follow _ ih => simp only [List.length_cons, ih]

theorem trans {p q r : List String} (h : Earlier links p q) (k : Earlier links q r) :
    Earlier links p r := by
  induction h generalizing r with
  | part hab =>
      cases k with
      | part hbc => exact .part (Nat.lt_trans hab hbc)
      | follow k => exact .follow k
  | follow hpq ih =>
      cases k with
      | part _ => exact .follow hpq
      | follow k => exact .follow (ih k)

theorem append_left {p q : List String} (h : Earlier links p q) (later : List String) :
    Earlier links (later ++ p) (later ++ q) := by
  induction later with
  | nil => exact h
  | cons _ _ ih => exact .follow ih

theorem partsEarlier {p q : List String} (h : Earlier links p q) :
    PartsEarlier links p.reverse q.reverse := by
  induction h with
  | @part knot a b before hab =>
      exact ⟨before.reverse, knot, a, b, [], [], by simp, by simp, hab⟩
  | @follow a b p q _ ih =>
      obtain ⟨shared, knot, c, d, rest, rest', hp, hq, hcd⟩ := ih
      exact ⟨shared, knot, c, d, rest ++ [a], rest' ++ [b], by simp [hp], by simp [hq], hcd⟩

end Earlier

namespace Ahead

theorem length_le {p q : List String} (h : Ahead links p q) : p.length ≤ q.length := by
  rcases h with rfl | hlt | he
  · exact Nat.le_refl _
  · exact Nat.le_of_lt hlt
  · exact Nat.le_of_eq he.length_eq

theorem trans {p q r : List String} (h : Ahead links p q) (k : Ahead links q r) :
    Ahead links p r := by
  have hpq := h.length_le
  have hqr := k.length_le
  rcases h with rfl | hlt | he
  · exact k
  · exact .inr (.inl (by omega))
  · rcases k with rfl | hlt | ke
    · exact .inr (.inr he)
    · exact .inr (.inl (by omega))
    · exact .inr (.inr (he.trans ke))

theorem append_left {p q : List String} (h : Ahead links p q) (later : List String) :
    Ahead links (later ++ p) (later ++ q) := by
  rcases h with rfl | hlt | he
  · exact .inl rfl
  · exact .inr (.inl (by simp only [List.length_append]; omega))
  · exact .inr (.inr (he.append_left later))

theorem self_append (p later : List String) : Ahead links p (later ++ p) := by
  cases later with
  | nil => exact .inl rfl
  | cons _ _ => exact .inr (.inl (by simp only [List.length_append, List.length_cons]; omega))

end Ahead

/-- A route in the queue with the one it lengthens. -/
abbrev Waiting := String × List String

/-- Whether a route waits in front of another. It stands no further back than the other in the order
of routes, and no further ahead than what the other lengthens. -/
structure InFront (links : List Link) (d e : Waiting) : Prop where
  ahead : Ahead links (d.1 :: d.2) (e.1 :: e.2)
  near : Ahead links e.2 (d.1 :: d.2)

/-- Whether the queue stands in order. Routes to knots that were visited, and a route that waits a
second time because two links lead the same way, stand anywhere. -/
def Ordered (links : List Link) (seen : List String) (queue : List Waiting) : Prop :=
  ∀ xs e ys, queue = xs ++ e :: ys → e.1 ∉ seen → e ∉ xs →
    ∀ d ∈ xs, d.1 ∉ seen → InFront links d e

namespace Ordered

variable {seen : List String} {first : Waiting} {rest : List Waiting}

theorem head (h : Ordered links seen (first :: rest)) (hfirst : first.1 ∉ seen) {e : Waiting}
    (he : e ∈ rest) (hnew : e.1 ∉ seen) (hne : e ≠ first) : InFront links first e := by
  obtain ⟨xs, ys, rfl, hxs⟩ := List.eq_append_cons_of_mem he
  exact h (first :: xs) e ys rfl hnew (by simp [hne, hxs]) first (.head xs) hfirst

theorem tail (h : Ordered links seen (first :: rest)) {seen' : List String}
    (hsub : ∀ k ∈ seen, k ∈ seen') (hfirst : first.1 ∈ seen') : Ordered links seen' rest := by
  intro xs e ys hsplit hnew hxs d hd hdnew
  have hne : e ≠ first := by
    rintro rfl
    exact hnew hfirst
  exact h (first :: xs) e ys (by rw [hsplit]; rfl) (fun hs => hnew (hsub _ hs)) (by simp [hne, hxs])
    d (.tail first hd) (fun hs => hdnew (hsub _ hs))

end Ordered

/-- Of two targets, the one that comes first among the unvisited ones stands earlier. -/
theorem idxOf_lt_of_filter {targets as ys : List String} {p : String → Bool} {s t : String}
    (h : targets.filter p = as ++ t :: ys) (hs : s ∈ as) (ht : t ∉ as) :
    targets.idxOf s < targets.idxOf t := by
  obtain ⟨l, l', rfl, rfl, hrest⟩ := List.filter_eq_append_iff.mp h
  have hsl : s ∈ l := (List.mem_filter.mp hs).1
  have htl : t ∉ l := by
    intro hmem
    have hp : p t = true := by
      have : t ∈ l'.filter p := hrest ▸ List.mem_cons_self
      exact (List.mem_filter.mp this).2
    exact ht (List.mem_filter.mpr ⟨hmem, hp⟩)
  rw [List.idxOf_append_of_mem hsl, List.idxOf_append_of_notMem htl]
  have := List.idxOf_lt_length_of_mem hsl
  omega

/-- The unvisited targets of a knot, as the search puts them in the queue. -/
def lengthened (links : List Link) (seen : List String) (knot : String) (before : List String) :
    List Waiting :=
  ((targetsOf links knot).filter (· ∉ knot :: seen)).map fun t => (t, knot :: before)

variable {seen before : List String} {knot : String}

theorem mem_lengthened {e : Waiting} :
    e ∈ lengthened links seen knot before ↔
      Linked links knot e.1 ∧ e.1 ∉ knot :: seen ∧ e.2 = knot :: before := by
  obtain ⟨next, past⟩ := e
  simp only [lengthened, List.mem_map, List.mem_filter, decide_eq_true_eq, Prod.mk.injEq,
    mem_targetsOf, Linked]
  constructor
  · rintro ⟨t, ⟨hlinked, hnew⟩, rfl, rfl⟩
    exact ⟨hlinked, hnew, rfl⟩
  · rintro ⟨hlinked, hnew, rfl⟩
    exact ⟨next, ⟨hlinked, hnew⟩, rfl, rfl⟩

theorem inFront_lengthened {as ys : List Waiting} {d e : Waiting}
    (h : lengthened links seen knot before = as ++ e :: ys) (he : e ∉ as) (hd : d ∈ as) :
    InFront links d e := by
  obtain ⟨ts, ts', hts, rfl, htail⟩ := List.map_eq_append_iff.mp h
  obtain ⟨t, ts', rfl, rfl, -⟩ := List.map_eq_cons_iff.mp htail
  obtain ⟨s, hs, rfl⟩ := List.mem_map.mp hd
  have ht : t ∉ ts := fun hmem => he (List.mem_map_of_mem hmem)
  refine ⟨.inr (.inr (.part (idxOf_lt_of_filter hts hs ht))), .inr (.inl ?_)⟩
  exact Nat.lt_succ_self _

/-- A route that goes on to the goal by way of knots that were not visited. -/
structure Onward (links : List Link) (start goal : String) (seen : List String) (e : Waiting)
    (later : List String) : Prop where
  route : Route links start (later ++ e.1 :: e.2)
  head : (later ++ e.1 :: e.2).head? = some goal
  unvisited : ∀ k ∈ e.1 :: later, k ∉ seen

/-- What holds of the search at any time. -/
structure Searching (links : List Link) (start goal : String) (queue : List Waiting)
    (seen : List String) : Prop where
  routes : ∀ e ∈ queue, Route links start (e.1 :: e.2)
  simple : ∀ e ∈ queue, e.2.Nodup ∧ ∀ k ∈ e.2, k ∈ seen
  goal_new : goal ∉ seen
  ordered : Ordered links seen queue
  matched : ∀ r, Route links start (goal :: r) → ∃ e ∈ queue, ∃ later,
    Onward links start goal seen e later ∧ Ahead links (later ++ e.1 :: e.2) (goal :: r)

namespace Searching

variable {queue rest : List Waiting}

theorem begin (links : List Link) (start goal : String) :
    Searching links start goal [(start, [])] [] where
  routes e he := by
    cases List.mem_singleton.mp he
    exact .start
  simple e he := by
    cases List.mem_singleton.mp he
    exact ⟨.nil, fun _ h => h⟩
  goal_new := List.not_mem_nil
  ordered xs e ys hsplit _ _ d hd _ := by
    cases xs with
    | nil => cases hd
    | cons x xs => simp at hsplit
  matched r hr := by
    obtain ⟨later, hlater⟩ := hr.exists_later
    refine ⟨_, .head [], later, ⟨?_, ?_, fun _ _ => List.not_mem_nil⟩, .inl hlater.symm⟩
    · rwa [← hlater]
    · rw [← hlater, List.head?_cons]

theorem skip (h : Searching links start goal ((knot, before) :: rest) seen) (hseen : knot ∈ seen) :
    Searching links start goal rest seen where
  routes e he := h.routes e (.tail _ he)
  simple e he := h.simple e (.tail _ he)
  goal_new := h.goal_new
  ordered := h.ordered.tail (fun _ hk => hk) hseen
  matched r hr := by
    obtain ⟨e, he, later, honward, hahead⟩ := h.matched r hr
    cases he with
    | head => exact absurd hseen (honward.unvisited knot (.head later))
    | tail _ he => exact ⟨e, he, later, honward, hahead⟩

/-- The route at the head of the queue is ahead of all that may still be lengthened. -/
theorem first_ahead (h : Searching links start goal ((knot, before) :: rest) seen)
    (hknot : knot ∉ seen) {e : Waiting} (he : e ∈ (knot, before) :: rest) (hnew : e.1 ∉ seen) :
    Ahead links (knot :: before) (e.1 :: e.2) := by
  by_cases hfirst : e = (knot, before)
  · rw [hfirst]
    exact .inl rfl
  · have hrest : e ∈ rest := (List.mem_cons.mp he).resolve_left hfirst
    exact (h.ordered.head hknot hrest hnew hfirst).ahead

theorem answer (h : Searching links start goal ((goal, before) :: rest) seen) :
    Route links start (goal :: before) ∧ (goal :: before).Nodup ∧
      ∀ r, Route links start (goal :: r) → Ahead links (goal :: before) (goal :: r) := by
  obtain ⟨hnodup, hvisited⟩ := h.simple _ (.head rest)
  refine ⟨h.routes _ (.head rest), ?_, ?_⟩
  · exact List.nodup_cons.mpr ⟨fun hmem => h.goal_new (hvisited goal hmem), hnodup⟩
  · intro r hr
    obtain ⟨e, he, later, honward, hahead⟩ := h.matched r hr
    have hfirst := h.first_ahead h.goal_new he (honward.unvisited e.1 (.head later))
    exact (hfirst.trans (.self_append _ later)).trans hahead

/-- A route that waited before waits in front of those that lengthen the first one. -/
theorem inFront_of_waiting (h : Searching links start goal ((knot, before) :: rest) seen)
    (hknot : knot ∉ seen) {d e : Waiting} (hd : d ∈ rest) (hnew : d.1 ∉ knot :: seen)
    (he : e.2 = knot :: before) : InFront links d e := by
  rw [List.mem_cons, not_or] at hnew
  have hne : d ≠ (knot, before) := fun heq => hnew.1 (congrArg Prod.fst heq)
  have hfirst := h.ordered.head hknot hd hnew.2 hne
  obtain ⟨next, past⟩ := e
  cases he
  refine ⟨?_, hfirst.ahead⟩
  rcases hfirst.near with heq | hlt | hearlier
  · -- Nothing waits that lengthens a knot before it is visited.
    have hmem : knot ∈ d.2 := heq ▸ List.mem_cons_self
    exact absurd ((h.simple d (.tail _ hd)).2 knot hmem) hknot
  · exact .inr (.inl (Nat.succ_lt_succ hlt))
  · exact .inr (.inr (.follow hearlier))

theorem ordered_visit (h : Searching links start goal ((knot, before) :: rest) seen)
    (hknot : knot ∉ seen) :
    Ordered links (knot :: seen) (rest ++ lengthened links seen knot before) := by
  intro xs e ys hsplit hnew hxs d hd hdnew
  have hrest : Ordered links (knot :: seen) rest :=
    h.ordered.tail (fun _ hk => .tail knot hk) (.head seen)
  rcases List.append_eq_append_iff.mp hsplit with ⟨as, rfl, has⟩ | ⟨bs, hbs, hys⟩
  · have he : e ∈ lengthened links seen knot before := by
      rw [has]
      exact List.mem_append_right _ (.head ys)
    rcases List.mem_append.mp hd with hwaiting | hlong
    · exact h.inFront_of_waiting hknot hwaiting hdnew (mem_lengthened.mp he).2.2
    · exact inFront_lengthened has (fun hmem => hxs (List.mem_append_right _ hmem)) hlong
  · cases bs with
    | nil =>
        rw [List.append_nil] at hbs
        have he : e ∈ lengthened links seen knot before := by
          rw [← List.nil_append (lengthened links seen knot before), ← hys]
          exact .head ys
        exact h.inFront_of_waiting hknot (hbs ▸ hd) hdnew (mem_lengthened.mp he).2.2
    | cons b bs =>
        cases hys
        exact hrest xs e bs hbs hnew hxs d hd hdnew

/-- The part of a route up to the last time that it comes to a knot. -/
theorem exists_last (links : List Link) (past : List String) {later : List String} {first : String}
    (h : knot ∈ first :: later) :
    ∃ later' u, later ++ first :: past = later' ++ knot :: u ∧
      Ahead links (first :: past) (knot :: u) ∧ knot ∉ later' ∧ ∀ k ∈ later', k ∈ later := by
  by_cases hlater : knot ∈ later
  · obtain ⟨later', u, rfl, hlast⟩ := List.eq_append_cons_of_mem hlater
    refine ⟨later', u ++ first :: past, by simp, .self_append _ (knot :: u), hlast, ?_⟩
    intro k hk
    exact List.mem_append_left _ hk
  · cases h with
    | head => exact ⟨later, past, rfl, .inl rfl, hlater, fun _ hk => hk⟩
    | tail _ h => exact absurd h hlater

/-- Where the knot that is visited lies on a route, the first way to it takes the place of the
other, and the route goes on from one of its targets. -/
theorem onward_visit (h : Searching links start goal ((knot, before) :: rest) seen)
    (hgoal : knot ≠ goal) {later u : List String}
    (hroute : Route links start (later ++ knot :: u))
    (hhead : (later ++ knot :: u).head? = some goal) (hnew : ∀ k ∈ later, k ∉ knot :: seen) :
    ∃ e ∈ lengthened links seen knot before, ∃ later',
      Onward links start goal (knot :: seen) e later' ∧
      later' ++ e.1 :: e.2 = later ++ knot :: before := by
  have hspliced : Route links start (later ++ knot :: before) :=
    hroute.splice (h.routes _ (.head rest))
  rcases List.eq_nil_or_concat' later with rfl | ⟨later', next, rfl⟩
  · exact absurd (Option.some.inj hhead) hgoal
  · rw [List.append_assoc] at hroute hspliced hhead
    have hnext : next ∉ knot :: seen := hnew next (by simp)
    refine ⟨(next, knot :: before), mem_lengthened.mpr ⟨hroute.linked, hnext, rfl⟩, later',
      ⟨hspliced, ?_, ?_⟩, by simp⟩
    · cases later' with
      | nil => exact hhead
      | cons last later' => exact hhead
    · intro k hk
      cases hk with
      | head => exact hnext
      | tail _ hk => exact hnew k (List.mem_append_left _ hk)

theorem visit (h : Searching links start goal ((knot, before) :: rest) seen)
    (hgoal : knot ≠ goal) (hknot : knot ∉ seen) :
    Searching links start goal (rest ++ lengthened links seen knot before) (knot :: seen) where
  routes e he := by
    rcases List.mem_append.mp he with hrest | hlong
    · exact h.routes e (.tail _ hrest)
    · obtain ⟨hlinked, -, hpast⟩ := mem_lengthened.mp hlong
      rw [hpast]
      exact .step (h.routes _ (.head rest)) hlinked
  simple e he := by
    rcases List.mem_append.mp he with hrest | hlong
    · obtain ⟨hnodup, hvisited⟩ := h.simple e (.tail _ hrest)
      exact ⟨hnodup, fun k hk => .tail knot (hvisited k hk)⟩
    · obtain ⟨hnodup, hvisited⟩ := h.simple _ (.head rest)
      rw [(mem_lengthened.mp hlong).2.2]
      refine ⟨List.nodup_cons.mpr ⟨fun hmem => hknot (hvisited knot hmem), hnodup⟩, ?_⟩
      intro k hk
      cases hk with
      | head => exact .head seen
      | tail _ hk => exact .tail knot (hvisited k hk)
  goal_new := by
    rw [List.mem_cons, not_or]
    exact ⟨Ne.symm hgoal, h.goal_new⟩
  ordered := h.ordered_visit hknot
  matched r hr := by
    obtain ⟨e, he, later, ⟨hroute, hhead, hnew⟩, hahead⟩ := h.matched r hr
    have hfirst := h.first_ahead hknot he (hnew e.1 (.head later))
    by_cases hmem : knot ∈ e.1 :: later
    · obtain ⟨later', u, heq, hu, hlast, hsub⟩ := exists_last links e.2 hmem
      rw [heq] at hroute hhead hahead
      have hnew' : ∀ k ∈ later', k ∉ knot :: seen := by
        intro k hk
        rw [List.mem_cons, not_or]
        exact ⟨fun h => hlast (h ▸ hk), hnew k (.tail _ (hsub k hk))⟩
      obtain ⟨d, hd, onward, honward, hway⟩ := h.onward_visit hgoal hroute hhead hnew'
      refine ⟨d, List.mem_append_right _ hd, onward, honward, ?_⟩
      rw [hway]
      exact ((hfirst.trans hu).append_left later').trans hahead
    · have hrest : e ∈ rest := by
        cases he with
        | head => exact absurd (.head later) hmem
        | tail _ he => exact he
      refine ⟨e, List.mem_append_left _ hrest, later, ⟨hroute, hhead, ?_⟩, hahead⟩
      intro k hk
      rw [List.mem_cons, not_or]
      exact ⟨fun h => hmem (h ▸ hk), hnew k hk⟩

end Searching

/-- What an answer of the search says: the route that is ahead of all others to the goal, or none if
no route leads there. -/
def Answers (links : List Link) (start goal : String) : Option (List String) → Prop
  | none => ∀ r, ¬ Route links start (goal :: r)
  | some path => ∃ before, path = (goal :: before).reverse ∧
      Route links start (goal :: before) ∧ (goal :: before).Nodup ∧
      ∀ r, Route links start (goal :: r) → Ahead links (goal :: before) (goal :: r)

theorem answers_searchPath {queue : List Waiting} (h : Searching links start goal queue seen) :
    Answers links start goal (searchPath links goal queue seen) := by
  induction queue, seen using searchPath.induct links goal with
  | case1 seen =>
      rw [searchPath]
      intro r hr
      obtain ⟨e, he, -⟩ := h.matched r hr
      exact List.not_mem_nil he
  | case2 seen before rest =>
      rw [searchPath, if_pos rfl]
      exact ⟨before, rfl, h.answer⟩
  | case3 seen knot before rest hgoal hseen ih =>
      rw [searchPath, if_neg hgoal, dif_pos hseen]
      exact ih (h.skip hseen)
  | case4 seen knot before rest hgoal hseen next ih =>
      rw [searchPath, if_neg hgoal, dif_neg hseen]
      exact ih (h.visit hgoal hseen)

/-- The search for a path ends on every graph. It finds none exactly if the goal is another knot
than the start and no chain of links leads there. What it finds leads from the start to the goal,
repeats no knot, is as short as any path between them, and of the shortest ones is the first in the
order of the links. -/
theorem findPath?_first (links : List Link) (start goal : String) :
    (findPath? links start goal = none ↔ start ≠ goal ∧ ¬ Leads links start goal) ∧
    ∀ path, findPath? links start goal = some path →
      IsPath links start goal path ∧ path.Nodup ∧
      ∀ other, IsPath links start goal other →
        path.length ≤ other.length ∧
        (other.length = path.length → other ≠ path → PartsEarlier links path other) := by
  have hspec := answers_searchPath (Searching.begin links start goal)
  rw [← findPath?] at hspec
  cases hpath : findPath? links start goal with
  | none =>
      rw [hpath] at hspec
      have hleads : ¬ Leads links start goal := by
        intro hleads
        obtain ⟨before, hroute⟩ := Route.of_leads hleads
        exact hspec before hroute
      have hne : start ≠ goal := by
        rintro rfl
        exact hleads .refl
      refine ⟨⟨fun _ => ⟨hne, hleads⟩, fun _ => rfl⟩, ?_⟩
      intro path hsome
      cases hsome
  | some path =>
      rw [hpath] at hspec
      obtain ⟨before, rfl, hroute, hnodup, hfirst⟩ := hspec
      refine ⟨⟨fun h => absurd h (Option.some_ne_none _), fun h => absurd hroute.leads h.2⟩, ?_⟩
      intro path hsome
      cases hsome
      refine ⟨hroute.isPath rfl, List.nodup_reverse.mpr hnodup, ?_⟩
      intro other hother
      obtain ⟨hway, hhead⟩ := Route.of_isPath hother
      obtain ⟨r, hr⟩ := List.head?_eq_some_iff.mp hhead
      rw [hr] at hway
      have hahead := hfirst r hway
      have hlength : (goal :: r).length = other.length := by
        rw [← hr, List.length_reverse]
      have hlt := hahead.length_le
      refine ⟨by rw [List.length_reverse]; omega, ?_⟩
      intro hsame hne
      rw [List.length_reverse] at hsame
      rcases hahead with heq | hless | hearlier
      · exact absurd (by rw [heq, ← hr, List.reverse_reverse]) hne
      · omega
      · have hparts := hearlier.partsEarlier
        rwa [← hr, List.reverse_reverse] at hparts

/-- Two shortest paths from `S` to `G`, a doubled link, a loop and a way back. -/
def tiedLinks : List Link :=
  [⟨"S", "A", "", true⟩, ⟨"S", "B", "", true⟩, ⟨"S", "A", "", true⟩, ⟨"A", "A", "", true⟩,
    ⟨"A", "S", "", true⟩, ⟨"B", "G", "", true⟩, ⟨"A", "G", "", true⟩]

theorem tiedLinks_path :
    findPath? tiedLinks "S" "G" = some ["S", "A", "G"] ∧
    IsPath tiedLinks "S" "G" ["S", "B", "G"] ∧
    PartsEarlier tiedLinks ["S", "A", "G"] ["S", "B", "G"] := by
  have hpath : findPath? tiedLinks "S" "G" = some ["S", "A", "G"] := by decide +kernel
  have hother : IsPath tiedLinks "S" "G" ["S", "B", "G"] := by
    refine ⟨rfl, rfl, .cons_cons ?_ (.cons_cons ?_ (.singleton "G"))⟩
    · exact ⟨_, .tail _ (.head _), rfl, rfl⟩
    · exact ⟨⟨"B", "G", "", true⟩, by decide, rfl, rfl⟩
  obtain ⟨-, -, hfirst⟩ := (findPath?_first tiedLinks "S" "G").2 _ hpath
  exact ⟨hpath, hother, (hfirst _ hother).2 rfl (by decide)⟩

end KnotAtlas
