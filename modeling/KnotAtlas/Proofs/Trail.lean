import KnotAtlas.Trail
import Mathlib.Data.List.Chain
import Mathlib.Data.List.Infix

/-!
A trail is a function of the steps that were recorded on it: which of them entered a knot, how often
each knot was entered, and the last transitions, as many as the limit allows. The transitions are
told from the steps alone, place by place, and the trail is shown to keep up with them.
-/

namespace KnotAtlas.Trail

/-- Whether the step at a place is in another knot than the step before it. -/
def entersAt (knots : List String) (i : Nat) : Bool :=
  i = 0 || knots[i]? != knots[i - 1]?

/-- The transition of the step at a place, if it enters a knot. -/
def entryAt? (knots : List String) (i : Nat) : Option Transition :=
  if entersAt knots i then
    knots[i]?.map (⟨i + 1, if i = 0 then none else knots[i - 1]?, ·⟩)
  else none

/-- All transitions of some steps, in order. -/
def entries (knots : List String) : List Transition :=
  (List.range knots.length).filterMap (entryAt? knots)

/-- How many of `n` transitions are kept. -/
def kept (limit : Option Nat) (n : Nat) : Nat :=
  match limit with
  | some most => min most n
  | none => n

theorem kept_kept_succ (limit : Option Nat) (n : Nat) :
    kept limit (kept limit n + 1) = kept limit (n + 1) := by
  cases limit with
  | none => rfl
  | some most =>
      simp only [kept]
      omega

section Entries

variable (knots : List String) (knot : String)

theorem previous_eq_getLast? :
    (if knots.length = 0 then none else knots[knots.length - 1]?) = knots.getLast? := by
  rw [List.getLast?_eq_getElem?]
  split
  · rename_i h
    rw [List.eq_nil_of_length_eq_zero h]
    rfl
  · rfl

theorem entersAt_length :
    entersAt (knots ++ [knot]) knots.length = decide (knots.getLast? ≠ some knot) := by
  rw [entersAt, List.getElem?_concat_length, ← previous_eq_getLast?]
  by_cases h : knots.length = 0
  · simp [h]
  · have hprevious : (knots ++ [knot])[knots.length - 1]? = knots[knots.length - 1]? :=
      List.getElem?_append_left (by omega)
    rw [hprevious]
    simp [h, bne, beq_eq_decide, eq_comm]

theorem entersAt_concat {i : Nat} (hi : i < knots.length) :
    entersAt (knots ++ [knot]) i = entersAt knots i := by
  rw [entersAt, entersAt, List.getElem?_append_left hi, List.getElem?_append_left (by omega)]

theorem entryAt?_concat {i : Nat} (hi : i < knots.length) :
    entryAt? (knots ++ [knot]) i = entryAt? knots i := by
  rw [entryAt?, entryAt?, entersAt_concat knots knot hi, List.getElem?_append_left hi,
    List.getElem?_append_left (show i - 1 < knots.length by omega)]

theorem entryAt?_length :
    entryAt? (knots ++ [knot]) knots.length =
      if knots.getLast? = some knot then none
      else some ⟨knots.length + 1, knots.getLast?, knot⟩ := by
  have hprevious : (if knots.length = 0 then none
      else (knots ++ [knot])[knots.length - 1]?) = knots.getLast? := by
    rw [← previous_eq_getLast?]
    split
    · rfl
    · exact List.getElem?_append_left (by omega)
  rw [entryAt?, entersAt_length, List.getElem?_concat_length, hprevious]
  by_cases h : knots.getLast? = some knot
  · simp [h]
  · simp [h]

theorem map_entersAt_concat :
    (List.range (knots ++ [knot]).length).map (entersAt (knots ++ [knot])) =
      (List.range knots.length).map (entersAt knots) ++
        [decide (knots.getLast? ≠ some knot)] := by
  have hold : (List.range knots.length).map (entersAt (knots ++ [knot])) =
      (List.range knots.length).map (entersAt knots) := by
    refine List.map_congr_left fun i hi => ?_
    exact entersAt_concat knots knot (List.mem_range.mp hi)
  rw [List.length_append, List.length_singleton, List.range_succ, List.map_append, hold,
    List.map_singleton, entersAt_length]

/-- One more step adds its own transition or none. -/
theorem entries_concat :
    entries (knots ++ [knot]) =
      entries knots ++
        if knots.getLast? = some knot then []
        else [⟨knots.length + 1, knots.getLast?, knot⟩] := by
  have hold : (List.range knots.length).filterMap (entryAt? (knots ++ [knot])) =
      entries knots := by
    refine List.filterMap_congr fun i hi => ?_
    exact entryAt?_concat knots knot (List.mem_range.mp hi)
  rw [entries, List.length_append, List.length_singleton, List.range_succ, List.filterMap_append,
    hold, List.filterMap_cons, entryAt?_length]
  split
  · rename_i h
    split at h
    · simp [*]
    · cases h
  · rename_i h
    split at h
    · cases h
    · cases h
      simp [*]

end Entries

/-- Transitions that pass from knot to knot, each starting where the one before it ended. -/
structure Linked (transitions : List Transition) : Prop where
  later : transitions.Pairwise (·.step < ·.step)
  chained : transitions.IsChain fun a b => b.source = some a.target
  moving : ∀ x ∈ transitions, x.source ≠ some x.target

namespace Linked

variable {transitions : List Transition}

theorem suffix (h : Linked transitions) {last : List Transition} (hlast : last <:+ transitions) :
    Linked last where
  later := h.later.sublist hlast.sublist
  chained := h.chained.suffix hlast
  moving x hx := h.moving x (hlast.subset hx)

theorem concat (h : Linked transitions) {x : Transition}
    (hlater : ∀ y ∈ transitions, y.step < x.step)
    (hsource : ∀ y ∈ transitions.getLast?, x.source = some y.target)
    (hmoving : x.source ≠ some x.target) : Linked (transitions ++ [x]) where
  later := by
    refine List.pairwise_append.mpr ⟨h.later, List.pairwise_singleton _ _, ?_⟩
    intro y hy z hz
    rw [List.mem_singleton.mp hz]
    exact hlater y hy
  chained := by
    refine List.isChain_append.mpr ⟨h.chained, List.isChain_singleton _, ?_⟩
    intro y hy z hz
    cases hz
    exact hsource y hy
  moving := by
    intro y hy
    obtain hy | hy := List.mem_append.mp hy
    · exact h.moving y hy
    · rw [List.mem_singleton.mp hy]
      exact hmoving

end Linked

/-- The last transition leads to the knot of the last step. -/
theorem target_of_getLast?_entries (knots : List String) :
    (entries knots).getLast?.map (·.target) = knots.getLast? := by
  induction knots using List.reverseRecOn with
  | nil => rfl
  | append_singleton knots knot ih =>
      rw [entries_concat, List.getLast?_concat]
      split
      · rename_i hstay
        rw [List.append_nil, ih, hstay]
      · rw [List.getLast?_concat]
        rfl

theorem step_le_of_mem_entries (knots : List String) :
    ∀ x ∈ entries knots, x.step ≤ knots.length := by
  intro x hx
  obtain ⟨i, hi, hentry⟩ := List.mem_filterMap.mp hx
  rw [entryAt?] at hentry
  split at hentry
  · obtain ⟨knot, -, rfl⟩ := Option.map_eq_some_iff.mp hentry
    exact List.mem_range.mp hi
  · cases hentry

theorem linked_entries (knots : List String) : Linked (entries knots) := by
  induction knots using List.reverseRecOn with
  | nil => exact ⟨.nil, .nil, fun _ h => (by cases h)⟩
  | append_singleton knots knot ih =>
      rw [entries_concat]
      split
      · rw [List.append_nil]
        exact ih
      · rename_i hmoved
        refine ih.concat ?_ ?_ hmoved
        · intro x hx
          exact Nat.lt_succ_of_le (step_le_of_mem_entries knots x hx)
        · intro x hx
          have htarget := target_of_getLast?_entries knots
          rw [Option.mem_def.mp hx] at htarget
          exact htarget.symm

/-- All counts together. -/
def sumOf (counts : OrderedMap String Nat) : Nat :=
  counts.foldr (fun entry sum => entry.2 + sum) 0

/-- A trail that knows of some steps only, with the answers that were given to them. -/
structure Recounts (limit : Option Nat) (knots : List String) (entered : List Bool) (t : Trail) :
    Prop where
  limit_eq : t.limit = limit
  steps : t.steps = knots.length
  /-- A step is said to enter its knot if it is the first or the one before was elsewhere. -/
  entered : entered = (List.range knots.length).map (entersAt knots)
  current : t.current = knots.getLast?
  visits : ∀ knot, t.visitCount knot = (entries knots).countP (·.target = knot)
  total : sumOf t.visits = (entries knots).length
  recent : t.history <:+ entries knots
  length_history : t.history.length = kept limit (entries knots).length

theorem lastOf_suffix {α : Type} (limit : Option Nat) (xs : List α) : lastOf limit xs <:+ xs := by
  cases limit with
  | none => exact List.suffix_rfl
  | some n => exact List.drop_suffix _ _

theorem length_lastOf {α : Type} (limit : Option Nat) (xs : List α) :
    (lastOf limit xs).length = kept limit xs.length := by
  cases limit with
  | none => rfl
  | some n =>
      rw [lastOf, kept, List.length_drop]
      omega

/-- What is written under a key replaces what was counted there. -/
theorem sumOf_insert (counts : OrderedMap String Nat) (knot : String) (n : Nat) :
    sumOf (counts.insert knot n) + (counts.find? knot).getD 0 = sumOf counts + n := by
  simp only [sumOf]
  induction counts with
  | nil => simp [OrderedMap.insert]
  | cons entry rest ih =>
      obtain ⟨other, count⟩ := entry
      rw [OrderedMap.find?_cons]
      by_cases h : other = knot
      · subst h
        simp only [OrderedMap.insert, if_true, List.foldr_cons, Option.getD_some]
        omega
      · simp only [OrderedMap.insert, if_neg h, if_neg (Ne.symm h), List.foldr_cons]
        omega

theorem visitCount_record_of_moved {t : Trail} {knot : String} (h : t.current ≠ some knot)
    (other : String) :
    (t.record knot).2.visitCount other =
      t.visitCount other + if other = knot then 1 else 0 := by
  simp only [record, if_neg h, visitCount, OrderedMap.find?_insert]
  split
  · rename_i heq
    rw [heq]
    rfl
  · rfl

namespace Recounts

variable {limit : Option Nat} {knots : List String} {entered : List Bool} {t : Trail}

/-- A step in the same knot is counted, and nothing else happens. -/
theorem stay (h : Recounts limit knots entered t) {knot : String}
    (hstay : t.current = some knot) :
    Recounts limit (knots ++ [knot]) (entered ++ [false]) { t with steps := t.steps + 1 } := by
  have hlast : knots.getLast? = some knot := h.current ▸ hstay
  have hentries : entries (knots ++ [knot]) = entries knots := by
    rw [entries_concat, if_pos hlast, List.append_nil]
  refine ⟨h.limit_eq, ?_, ?_, ?_, ?_, ?_, ?_, ?_⟩
  · rw [List.length_append, ← h.steps]
    rfl
  · rw [h.entered, map_entersAt_concat, hlast]
    simp
  · rw [List.getLast?_concat]
    exact hstay
  · rw [hentries]
    exact h.visits
  · rw [hentries]
    exact h.total
  · rw [hentries]
    exact h.recent
  · rw [hentries]
    exact h.length_history

/-- A step into another knot counts a visit and adds its transition. -/
theorem move (h : Recounts limit knots entered t) {knot : String}
    (hmoved : t.current ≠ some knot) :
    Recounts limit (knots ++ [knot]) (entered ++ [true]) (t.record knot).2 := by
  have hlast : knots.getLast? ≠ some knot := h.current ▸ hmoved
  have hentries : entries (knots ++ [knot]) =
      entries knots ++ [⟨t.steps + 1, t.current, knot⟩] := by
    rw [entries_concat, if_neg hlast, h.steps, h.current]
  have hvisits := visitCount_record_of_moved hmoved
  refine ⟨?_, ?_, ?_, ?_, ?_, ?_, ?_, ?_⟩
  · simp only [record, if_neg hmoved]
    exact h.limit_eq
  · simp only [record, if_neg hmoved, List.length_append, List.length_singleton, h.steps]
  · rw [h.entered, map_entersAt_concat]
    simp [hlast]
  · simp only [record, if_neg hmoved, List.getLast?_concat]
  · intro other
    rw [hvisits, hentries, List.countP_append, ← h.visits]
    simp [eq_comm]
  · have hsum := sumOf_insert t.visits knot (t.visitCount knot + 1)
    simp only [record, if_neg hmoved, hentries, List.length_append, List.length_singleton,
      ← h.total]
    rw [visitCount] at hsum ⊢
    omega
  · obtain ⟨older, holder⟩ := h.recent
    simp only [record, if_neg hmoved, hentries, h.limit_eq]
    refine (lastOf_suffix limit _).trans ⟨older, ?_⟩
    rw [← List.append_assoc, holder]
  · simp only [record, if_neg hmoved, hentries, h.limit_eq, length_lastOf, List.length_append,
      List.length_singleton, h.length_history]
    exact kept_kept_succ limit _

theorem record (h : Recounts limit knots entered t) (knot : String) :
    Recounts limit (knots ++ [knot]) (entered ++ [(t.record knot).1]) (t.record knot).2 := by
  by_cases hstay : t.current = some knot
  · have hrecord : t.record knot = (false, { t with steps := t.steps + 1 }) := by
      simp only [Trail.record, if_pos hstay]
    rw [hrecord]
    exact h.stay hstay
  · have hentered : (t.record knot).1 = true := by
      simp only [Trail.record, if_neg hstay]
    rw [hentered]
    exact h.move hstay

end Recounts

theorem recordAll_append (t : Trail) (knots : List String) (knot : String) :
    t.recordAll (knots ++ [knot]) =
      ((t.recordAll knots).1 ++ [((t.recordAll knots).2.record knot).1],
        ((t.recordAll knots).2.record knot).2) := by
  induction knots generalizing t with
  | nil => rfl
  | cons first rest ih => simp only [List.cons_append, recordAll, ih]

theorem recounts_empty (limit : Option Nat) : Recounts limit [] [] { limit } where
  limit_eq := rfl
  steps := rfl
  entered := rfl
  current := rfl
  visits _ := rfl
  total := rfl
  recent := List.suffix_rfl
  length_history := by
    cases limit with
    | none => rfl
    | some n => exact (Nat.min_zero n).symm

theorem recordAll_recounts (limit : Option Nat) (knots : List String) :
    Recounts limit knots (({ limit } : Trail).recordAll knots).1
      (({ limit } : Trail).recordAll knots).2 := by
  induction knots using List.reverseRecOn with
  | nil => exact recounts_empty limit
  | append_singleton knots knot ih =>
      rw [recordAll_append]
      exact ih.record knot

/-- Whatever a trail was used for before, after a reset it tells of the steps recorded since, and its
transitions hang together. A trail that was just opened is as after a reset. -/
theorem recordAll_after_reset (t : Trail) (knots : List String) :
    (∀ limit, (openWith limit).map reset = openWith limit) ∧
      Recounts t.limit knots (t.reset.recordAll knots).1 (t.reset.recordAll knots).2 ∧
        Linked (t.reset.recordAll knots).2.history := by
  have hrecounts := recordAll_recounts t.limit knots
  refine ⟨fun limit => ?_, hrecounts, (linked_entries knots).suffix hrecounts.recent⟩
  rw [openWith]
  cases limitOf limit with
  | error _ => rfl
  | ok _ => rfl

example : (({ limit := some 1 } : Trail).recordAll ["A", "A", "B"]).2.history =
    [⟨3, some "A", "B"⟩] := by decide

end KnotAtlas.Trail
