import KnotAtlas.Graph.Structure
import KnotAtlas.Proofs.Flow.Links

/-!
Neighbours by every way of asking for them. The targets of a knot are read off the links, looked up
in the adjacency table, or taken for the choices of the flow map, and knots without neighbours are
picked out of a list. All of these tell the same of a knot, however often a link is repeated.
-/

namespace KnotAtlas

variable (links : List Link)

theorem adjacency_concat (l : Link) :
    adjacency (links ++ [l]) = (adjacency links).push l.source l.target := by
  rw [adjacency, List.foldl_append]
  rfl

theorem find?_adjacency (knot : String) :
    (adjacency links).find? knot =
      if targetsOf links knot = [] then none else some (targetsOf links knot) := by
  induction links using List.reverseRecOn with
  | nil => rfl
  | append_singleton links l ih =>
      rw [adjacency_concat, OrderedMap.push, OrderedMap.find?_insert, targetsOf_concat]
      by_cases h : knot = l.source
      · subst h
        rw [if_pos rfl, if_pos rfl, ih]
        cases targetsOf links l.source with
        | nil => rfl
        | cons first rest => rfl
      · rw [if_neg h, if_neg (Ne.symm h), List.append_nil, ih]

theorem getD_find?_adjacency (knot : String) :
    ((adjacency links).find? knot).getD [] = targetsOf links knot := by
  rw [find?_adjacency]
  split
  · rename_i hnone
    exact hnone.symm
  · rfl

namespace FlowMap

theorem has_ofLinks_iff {knot : String} :
    (ofLinks links).has knot = true ↔ targetsOf links knot ≠ [] := by
  rw [OrderedMap.has, find?_ofLinks, Option.isSome_map, List.isSome_head?]

theorem choices_ofLinks (knot : String) :
    (((ofLinks links).find? knot).map (·.choices)).getD [] = targetsOf links knot := by
  rw [find?_ofLinks]
  cases targetsOf links knot with
  | nil => rfl
  | cons first rest => rfl

theorem default?_ofLinks (knot : String) :
    ((ofLinks links).find? knot).bind (·.default?) = (targetsOf links knot).head? := by
  rw [find?_ofLinks]
  cases targetsOf links knot with
  | nil => rfl
  | cons first rest => rfl

end FlowMap

theorem deadEnds_singleton_eq_nil_iff {knot : String} :
    deadEnds [knot] links = [] ↔ targetsOf links knot ≠ [] := by
  simp [deadEnds, targetsOf]

theorem entryPoints_singleton_eq_nil_iff {knot : String} :
    entryPoints [knot] links = [] ↔ sourcesOf links knot ≠ [] := by
  simp [entryPoints, sourcesOf]

/-- A knot is a target of another as often as there are links from the other to it. -/
theorem count_targetsOf (source target : String) :
    (targetsOf links source).count target =
      links.countP fun l => l.target = target && l.source = source := by
  rw [targetsOf, List.count, List.countP_map, List.countP_filter]
  rfl

/-- A knot is a source of another as often as there are links from it to the other. -/
theorem count_sourcesOf (source target : String) :
    (sourcesOf links target).count source =
      links.countP fun l => l.source = source && l.target = target := by
  rw [sourcesOf, List.count, List.countP_map, List.countP_filter]
  rfl

/-- All ways of asking for the neighbours of knots agree. The table and the flow map hold the
targets of a knot in the order of the links, the first of them as the flow's default; a knot has a
flow exactly if it is no dead end, and a source exactly if it is no entry point; and one knot is a
target of another as often as the other is a source of it. -/
theorem neighbours_agree :
    (∀ knot,
      ((adjacency links).find? knot).getD [] = targetsOf links knot ∧
      (((FlowMap.ofLinks links).find? knot).map (·.choices)).getD [] = targetsOf links knot ∧
      ((FlowMap.ofLinks links).find? knot).bind (·.default?) = (targetsOf links knot).head? ∧
      ((FlowMap.ofLinks links).has knot = true ↔ deadEnds [knot] links = []) ∧
      (sourcesOf links knot ≠ [] ↔ entryPoints [knot] links = [])) ∧
    ∀ source target,
      (targetsOf links source).count target = (sourcesOf links target).count source := by
  refine ⟨fun knot => ⟨getD_find?_adjacency links knot, FlowMap.choices_ofLinks links knot,
    FlowMap.default?_ofLinks links knot, ?_, (entryPoints_singleton_eq_nil_iff links).symm⟩, ?_⟩
  · rw [FlowMap.has_ofLinks_iff, deadEnds_singleton_eq_nil_iff]
  · intro source target
    rw [count_targetsOf, count_sourcesOf]
    simp only [Bool.and_comm]

end KnotAtlas
