import KnotAtlas.Proofs.Graph.Path
import KnotAtlas.Proofs.Story.WellFormed
import Mathlib.Data.List.Perm.Subperm

/-!
Why knots cannot be reached. Reachability is measured from the knots that no link leads to, so a knot
that cannot be reached has a link into it, and that link comes from a knot that cannot be reached
either. Going back over such links, a finite graph comes to a knot that it passed before.
-/

namespace KnotAtlas

/-- Whether knots are linked one after the other, each of them once, and the last one to the
first. -/
def IsCycle (links : List Link) (cycle : List String) : Prop :=
  cycle.Nodup ∧ ∃ first last, IsPath links first last cycle ∧ Linked links last first

variable {links : List Link} {first knot : String} {path : List String}

namespace IsPath

theorem head_mem (h : IsPath links first knot path) : first ∈ path :=
  List.mem_of_mem_head? h.head

theorem leads (h : IsPath links first knot path) : Leads links first knot := by
  obtain ⟨hroute, hhead⟩ := Route.of_isPath h
  obtain ⟨before, hbefore⟩ := List.head?_eq_some_iff.mp hhead
  rw [hbefore] at hroute
  exact hroute.leads

theorem single (links : List Link) (knot : String) : IsPath links knot knot [knot] :=
  ⟨rfl, rfl, .singleton knot⟩

/-- A path goes further back over a link into its first knot. -/
theorem cons {before : String} (h : IsPath links first knot path)
    (hlinked : Linked links before first) : IsPath links before knot (before :: path) := by
  obtain ⟨rest, rfl⟩ := List.head?_eq_some_iff.mp h.head
  exact ⟨rfl, by rw [List.getLast?_cons_cons, h.last], .cons_cons hlinked h.linked⟩

/-- The part of a path up to one of its knots. -/
theorem upTo {passed : String} {before rest : List String}
    (h : IsPath links first knot (before ++ passed :: rest)) :
    IsPath links first passed (before ++ [passed]) := by
  obtain ⟨hhead, -, hlinked⟩ := h
  rw [List.append_cons] at hhead hlinked
  refine ⟨?_, List.getLast?_concat, hlinked.left_of_append⟩
  rw [← hhead, List.head?_append_of_ne_nil _ (List.append_ne_nil_of_right_ne_nil before (by simp))]

end IsPath

/-- Where each of finitely many knots has a link into it from one of them, going back from the first
knot of any path among them comes to a cycle. -/
theorem exists_cycle_behind {knots path : List String} {first : String}
    (hback : ∀ k ∈ knots, ∃ before ∈ knots, Linked links before k)
    (h : IsPath links first knot path) (hnodup : path.Nodup) (hsub : path ⊆ knots) :
    ∃ cycle, IsCycle links cycle ∧ cycle ⊆ knots ∧ ∃ k ∈ cycle, Leads links k knot := by
  obtain ⟨before, hbefore, hlinked⟩ := hback first (hsub h.head_mem)
  by_cases hagain : before ∈ path
  · obtain ⟨middle, rest, rfl⟩ := List.append_of_mem hagain
    have hround := h.upTo
    have hprefix : middle ++ [before] <+: middle ++ before :: rest :=
      ⟨rest, (List.append_cons middle before rest).symm⟩
    exact ⟨middle ++ [before], ⟨hnodup.sublist hprefix.sublist, first, before, hround, hlinked⟩,
      List.Subset.trans hprefix.subset hsub, first, hround.head_mem, h.leads⟩
  · -- No path without repetition is longer than there are knots, so going back comes to an end.
    have hlonger : (before :: path).Nodup := List.nodup_cons.mpr ⟨hagain, hnodup⟩
    have hwithin : before :: path ⊆ knots := List.cons_subset.mpr ⟨hbefore, hsub⟩
    have hroom : (before :: path).length ≤ knots.length :=
      (List.subperm_of_subset hlonger hwithin).length_le
    exact exists_cycle_behind hback (h.cons hlinked) hlonger hwithin
termination_by knots.length - path.length
decreasing_by
  rw [List.length_cons] at hroom ⊢
  omega

namespace Graph

variable {g : Graph}

theorem Reachable.tail {a b : String} (h : g.Reachable a) (hlinked : Linked g.links a b) :
    g.Reachable b := by
  obtain ⟨start, hstart, hentry, hleads⟩ := h
  exact ⟨start, hstart, hentry, hleads.tail hlinked⟩

theorem hasIncoming_of_mem_unreachable {knot : String} (h : knot ∈ g.analyze.unreachable) :
    g.HasIncoming knot := by
  obtain ⟨hknot, hlost⟩ := g.mem_unreachable_iff.mp h
  by_contra hentry
  exact hlost ⟨knot, hknot, hentry, .refl⟩

theorem source_mem_unreachable {l : Link} (hl : l ∈ g.links) (hsource : l.source ∈ g.knots)
    (h : l.target ∈ g.analyze.unreachable) : l.source ∈ g.analyze.unreachable := by
  obtain ⟨-, hlost⟩ := g.mem_unreachable_iff.mp h
  exact g.mem_unreachable_iff.mpr
    ⟨hsource, fun hreach => hlost (hreach.tail ⟨l, hl, rfl, rfl⟩)⟩

/-- A knot that cannot be reached stands on a cycle of such knots or after one. -/
theorem exists_cycle_of_mem_unreachable (hsources : ∀ l ∈ g.links, l.source ∈ g.knots)
    {knot : String} (h : knot ∈ g.analyze.unreachable) :
    ∃ cycle, IsCycle g.links cycle ∧ cycle ⊆ g.analyze.unreachable ∧
      ∃ k ∈ cycle, Leads g.links k knot := by
  have hback : ∀ k ∈ g.analyze.unreachable,
      ∃ before ∈ g.analyze.unreachable, Linked g.links before k := by
    intro k hk
    obtain ⟨l, hl, rfl⟩ := hasIncoming_of_mem_unreachable hk
    exact ⟨l.source, source_mem_unreachable hl (hsources l hl) hk, l, hl, rfl, rfl⟩
  exact exists_cycle_behind hback (.single g.links knot) (List.nodup_singleton knot)
    (List.cons_subset.mpr ⟨h, List.nil_subset _⟩)

end Graph

namespace Story

/-- What cannot be reached in the graph of a story: the knots that no chain of links leads to from a
knot without a link into it. Each of them has a link into it, all such links come from knots that
cannot be reached, and it stands on a cycle of such knots or after one. So a graph without cycles has
none, and in a graph without a knot to start from no knot can be reached. -/
theorem unreachable_by_cycles {source : Source} {built : Built}
    (h : source.build.value = .ok built) :
    let g := built.graph
    let lost := g.analyze.unreachable
    (∀ knot, knot ∈ lost ↔ knot ∈ g.knots ∧
      ¬ ∃ start ∈ g.knots, ¬ g.HasIncoming start ∧ Leads g.links start knot) ∧
    (∀ knot ∈ lost, g.HasIncoming knot ∧ ∀ l ∈ g.links, l.target = knot → l.source ∈ lost) ∧
    (∀ knot ∈ lost, ∃ cycle, IsCycle g.links cycle ∧ cycle ⊆ lost ∧
      ∃ k ∈ cycle, Leads g.links k knot) ∧
    ((∀ cycle, ¬ IsCycle g.links cycle) → lost = []) ∧
    (g.analyze.entryPoints = [] → lost = g.knots) := by
  intro g lost
  have hsources : ∀ l ∈ g.links, l.source ∈ g.knots := fun l hl => (build_ends_known h hl).1
  refine ⟨fun knot => g.mem_unreachable_iff, ?_, ?_, ?_, g.unreachable_eq_knots⟩
  · intro knot hknot
    refine ⟨Graph.hasIncoming_of_mem_unreachable hknot, ?_⟩
    rintro l hl rfl
    exact Graph.source_mem_unreachable hl (hsources l hl) hknot
  · intro knot hknot
    exact Graph.exists_cycle_of_mem_unreachable hsources hknot
  · intro hacyclic
    refine List.eq_nil_iff_forall_not_mem.mpr fun knot hknot => ?_
    obtain ⟨cycle, hcycle, -⟩ := Graph.exists_cycle_of_mem_unreachable hsources hknot
    exact hacyclic cycle hcycle

/-- Two knots that lead to each other, one that only they lead to, and two apart from them. -/
def roundabout : Graph :=
  ⟨["A", "B", "C", "D", "E"],
    [⟨"A", "B", "in", false⟩, ⟨"C", "D", "on", false⟩, ⟨"D", "E", "off", true⟩,
      ⟨"D", "C", "round", false⟩]⟩

/-- The story of that graph. -/
def roundaboutStory : Value :=
  .object [("root", .list [.null, .object
    [("A", .list [.str "^in", .object [("->", .str "B")]]), ("B", .list []),
      ("C", .list [.str "^on", .object [("->", .str "D")]]),
      ("D", .list [.object [("*", .str "D.c-0")],
        .object [("c-0", .list [.str "^off", .object [("->", .str "E")]])],
        .str "^round", .object [("->", .str "C")]]),
      ("E", .list [])]])]

theorem roundabout_unreachable :
    (Source.decoded roundaboutStory).build.value = .ok ⟨roundabout, {}⟩ ∧
    roundabout.analyze.unreachable = ["C", "D", "E"] ∧
    ∃ cycle, IsCycle roundabout.links cycle ∧ cycle ⊆ ["C", "D", "E"] ∧
      ∃ k ∈ cycle, Leads roundabout.links k "E" := by
  have hbuild : (Source.decoded roundaboutStory).build.value = .ok ⟨roundabout, {}⟩ := by
    decide +kernel
  have hlost : roundabout.analyze.unreachable = ["C", "D", "E"] := by decide +kernel
  obtain ⟨-, -, hcycles, -, -⟩ := unreachable_by_cycles hbuild
  rw [hlost] at hcycles
  exact ⟨hbuild, hlost, hcycles "E" (by decide)⟩

end Story
end KnotAtlas
