import Mathlib.Logic.Relation
import KnotAtlas.Graph.Structure

/-!
What the search of a graph finds: the knots that chains of links lead to, and no others. Every knot
that is visited was in the queue, was visited before or is led to from one of these; and where the
queue has run dry, the visited knots are closed under links.
-/

namespace KnotAtlas

/-- Whether a link leads from one knot to another. -/
def Linked (links : List Link) (a b : String) : Prop :=
  ∃ l ∈ links, l.source = a ∧ l.target = b

/-- Whether a chain of links, maybe an empty one, leads from one knot to another. -/
def Leads (links : List Link) : String → String → Prop :=
  Relation.ReflTransGen (Linked links)

variable {links : List Link}

theorem visitAll_sound (queue seen : List String) :
    ∀ knot ∈ visitAll links queue seen, knot ∈ seen ∨ ∃ start ∈ queue, Leads links start knot := by
  induction queue, seen using visitAll.induct links with
  | case1 seen =>
      intro knot hknot
      rw [visitAll] at hknot
      exact .inl hknot
  | case2 seen first rest hseen ih =>
      intro knot hknot
      rw [visitAll, dif_pos hseen] at hknot
      rcases ih knot hknot with hold | ⟨start, hstart, hleads⟩
      · exact .inl hold
      · exact .inr ⟨start, .tail first hstart, hleads⟩
  | case3 seen first rest hseen ih =>
      intro knot hknot
      rw [visitAll, dif_neg hseen] at hknot
      rcases ih knot hknot with hold | ⟨start, hstart, hleads⟩
      · rcases List.mem_cons.mp hold with rfl | hold
        · exact .inr ⟨knot, .head rest, .refl⟩
        · exact .inl hold
      · rcases List.mem_append.mp hstart with hrest | htarget
        · exact .inr ⟨start, .tail first hrest, hleads⟩
        · have hlinked := mem_targetsOf.mp (List.mem_filter.mp htarget).1
          exact .inr ⟨first, .head rest, .head hlinked hleads⟩

/-- Whether every link out of a visited knot leads to a knot that is visited or waits. -/
def Pending (links : List Link) (queue seen : List String) : Prop :=
  ∀ a ∈ seen, ∀ b, Linked links a b → b ∈ seen ∨ b ∈ queue

theorem visitAll_closed (queue seen : List String) (h : Pending links queue seen) :
    (∀ knot, knot ∈ seen ∨ knot ∈ queue → knot ∈ visitAll links queue seen) ∧
      Pending links [] (visitAll links queue seen) := by
  induction queue, seen using visitAll.induct links with
  | case1 seen =>
      rw [visitAll]
      exact ⟨fun knot hknot => hknot.resolve_right List.not_mem_nil, h⟩
  | case2 seen first rest hseen ih =>
      rw [visitAll, dif_pos hseen]
      have hskip : ∀ knot, knot ∈ first :: rest → knot ∈ seen ∨ knot ∈ rest := by
        rintro knot (- | ⟨_, hrest⟩)
        · exact .inl hseen
        · exact .inr hrest
      obtain ⟨hkept, hclosed⟩ := ih fun a ha b hlinked =>
        (h a ha b hlinked).elim .inl (hskip b)
      exact ⟨fun knot hknot => hkept knot (hknot.elim .inl (hskip knot)), hclosed⟩
  | case3 seen first rest hseen ih =>
      rw [visitAll, dif_neg hseen]
      -- What the visited knots link to is visited, waits, or was just put in the queue.
      have hnext : Pending links
          (rest ++ (targetsOf links first).filter (· ∉ first :: seen)) (first :: seen) := by
        intro a ha b hlinked
        by_cases hb : b ∈ first :: seen
        · exact .inl hb
        · refine .inr (List.mem_append.mpr ?_)
          rcases List.mem_cons.mp ha with rfl | hold
          · exact .inr (List.mem_filter.mpr
              ⟨mem_targetsOf.mpr hlinked, decide_eq_true hb⟩)
          · rcases h a hold b hlinked with hin | hwaits
            · exact absurd (.tail first hin) hb
            · exact .inl ((List.mem_cons.mp hwaits).resolve_left fun heq =>
                hb (heq ▸ .head seen))
      obtain ⟨hkept, hclosed⟩ := ih hnext
      refine ⟨fun knot hknot => hkept knot ?_, hclosed⟩
      rcases hknot with hold | hwaits
      · exact .inl (.tail first hold)
      · rcases List.mem_cons.mp hwaits with rfl | hrest
        · exact .inl (.head seen)
        · exact .inr (List.mem_append_left _ hrest)

/-- The search finds the knots that chains of links lead to from the starts. -/
theorem mem_reachableFrom_iff {starts : List String} {knot : String} :
    knot ∈ reachableFrom links starts ↔ ∃ start ∈ starts, Leads links start knot := by
  constructor
  · intro h
    exact (visitAll_sound starts [] knot h).resolve_left List.not_mem_nil
  · rintro ⟨start, hstart, hleads⟩
    have hnew : Pending links starts [] := fun _ ha => absurd ha List.not_mem_nil
    obtain ⟨hkept, hclosed⟩ := visitAll_closed starts [] hnew
    induction hleads with
    | refl => exact hkept start (.inr hstart)
    | tail _ hlinked ih => exact (hclosed _ ih _ hlinked).resolve_right List.not_mem_nil

theorem mem_unreachable_iff {knots starts : List String} {knot : String} :
    knot ∈ unreachable knots links starts ↔
      knot ∈ knots ∧ ¬ ∃ start ∈ starts, Leads links start knot := by
  simp only [unreachable, List.mem_filter, decide_eq_true_eq, mem_reachableFrom_iff]

namespace Graph

variable (g : Graph)

/-- Whether a link leads to a knot. -/
def HasIncoming (knot : String) : Prop :=
  ∃ l ∈ g.links, l.target = knot

/-- Whether a link leads out of a knot. -/
def HasOutgoing (knot : String) : Prop :=
  ∃ l ∈ g.links, l.source = knot

/-- Whether a knot can be reached from one that no link leads to. -/
def Reachable (knot : String) : Prop :=
  ∃ start ∈ g.knots, ¬ g.HasIncoming start ∧ Leads g.links start knot

theorem mem_entryPoints_iff {knot : String} :
    knot ∈ g.analyze.entryPoints ↔ knot ∈ g.knots ∧ ¬ g.HasIncoming knot := by
  simp [analyze, entryPoints, HasIncoming]

theorem mem_deadEnds_iff {knot : String} :
    knot ∈ g.analyze.deadEnds ↔ knot ∈ g.knots ∧ ¬ g.HasOutgoing knot := by
  simp [analyze, deadEnds, HasOutgoing]

theorem mem_unreachable_iff {knot : String} :
    knot ∈ g.analyze.unreachable ↔ knot ∈ g.knots ∧ ¬ g.Reachable knot := by
  have hstarts : (∃ start ∈ g.analyze.entryPoints, Leads g.links start knot) ↔
      g.Reachable knot := by
    simp only [mem_entryPoints_iff, Reachable, and_assoc]
  rw [← hstarts]
  exact KnotAtlas.mem_unreachable_iff

/-- Without a knot to start from, all knots are unreachable, and they are listed in their order. -/
theorem unreachable_eq_knots (h : g.analyze.entryPoints = []) :
    g.analyze.unreachable = g.knots := by
  refine List.filter_eq_self.mpr fun knot _ => decide_eq_true ?_
  rw [mem_reachableFrom_iff]
  rintro ⟨start, hstart, -⟩
  change start ∈ g.analyze.entryPoints at hstart
  rw [h] at hstart
  exact List.not_mem_nil hstart

end Graph
end KnotAtlas
