import KnotAtlas.Proofs.Graph.Path

/-!
The search of a graph as a closure under links. It ends: its turns are no more than the links and
the starts together. What it finds depends on which starts and links there are, and not on their
order or on how often they stand there. A knot is left out exactly if the search for a path finds no
path to it from any start.
-/

namespace KnotAtlas

/-- How a search goes turn by turn, from its queue and the visited knots to the visited knots that
it ends with. -/
inductive Turns (links : List Link) : Nat → List String → List String → List String → Prop
  | ended (seen : List String) : Turns links 0 [] seen seen
  | skip {turns : Nat} {knot : String} {rest seen visited : List String} :
      knot ∈ seen → Turns links turns rest seen visited →
      Turns links (turns + 1) (knot :: rest) seen visited
  | visit {turns : Nat} {knot : String} {rest seen visited : List String} :
      knot ∉ seen →
      Turns links turns (rest ++ (targetsOf links knot).filter (· ∉ knot :: seen)) (knot :: seen)
        visited →
      Turns links (turns + 1) (knot :: rest) seen visited

variable {links : List Link}

theorem visitAll_turns (queue seen : List String) :
    ∃ turns ≤ linksLeft links seen + queue.length,
      Turns links turns queue seen (visitAll links queue seen) := by
  induction queue, seen using visitAll.induct links with
  | case1 seen =>
      rw [visitAll]
      exact ⟨0, Nat.zero_le _, .ended seen⟩
  | case2 seen knot rest hseen ih =>
      rw [visitAll, dif_pos hseen]
      obtain ⟨turns, hle, hturns⟩ := ih
      refine ⟨turns + 1, ?_, .skip hseen hturns⟩
      rw [List.length_cons]
      omega
  | case3 seen knot rest hseen ih =>
      rw [visitAll, dif_neg hseen]
      obtain ⟨turns, hle, hturns⟩ := ih
      refine ⟨turns + 1, ?_, .visit hseen hturns⟩
      -- What the queue gains are links that are no longer left.
      have hused := linksLeft_visit links hseen
      have hgained := List.length_filter_le (fun t => decide (t ∉ knot :: seen))
        (targetsOf links knot)
      rw [List.length_append] at hle
      rw [List.length_cons]
      omega

theorem visitAll_nodup (queue seen : List String) (h : seen.Nodup) :
    (visitAll links queue seen).Nodup := by
  induction queue, seen using visitAll.induct links with
  | case1 seen =>
      rw [visitAll]
      exact h
  | case2 seen knot rest hseen ih =>
      rw [visitAll, dif_pos hseen]
      exact ih h
  | case3 seen knot rest hseen ih =>
      rw [visitAll, dif_neg hseen]
      exact ih (List.nodup_cons.mpr ⟨hseen, h⟩)

theorem linksLeft_nil (links : List Link) : linksLeft links [] = links.length := by
  simp [linksLeft]

theorem Linked.congr {others : List Link} (h : ∀ l, l ∈ others ↔ l ∈ links) :
    Linked others = Linked links := by
  funext a b
  simp only [Linked, h]

/-- The search for a path misses no knot that links lead to. -/
theorem findPath?_eq_none_iff {start goal : String} :
    findPath? links start goal = none ↔ ¬ Leads links start goal := by
  have hspec := answers_searchPath (Searching.begin links start goal)
  rw [← findPath?] at hspec
  cases hpath : findPath? links start goal with
  | none =>
      rw [hpath] at hspec
      refine ⟨fun _ hleads => ?_, fun _ => rfl⟩
      obtain ⟨before, hroute⟩ := Route.of_leads hleads
      exact hspec before hroute
  | some path =>
      rw [hpath] at hspec
      obtain ⟨before, -, hroute, -⟩ := hspec
      exact ⟨fun h => absurd h (Option.some_ne_none _), fun h => absurd hroute.leads h⟩

/-- Whether a path between two knots is as short as any. -/
def IsShortest (links : List Link) (start goal : String) (path : List String) : Prop :=
  IsPath links start goal path ∧
    ∀ other, IsPath links start goal other → path.length ≤ other.length

theorem isShortest_of_findPath? {start goal : String} {path : List String}
    (h : findPath? links start goal = some path) : IsShortest links start goal path := by
  have hspec := answers_searchPath (Searching.begin links start goal)
  rw [← findPath?, h] at hspec
  obtain ⟨before, rfl, hroute, -, hfirst⟩ := hspec
  refine ⟨hroute.isPath rfl, fun other hother => ?_⟩
  obtain ⟨hway, hhead⟩ := Route.of_isPath hother
  obtain ⟨r, hr⟩ := List.head?_eq_some_iff.mp hhead
  rw [hr] at hway
  have hlength := (hfirst r hway).length_le
  rw [← hr, List.length_reverse] at hlength
  rwa [List.length_reverse]

/-- The search from some starts ends, after no more turns than there are links and starts. It finds
each knot that links lead to from a start once, and no other; neither the order nor the repetition
of links and starts matters. The knots that it leaves out are those to which the search for a path
finds none from any start. -/
theorem reachableFrom_closure (links : List Link) (starts : List String) :
    (∃ turns ≤ links.length + starts.length,
      Turns links turns starts [] (reachableFrom links starts)) ∧
    (∀ knot, knot ∈ reachableFrom links starts ↔ ∃ start ∈ starts, Leads links start knot) ∧
    (reachableFrom links starts).Nodup ∧
    (∀ (otherLinks : List Link) (otherStarts : List String),
      (∀ l, l ∈ otherLinks ↔ l ∈ links) → (∀ start, start ∈ otherStarts ↔ start ∈ starts) →
        (reachableFrom otherLinks otherStarts).Perm (reachableFrom links starts)) ∧
    ∀ knots, unreachable knots links starts =
      knots.filter fun knot => ∀ start ∈ starts, findPath? links start knot = none := by
  refine ⟨?_, fun knot => mem_reachableFrom_iff, visitAll_nodup starts [] .nil, ?_, ?_⟩
  · rw [← linksLeft_nil links]
    exact visitAll_turns starts []
  · intro otherLinks otherStarts hlinks hstarts
    refine (List.perm_ext_iff_of_nodup (visitAll_nodup otherStarts [] .nil)
      (visitAll_nodup starts [] .nil)).mpr fun knot => ?_
    change knot ∈ reachableFrom otherLinks otherStarts ↔ knot ∈ reachableFrom links starts
    simp only [mem_reachableFrom_iff, Leads, Linked.congr hlinks, hstarts]
  · intro knots
    refine List.filter_congr fun knot _ => decide_eq_decide.mpr ?_
    simp only [mem_reachableFrom_iff, findPath?_eq_none_iff, not_exists, not_and]

/-- A way back, a loop that nothing else leads to but one knot, and a doubled link. -/
def tangledLinks : List Link :=
  [⟨"A", "B", "", true⟩, ⟨"B", "A", "", false⟩, ⟨"C", "C", "", true⟩, ⟨"D", "C", "", false⟩,
    ⟨"A", "B", "", true⟩]

theorem tangledLinks_closure :
    let links := tangledLinks.tail.reverse
    (∀ l, l ∈ links ↔ l ∈ tangledLinks) ∧
      (∀ start, start ∈ ["B", "ghost"] ↔ start ∈ ["ghost", "B", "B"]) ∧
      (reachableFrom links ["B", "ghost"]).Perm (reachableFrom tangledLinks ["ghost", "B", "B"]) ∧
      reachableFrom tangledLinks ["ghost", "B", "B"] = ["A", "B", "ghost"] ∧
      unreachable ["A", "B", "C", "D"] tangledLinks ["ghost", "B", "B"] = ["C", "D"] := by
  intro links
  have hlinks : ∀ l, l ∈ links ↔ l ∈ tangledLinks := by
    have hless : links ⊆ tangledLinks := by decide
    have hmore : tangledLinks ⊆ links := by decide
    exact fun l => ⟨@hless l, @hmore l⟩
  have hstarts : ∀ start, start ∈ ["B", "ghost"] ↔ start ∈ ["ghost", "B", "B"] := by
    have hless : ["B", "ghost"] ⊆ ["ghost", "B", "B"] := by decide
    have hmore : ["ghost", "B", "B"] ⊆ ["B", "ghost"] := by decide
    exact fun start => ⟨@hless start, @hmore start⟩
  obtain ⟨-, -, -, hsame, hleft⟩ := reachableFrom_closure tangledLinks ["ghost", "B", "B"]
  refine ⟨hlinks, hstarts, hsame links _ hlinks hstarts, by decide +kernel, ?_⟩
  rw [hleft]
  decide +kernel

end KnotAtlas
