import KnotAtlas.Graph.Reach

/-!
Shortest paths. Paths wait in a queue in order of length, and of equal length in the order in which
links lead to them; the first one that ends in the goal is the answer. A path is kept with its last
knot first.
-/

namespace KnotAtlas

/-- Takes the first path of the queue that ends in `goal`, lengthening those that do not. -/
def searchPath (links : List Link) (goal : String) (queue : List (String × List String))
    (seen : List String) : Option (List String) :=
  match queue with
  | [] => none
  | (knot, before) :: rest =>
    if knot = goal then some (knot :: before).reverse
    else if _h : knot ∈ seen then searchPath links goal rest seen
    else
      let next := (targetsOf links knot).filter (· ∉ knot :: seen)
      searchPath links goal (rest ++ next.map fun t => (t, knot :: before)) (knot :: seen)
termination_by linksLeft links seen + queue.length
decreasing_by
  · simp
  · have := linksLeft_visit links _h
    have := List.length_filter_le (fun t => decide (t ∉ knot :: seen)) (targetsOf links knot)
    simp only [List.length_append, List.length_cons, List.length_map]
    omega

/-- A shortest path from `start` to `goal`, both included, if links lead from one to the other. -/
def findPath? (links : List Link) (start goal : String) : Option (List String) :=
  searchPath links goal [(start, [])] []

end KnotAtlas
