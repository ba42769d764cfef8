import KnotAtlas.Graph.Neighbours

/-!
Reachability. Knots waiting to be visited stand in a queue; visiting one appends those of its
targets that were not visited. The search ends because each visit uses up the links out of a knot:
the links of knots not yet visited and the length of the queue together only shrink.
-/

namespace KnotAtlas

def linksLeft (links : List Link) (seen : List String) : Nat :=
  (links.filter fun l => l.source ∉ seen).length

/-- A visit turns the links out of a knot from links left into targets. -/
theorem linksLeft_visit (links : List Link) {seen : List String} {knot : String}
    (h : knot ∉ seen) :
    linksLeft links (knot :: seen) + (targetsOf links knot).length ≤ linksLeft links seen := by
  induction links with
  | nil => simp [linksLeft]
  | cons link links ih =>
    simp only [linksLeft] at ih ⊢
    by_cases hk : link.source = knot
    · simp only [targetsOf_cons, hk, if_true, List.filter_cons, List.mem_cons, true_or,
        not_true_eq_false, decide_false, h, not_false_eq_true, decide_true, List.length_cons]
      simp only [List.mem_cons] at ih
      split <;> simp_all
      omega
    · by_cases hs : link.source ∈ seen
      · simp_all [targetsOf_cons]
      · simp_all [targetsOf_cons]
        omega

/-- Visits the knots of a queue and everything that links lead to from there; gives the visited
knots, the latest first. -/
def visitAll (links : List Link) (queue seen : List String) : List String :=
  match queue with
  | [] => seen
  | knot :: rest =>
    if _h : knot ∈ seen then visitAll links rest seen
    else
      visitAll links (rest ++ (targetsOf links knot).filter (· ∉ knot :: seen)) (knot :: seen)
termination_by linksLeft links seen + queue.length
decreasing_by
  · simp
  · have := linksLeft_visit links _h
    have := List.length_filter_le (fun t => decide (t ∉ knot :: seen)) (targetsOf links knot)
    simp only [List.length_append, List.length_cons]
    omega

/-- The knots that links lead to from `starts`, the starts included. -/
def reachableFrom (links : List Link) (starts : List String) : List String :=
  visitAll links starts []

end KnotAtlas
