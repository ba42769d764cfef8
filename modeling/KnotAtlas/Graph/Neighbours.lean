import KnotAtlas.Graph.Basic
import KnotAtlas.OrderedMap

/-!
Neighbours of a knot. Targets and sources are read off the links one knot at a time; the adjacency
table holds the targets of every knot with a link out of it. All of them keep the order of the links
and repeat a knot that several links lead to.
-/

namespace KnotAtlas

/-- The knots that links out of `knot` lead to. -/
def targetsOf (links : List Link) (knot : String) : List String :=
  (links.filter (·.source = knot)).map (·.target)

/-- The knots that links into `knot` come from. -/
def sourcesOf (links : List Link) (knot : String) : List String :=
  (links.filter (·.target = knot)).map (·.source)

def OrderedMap.push {α : Type} (m : OrderedMap String (List α)) (key : String) (value : α) :
    OrderedMap String (List α) :=
  m.insert key ((m.find? key).getD [] ++ [value])

/-- The targets of every knot with a link out of it, in the order of the first such links. -/
def adjacency (links : List Link) : OrderedMap String (List String) :=
  links.foldl (fun table link => table.push link.source link.target) []

@[simp] theorem targetsOf_nil (knot : String) : targetsOf [] knot = [] := rfl

theorem targetsOf_cons (link : Link) (links : List Link) (knot : String) :
    targetsOf (link :: links) knot =
      if link.source = knot then link.target :: targetsOf links knot else targetsOf links knot := by
  by_cases h : link.source = knot <;> simp [targetsOf, h]

theorem mem_targetsOf {links : List Link} {knot target : String} :
    target ∈ targetsOf links knot ↔ ∃ l ∈ links, l.source = knot ∧ l.target = target := by
  simp [targetsOf, and_assoc]

end KnotAtlas
