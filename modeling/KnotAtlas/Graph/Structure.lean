import KnotAtlas.Graph.Reach
import KnotAtlas.Decimal.Binary

/-!
What stands out in a graph: knots that nothing leads to, knots that lead nowhere, knots that cannot
be reached, and how many links a knot has on average.
-/

namespace KnotAtlas

def entryPoints (knots : List String) (links : List Link) : List String :=
  knots.filter fun k => !links.any (·.target = k)

def deadEnds (knots : List String) (links : List Link) : List String :=
  knots.filter fun k => !links.any (·.source = k)

/-- The knots that links do not lead to from `starts`. -/
def unreachable (knots : List String) (links : List Link) (starts : List String) : List String :=
  let reached := reachableFrom links starts
  knots.filter (· ∉ reached)

/-- Links per knot on average; zero where there are no knots. A count below zero is divided like any
other. -/
def branchingFactor (knotCount linkCount : Int) : Float :=
  if knotCount = 0 then 0
  else
    Decimal.withSign (decide (linkCount < 0) != decide (knotCount < 0))
      (Decimal.nearest linkCount.natAbs knotCount.natAbs)

def branchingTooLarge : String :=
  "integer division result too large for a float"

/-- Links per knot on average, if a floating number comes near. -/
def branchingFactor? (knotCount linkCount : Int) : Option Float :=
  let factor := branchingFactor knotCount linkCount
  if factor.isInf then none else some factor

/-- A graph with what stands out in it. Reachability is measured from the entry points. -/
structure StructureReport where
  graph : Graph
  unreachable : List String
  deadEnds : List String
  entryPoints : List String
  deriving DecidableEq, Repr

def Graph.analyze (g : Graph) : StructureReport :=
  let entries := KnotAtlas.entryPoints g.knots g.links
  { graph := g
    unreachable := KnotAtlas.unreachable g.knots g.links entries
    deadEnds := KnotAtlas.deadEnds g.knots g.links
    entryPoints := entries }

namespace StructureReport

def totalKnots (r : StructureReport) : Nat :=
  r.graph.knots.length

def totalLinks (r : StructureReport) : Nat :=
  r.graph.links.length

end StructureReport
end KnotAtlas
