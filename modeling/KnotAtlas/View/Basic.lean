import KnotAtlas.Graph.Structure
import KnotAtlas.Log.Event

/-!
A graph as it is drawn: every knot with its marks, every link with a label that is short enough for
an edge.
-/

namespace KnotAtlas.View

/-- A knot in a drawing. -/
structure Node where
  id : String
  isStart : Bool := false
  isEnding : Bool := false
  isUnreachable : Bool := false
  isCurrent : Bool := false
  outgoingCount : Int := 0
  deriving DecidableEq, Repr

/-- A link in a drawing. -/
structure Edge where
  source : String
  target : String
  label : String := ""
  isChoice : Bool := false
  deriving DecidableEq, Repr

end View

/-- A drawing of a graph, before it is put into words. -/
structure View where
  nodes : List View.Node := []
  edges : List View.Edge := []
  deriving DecidableEq, Repr

namespace View

/-- What a node is drawn as; the first that applies of start, ending and unreachable. -/
inductive Shape where
  | start
  | ending
  | unreachable
  | plain
  deriving DecidableEq, Repr

def Node.shape (n : Node) : Shape :=
  if n.isStart then .start
  else if n.isEnding then .ending
  else if n.isUnreachable then .unreachable
  else .plain

def labelWidth : Nat := 40

/-- A text cut to `width` characters, the last three of them dots. -/
def truncate (width : Nat) (s : String) : String :=
  if s.length ≤ width then s else String.ofList (s.toList.take (width - 3)) ++ "..."

/-- The edge of a link; a link without text has no label. -/
def Edge.ofLink (l : Link) : Edge :=
  ⟨l.source, l.target, if l.label = blankLabel then "" else truncate labelWidth l.label,
    l.isChoice⟩

/-- The drawing of a graph with the knot `current` marked. -/
def ofGraph (g : Graph) (current : Option String) : View :=
  let starts := entryPoints g.knots g.links
  let endings := deadEnds g.knots g.links
  let orphans := KnotAtlas.unreachable g.knots g.links starts
  { nodes := g.knots.map fun k =>
      { id := k
        isStart := k ∈ starts
        isEnding := k ∈ endings
        isUnreachable := k ∈ orphans
        isCurrent := some k = current
        outgoingCount := (targetsOf g.links k).length }
    edges := g.links.map Edge.ofLink }

def build (g : Graph) (current : Option String) : Logged View := do
  let view := ofGraph g current
  Log.emit .debug "inkscope.visualization" "knot_view_built"
    [("nodes", .int view.nodes.length), ("edges", .int view.edges.length),
      ("current", match current with | some k => .str k | none => .null)]
  return view

end View
end KnotAtlas
