import KnotAtlas.Text.Halves

/-!
The graph of a story: its knots in document order and the links between them. A link carries the
text a reader saw last before it, or a mark where there was none. A knot has a name, and that name
is written in characters.
-/

namespace KnotAtlas

def blankLabel : String := "…"

/-- A passage from one knot to another; `isChoice` tells the ones a reader picks. -/
structure Link where
  source : String
  target : String
  label : String := blankLabel
  isChoice : Bool := false
  deriving DecidableEq, Repr, Inhabited

/-- Knots in document order, and the links between them. -/
structure Graph where
  knots : List String := []
  links : List Link := []
  deriving DecidableEq, Repr, Inhabited

namespace Graph

def isEmpty (g : Graph) : Bool :=
  g.knots.isEmpty

inductive NameFault where
  | empty
  /-- Half of a pair stands alone in it. -/
  | torn
  deriving DecidableEq, Repr

def NameFault.message : NameFault → String
  | .empty => "string_too_short at id"
  | .torn => "string_unicode at id"

def nameFault? (knot : String) : Option NameFault :=
  if knot = "" then some .empty
  else if Text.HasHalf knot then some .torn
  else none

/-- The graph with the given knots and links; the first bad name of a knot is told instead. -/
def checked (knots : List String) (links : List Link) : Except NameFault Graph :=
  match knots.findSome? nameFault? with
  | some fault => .error fault
  | none => .ok ⟨knots, links⟩

end Graph
end KnotAtlas
