import KnotAtlas.Text.Digit

/-!
Names that can belong to a knot. A compiler makes up names for containers that the author did not
name; such names, the empty name, and the name of the default flow belong to no knot.
-/

namespace KnotAtlas.Detect

def defaultFlowName : String := "DEFAULT_FLOW"

def startKnot : String := "start"

def isNumber (cs : List Char) : Bool :=
  !cs.isEmpty && cs.all Text.isDecimalDigit

/-- Whether a name is made up by the compiler: a choice `c-1`, a gather `g-1`, a branch `b`, or the
number of a container. -/
def isSynthetic (name : String) : Bool :=
  match name.toList with
  | ['b'] => true
  | 'c' :: '-' :: rest => isNumber rest
  | 'g' :: '-' :: rest => isNumber rest
  | cs => isNumber cs

def isKnotName (name : String) : Bool :=
  name != "" && name != defaultFlowName && !isSynthetic name

end KnotAtlas.Detect
