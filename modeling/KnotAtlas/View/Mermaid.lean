import KnotAtlas.View.Basic

/-!
Drawings in the Mermaid language. Nodes are named by identifiers, in which points, blanks and
hyphens of a knot's name become underscores; the name itself is the label.
-/

namespace KnotAtlas.View.Mermaid

def identifier (name : String) : String :=
  String.ofList (name.toList.map fun c => if c = '.' || c = ' ' || c = '-' then '_' else c)

def escapeChar (c : Char) : List Char :=
  if c = '"' then "&quot;".toList
  else if c = '\n' then [' ']
  else [c]

def escape (s : String) : String :=
  String.ofList (s.toList.flatMap escapeChar)

def nodeForm (s : Shape) (label : String) : String :=
  match s with
  | .start => "([\"" ++ label ++ "\"]):::start"
  | .ending => "([\"" ++ label ++ "\"]):::ending"
  | .unreachable => "[\"" ++ label ++ "\"]:::unreachable"
  | .plain => "[\"" ++ label ++ "\"]"

def nodeLines (n : Node) : List String :=
  ("  " ++ identifier n.id ++ nodeForm n.shape (escape n.id)) ::
    (if n.isCurrent then ["  class " ++ identifier n.id ++ " current"] else [])

def edgeLine (noLabels : Bool) (e : Edge) : String :=
  let arrow :=
    if !noLabels && e.label != "" then " -->|\"" ++ escape e.label ++ "\"| " else " --> "
  "  " ++ identifier e.source ++ arrow ++ identifier e.target

def classes : List String :=
  ["  classDef start fill:#90EE90,stroke:#333",
    "  classDef ending fill:#FFB6C1,stroke:#333",
    "  classDef unreachable fill:#D3D3D3,stroke:#333,stroke-dasharray:4",
    "  classDef current stroke:#FF4500,stroke-width:3px"]

def render (noLabels : Bool) (v : View) : String :=
  "\n".intercalate
    (["graph LR"] ++ v.nodes.flatMap nodeLines ++ [""] ++ v.edges.map (edgeLine noLabels) ++
      [""] ++ classes)

end KnotAtlas.View.Mermaid
