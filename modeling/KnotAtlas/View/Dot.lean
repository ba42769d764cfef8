import KnotAtlas.View.Basic

/-!
Drawings in the DOT language: a head of five lines, a line per node, an empty line, a line per edge,
and a closing line. Quotes, backslashes and line feeds in names and labels are escaped.
-/

namespace KnotAtlas.View.Dot

def escapeChar (c : Char) : List Char :=
  if c = '\\' then ['\\', '\\']
  else if c = '"' then ['\\', '"']
  else if c = '\n' then ['\\', 'n']
  else [c]

def escape (s : String) : String :=
  String.ofList (s.toList.flatMap escapeChar)

def quote (s : String) : String :=
  "\"" ++ escape s ++ "\""

structure Setting where
  key : String
  value : String
  deriving DecidableEq, Repr

def settings (xs : List Setting) : String :=
  " ".intercalate (xs.map fun x => x.key ++ "=" ++ x.value)

def shapeSettings : Shape → List Setting
  | .start => [⟨"shape", "doubleoctagon"⟩, ⟨"fillcolor", quote "#90EE90"⟩]
  | .ending => [⟨"shape", "octagon"⟩, ⟨"fillcolor", quote "#FFB6C1"⟩]
  | .unreachable =>
    [⟨"shape", "box"⟩, ⟨"fillcolor", quote "#D3D3D3"⟩, ⟨"style", quote "filled,dashed"⟩]
  | .plain => [⟨"shape", "box"⟩, ⟨"fillcolor", quote "#ADD8E6"⟩]

def nodeSettings (n : Node) : List Setting :=
  shapeSettings n.shape ++
    (if n.isCurrent then [⟨"color", quote "#FF4500"⟩, ⟨"penwidth", quote "2.5"⟩] else []) ++
    [⟨"label", quote n.id⟩]

def nodeLine (n : Node) : String :=
  "  " ++ quote n.id ++ " [" ++ settings (nodeSettings n) ++ "];"

def edgeSettings (noLabels : Bool) (e : Edge) : List Setting :=
  (if e.isChoice then [⟨"color", quote "#6A5ACD"⟩] else []) ++
    (if e.label != "" && !noLabels then [⟨"label", quote e.label⟩] else [])

def edgeLine (noLabels : Bool) (e : Edge) : String :=
  let tail :=
    match edgeSettings noLabels e with
    | [] => ""
    | xs => " [" ++ settings xs ++ "]"
  "  " ++ quote e.source ++ " -> " ++ quote e.target ++ tail ++ ";"

def head : List String :=
  ["digraph story \x7b",
    "  rankdir=LR;",
    "  node [fontname=\"Helvetica\" fontsize=10 style=\"filled,solid\"];",
    "  edge [fontname=\"Helvetica\" fontsize=8];",
    ""]

def lines (noLabels : Bool) (v : View) : List String :=
  head ++ v.nodes.map nodeLine ++ [""] ++ v.edges.map (edgeLine noLabels) ++ ["\x7d"]

def render (noLabels : Bool) (v : View) : String :=
  "\n".intercalate (lines noLabels v)

end KnotAtlas.View.Dot
