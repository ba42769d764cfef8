import KnotAtlas.Cli.Program
import KnotAtlas.Value.Display

/-!
The terminal as a console. Marks of style stand in brackets. They are read and left out, in lines as
in the cells of tables; a closing mark needs a mark that it closes. Tables are set in columns, and
log events take one line each.
-/

namespace KnotAtlas.Cli

/-- What stands in a mark at the front of a text; it starts with a small letter or a sign of its own
and holds no bracket. -/
def markAt? : List Char → Option (List Char)
  | '[' :: c :: rest =>
    if c.isLower || c ∈ ['#', '/', '@'] then
      let inside := (c :: rest).takeWhile fun d => d != '[' && d != ']'
      if (c :: rest)[inside.length]? = some ']' then some inside else none
    else none
  | _ => none

/-- Text without its marks. The styles in `opened` have begun and not ended, and `skip` characters
of a mark are still to be passed over; `place` is how much of the text went before. -/
def withoutMarks (opened : List (List Char)) (skip place : Nat) :
    List Char → Except String (List Char)
  | [] => .ok []
  | c :: rest =>
    match skip with
    | skip + 1 => withoutMarks opened skip (place + 1) rest
    | 0 =>
      match markAt? (c :: rest) with
      | none => (c :: ·) <$> withoutMarks opened 0 (place + 1) rest
      | some ['/'] =>
        match opened with
        | [] => .error s!"closing tag '[/]' at position {place} has nothing to close"
        | _ :: outer => withoutMarks outer 2 (place + 1) rest
      | some ('/' :: style) =>
        if style ∈ opened then withoutMarks (opened.erase style) (style.length + 2) (place + 1) rest
        else
          .error (s!"closing tag '[/{String.ofList style}]' at position {place} " ++
            "doesn't match any open tag")
      | some style => withoutMarks (style :: opened) (style.length + 1) (place + 1) rest

def shownText (s : String) : Except String String :=
  String.ofList <$> withoutMarks [] 0 0 s.toList

/-- The terminal, wide enough for every cell. -/
def terminal : Console
  | .markup text => .plain <$> shownText text
  | .plain text => .ok (.plain text)
  | .table t => do
    let title ← shownText t.title
    let columns ← t.columns.mapM shownText
    let rows ← t.rows.mapM (·.mapM shownText)
    return .table ⟨title, columns, rows⟩

def fillCell (width : Nat) (cell : String) : String :=
  cell ++ String.ofList (List.replicate (width - cell.length) ' ')

def columnWidth (rows : List (List String)) (i : Nat) : Nat :=
  (rows.map fun row => ((row[i]?).getD "").length).foldl max 0

def setRows (rows : List (List String)) : List String :=
  rows.map fun row =>
    "  ".intercalate (row.zipIdx.map fun (cell, i) => fillCell (columnWidth rows i) cell)

def Table.lines (t : Table) : List String :=
  t.title :: setRows (t.columns :: t.rows)

def Print.lines : Print → List String
  | .markup text => [text]
  | .plain text => [text]
  | .table t => t.lines

def eventLine (e : Log.Event) : String :=
  let context := e.context.map fun (key, v) => s!" {key}={v.display}"
  s!"{e.level.name} {e.name}" ++ String.join context

def usage : List String :=
  ["usage: inkscope [-v] [--log DIR] [-c PATH] COMMAND", "",
    "  version                               show the version",
    "  graph STORY [-f json|dot|mermaid] [--current KNOT] [--no-labels]",
    "                                        print the graph of a compiled story",
    "  validate STORY [-s SOURCE] [--strict] check a compiled story",
    "  search STORY QUERY [-s SOURCE]        find knots by name",
    "  path STORY FROM TO                    show a shortest path between two knots",
    "  scan FILE...                          list what source files declare"]

end KnotAtlas.Cli
