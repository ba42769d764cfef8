import KnotAtlas.Yaml.Cursor

/-!
Plain scalars: texts without quotes. They end where a key or a comment may follow, and go on over
lines that are indented deep enough. Tabs end them.
-/

namespace KnotAtlas.Yaml

def isFlowMark (c : Char) : Bool :=
  c = ',' || c = '[' || c = ']' || c = '\x7b' || c = '\x7d'

/-- Characters that mean something at the front of a token, blanks and breaks included. -/
def isIndicator (c : Char) : Bool :=
  isFlowMark c || isBlank c || isBreak c || c = '-' || c = '?' || c = ':' || c = '#' || c = '&' ||
    c = '*' || c = '!' || c = '|' || c = '>' || c = '\'' || c = '"' || c = '%' || c = '@' ||
    c.toNat = 96

def startsPlain (inFlow : Bool) (c : Cursor) : Bool :=
  match c.head with
  | none => false
  | some x =>
    let second := c.ahead 1
    !isIndicator x ||
      (x = '-' && !endsWord second) ||
      (x = ':' && inFlow && second != some ' ' && second != some '\t') ||
      (!inFlow && (x = '?' || x = ':') && !endsWord second)

def plainPiece (inFlow : Bool) : List Char → List Char
  | [] => []
  | x :: rest =>
    if (x = ':' && !endsWord rest.head?) || x = '?' then x :: plainPiece inFlow rest
    else if endsWord (some x) then []
    else if !inFlow && x = ':' then []
    else if inFlow && (isFlowMark x || x = ':') then []
    else x :: plainPiece inFlow rest

/-- Breaks and spaces after a break, up to the next other character; none if a mark between
documents comes first. -/
def plainBreaks : (fuel : Nat) → Cursor → Option (List Char × Cursor)
  | 0, c => some ([], c)
  | fuel + 1, c =>
    if c.head = some ' ' then plainBreaks fuel c.next
    else if c.head.isSome && endsLine c.head then
      match takeBreak? c with
      | none => some ([], c)
      | some (x, d) =>
        if atDocumentMark d then none
        else (plainBreaks fuel d).map fun (more, e) => (x :: more, e)
    else some ([], c)

/-- What stands between two pieces of a plain scalar, and where the next one may start; a break on
the way is told, since a key may start after it. -/
structure Gap where
  text : List Char
  cursor : Cursor
  broken : Bool

def plainGap (fuel : Nat) (c : Cursor) : Gap :=
  let blanks := c.rest.takeWhile (· == ' ')
  let d := c.skip blanks.length
  if endsLine d.head then
    match takeBreak? d with
    | none => ⟨[' '], d, true⟩
    | some (x, e) =>
      if atDocumentMark e then ⟨[], e, true⟩
      else
        match plainBreaks fuel e with
        | some (more, e) => ⟨folded x more, e, true⟩
        | none => ⟨[], e.skipWhile fun y => y = ' ' || endsLine (some y), true⟩
  else ⟨blanks, d, false⟩

/-- A scalar that was read: its text, where it ends, and whether a key may start there. -/
structure Plain where
  text : List Char
  cursor : Cursor
  keyAllowed : Bool

/-- Reads a plain scalar. Outside of flow collections its lines must reach the column `indent`. -/
def readPlain (inFlow : Bool) (indent : Int) : (fuel : Nat) → Cursor → Plain
  | 0, c => ⟨[], c, false⟩
  | fuel + 1, c =>
    let piece := plainPiece inFlow c.rest
    let gap := plainGap fuel (c.skip piece.length)
    let d := gap.cursor
    if gap.text.isEmpty || d.head = some '#' || (!inFlow && (d.column : Int) < indent) ||
        (plainPiece inFlow d.rest).isEmpty then
      ⟨piece, d, gap.broken⟩
    else
      let later := readPlain inFlow indent fuel d
      ⟨piece ++ gap.text ++ later.text, later.cursor, later.keyAllowed⟩

end KnotAtlas.Yaml
