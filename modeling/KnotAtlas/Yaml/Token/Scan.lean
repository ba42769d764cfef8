import KnotAtlas.Yaml.Scalar.Plain
import KnotAtlas.Yaml.Scalar.Quoted
import KnotAtlas.Yaml.Token.Basic

/-!
Reading tokens. Whether a token is a key shows only at the colon after it, so places where a key may
start are kept open: one for each flow collection around, and one for the block. A place closes at
the end of its line or after too many characters; a place that has to be a key must not close.
-/

namespace KnotAtlas.Yaml

structure OpenKey where
  /-- How many tokens come before it. -/
  before : Nat
  /-- Nothing but a key may stand here. -/
  needed : Bool
  place : Cursor

structure Scan where
  /-- How many characters the text has. -/
  size : Nat
  cursor : Cursor
  /-- The tokens so far, the last one first. -/
  tokens : List Token := []
  /-- The columns of the blocks around, innermost first. -/
  indents : List Int := [-1]
  /-- The opening marks of the flow collections around, innermost first. -/
  flows : List Char := []
  /-- Whether a key may start here. -/
  keyAllowed : Bool := true
  /-- The open places of the flow collections around, innermost first, and of the block. -/
  openKeys : List (Option OpenKey) := [none]

namespace Scan

/-- The longest distance from the start of a key to its colon. -/
def keyReach : Nat := 1024

def left (s : Scan) : Nat :=
  s.size - s.cursor.index + 1

def inFlow (s : Scan) : Bool :=
  !s.flows.isEmpty

def indent (s : Scan) : Int :=
  s.indents.headD (-1)

def emit (s : Scan) (t : Token) : Scan :=
  { s with tokens := t :: s.tokens }

/-- Adds a token before the last `after` tokens. -/
def insertBefore (s : Scan) (after : Nat) (t : Token) : Scan :=
  { s with tokens := s.tokens.take after ++ t :: s.tokens.drop after }

def isStale (c : Cursor) (k : OpenKey) : Bool :=
  k.place.line != c.line || keyReach < c.index - k.place.index

/-- Closes an open place; one that has to be a key must not close. -/
def close (s : Scan) (k : Option OpenKey) : Except Fault (Option OpenKey) :=
  match k with
  | none => .ok none
  | some k =>
    if !isStale s.cursor k then .ok (some k)
    else if k.needed then .error .malformed
    else .ok none

def closeStale (s : Scan) : Except Fault Scan := do
  let openKeys ← s.openKeys.mapM s.close
  return { s with openKeys := openKeys }

def openKey? (s : Scan) : Option OpenKey :=
  s.openKeys.head?.join

def setKey (s : Scan) (k : Option OpenKey) : Scan :=
  { s with openKeys := k :: s.openKeys.tail }

def dropKey (s : Scan) : Except Fault Scan :=
  if s.openKey?.any (·.needed) then .error .malformed else .ok (s.setKey none)

def offerKey (s : Scan) : Except Fault Scan :=
  if s.keyAllowed then do
    let needed := !s.inFlow && s.indent = s.cursor.column
    return (← s.dropKey).setKey (some ⟨s.tokens.length, needed, s.cursor⟩)
  else .ok s

def unwind (s : Scan) (column : Int) : Scan :=
  if s.inFlow then s
  else
    let ended := (s.indents.takeWhile (column < ·)).length
    { s with
      tokens := List.replicate ended Token.blockEnd ++ s.tokens
      indents := s.indents.drop ended }

def starts (s : Scan) (column : Nat) : Bool :=
  s.indent < column

/-- Starts a block at a column, if none stands there. -/
def startBlock (s : Scan) (column : Nat) (t : Token) : Scan :=
  if s.starts column then { s.emit t with indents := column :: s.indents } else s

/-- Past several characters; `keyAllowed` tells whether a key may start behind them. -/
def move (s : Scan) (n : Nat) (keyAllowed : Bool) : Scan :=
  { s with cursor := s.cursor.skip n, keyAllowed }

/-- The cursor past blanks, comments and breaks, and whether there was a break. Tabs are blanks
inside of flow collections only. -/
def gap (inFlow : Bool) : (fuel : Nat) → Cursor → Cursor × Bool
  | 0, c => (c, false)
  | fuel + 1, c =>
    let d := c.skipWhile fun x => x = ' ' || (inFlow && x = '\t')
    let d := if d.head = some '#' then d.skipWhile fun x => !endsLine (some x) else d
    match takeBreak? d with
    | some (_, e) => ((gap inFlow fuel e).1, true)
    | none => (d, false)

/-- To the next token; outside of flow collections a key may start after a break. -/
def skipGap (s : Scan) : Scan :=
  let (cursor, broken) := gap s.inFlow s.left s.cursor
  { s with cursor, keyAllowed := s.keyAllowed || (broken && !s.inFlow) }

def readDocumentMark (s : Scan) (t : Token) : Except Fault Scan := do
  let s ← (s.unwind (-1)).dropKey
  return (s.emit t).move 3 false

def openFlow (s : Scan) (mark : Char) (t : Token) : Except Fault Scan := do
  let s ← s.offerKey
  return ({ s with flows := mark :: s.flows, openKeys := none :: s.openKeys }.emit t).move 1 true

def closeFlow (s : Scan) (t : Token) : Except Fault Scan := do
  let s ← s.dropKey
  let openKeys := if s.inFlow then s.openKeys.tail else s.openKeys
  return ({ s with flows := s.flows.tail, openKeys }.emit t).move 1 false

def readComma (s : Scan) : Except Fault Scan := do
  return ((← s.dropKey).emit .comma).move 1 true

/-- Starts a block where a token stands that only the front of a line may hold. -/
def startLine (s : Scan) (t : Token) : Except Fault Scan :=
  if s.inFlow then .ok s
  else if s.keyAllowed then .ok (s.startBlock s.cursor.column t)
  else .error .malformed

def readDash (s : Scan) : Except Fault Scan := do
  let s ← (← s.startLine .blockSequence).dropKey
  return (s.emit .dash).move 1 true

def readKeyMark (s : Scan) : Except Fault Scan := do
  let s ← (← s.startLine .blockMapping).dropKey
  return (s.emit .key).move 1 (!s.inFlow)

/-- Reads a colon. The innermost open place becomes a key; without one, the key is left out. -/
def readColon (s : Scan) : Except Fault Scan := do
  match s.openKey? with
  | some k =>
    let after := s.tokens.length - k.before
    let column := k.place.column
    let t := (s.setKey none).insertBefore after .key
    let t :=
      if !s.inFlow && s.starts column then
        { t.insertBefore (after + 1) .blockMapping with indents := column :: s.indents }
      else t
    return (t.emit .colon).move 1 false
  | none =>
    let s ← (← s.startLine .blockMapping).dropKey
    return (s.emit .colon).move 1 (!s.inFlow)

def readQuotes (s : Scan) (quote : Char) : Except Fault Scan := do
  let s ← s.offerKey
  let (text, cursor) ← readQuoted quote s.left s.cursor.next
  return { s.emit (.scalar (String.ofList text) false) with cursor, keyAllowed := false }

def readWord (s : Scan) : Except Fault Scan := do
  let s ← s.offerKey
  let word := readPlain s.inFlow (s.indent + 1) s.left s.cursor
  return { s.emit (.scalar (String.ofList word.text) true) with
    cursor := word.cursor, keyAllowed := word.keyAllowed }

/-- Whether a colon stands here that is followed by a value. Inside of a flow mapping nothing need
follow it, unless the token before is a colon that still waits to be taken. -/
def atColon (waiting : Bool) (s : Scan) : Bool :=
  let apart := endsWord (s.cursor.ahead 1)
  match s.flows with
  | [] => apart
  | '[' :: _ => apart
  | _ => if waiting && s.tokens.head? = some .colon then apart else true

def readToken (waiting : Bool) (s : Scan) : Except Fault Scan :=
  let c := s.cursor
  let apart := endsWord (c.ahead 1)
  match c.head with
  | none => .ok s
  | some x =>
    if x = '%' && c.column = 0 then .error .malformed
    else if c.column = 0 && atWord "---" c then s.readDocumentMark .documentStart
    else if c.column = 0 && atWord "..." c then s.readDocumentMark .documentEnd
    else if x = '[' then s.openFlow x .flowSequence
    else if x = '\x7b' then s.openFlow x .flowMapping
    else if x = ']' then s.closeFlow .flowSequenceEnd
    else if x = '\x7d' then s.closeFlow .flowMappingEnd
    else if x = ',' then s.readComma
    else if x = '-' && apart then s.readDash
    else if x = '?' && (s.inFlow || apart) then s.readKeyMark
    else if x = ':' && s.atColon waiting then s.readColon
    else if x = '\'' || x = '"' then s.readQuotes x
    else if startsPlain s.inFlow c then s.readWord
    else .error .malformed

/-- Reads on by one token; true at the end of the text. -/
def step (s : Scan) : Except Fault (Scan × Bool) := do
  let s ← s.closeStale
  let waiting := s.openKeys.any (·.isSome)
  let s ← s.skipGap.closeStale
  let s := s.unwind s.cursor.column
  if s.cursor.rest.isEmpty then return (← (s.unwind (-1)).dropKey, true)
  else return (← s.readToken waiting, false)

/-- The tokens before the first open place, in order. What follows is not settled yet. -/
def settled (s : Scan) : List Token :=
  let first := (s.openKeys.filterMap fun k => k.filter (!isStale s.cursor ·)).getLast?
  match first with
  | some k => s.tokens.reverse.take k.before
  | none => s.tokens.reverse

/-- Reads all tokens; a fault is the last one. -/
def run : (fuel : Nat) → Scan → List Token
  | 0, s => s.tokens.reverse
  | fuel + 1, s =>
    match s.step with
    | .ok (s, true) => s.tokens.reverse
    | .ok (s, false) => run fuel s
    | .error f => s.settled ++ [.fault f]

end Scan

/-- The tokens of a text. A byte order mark at the front is no part of it. -/
def Token.ofText (cs : List Char) : List Token :=
  let c : Cursor := { rest := cs }
  let start := if c.head = some Cursor.mark then c.next else c
  Scan.run (cs.length + 2) { size := cs.length, cursor := start }

end KnotAtlas.Yaml
