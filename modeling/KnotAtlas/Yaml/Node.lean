import KnotAtlas.Yaml.Token.Basic

/-!
Documents as trees. A tree is read off the tokens of a document; what is left out is an empty plain
scalar. A text has one document, whose start and end may be marked.
-/

namespace KnotAtlas.Yaml

/-- A part of a document. -/
inductive Node where
  | scalar (text : String) (plain : Bool)
  | sequence (items : List Node)
  /-- Keys are told apart if `distinct` is true; else a later one takes the place of an earlier
  one. -/
  | mapping (distinct : Bool) (entries : List (Node × Node))
  deriving Inhabited

namespace Node

def empty : Node :=
  .scalar "" true

/-- The fault at a token that must not stand where it does. -/
def refuse {α : Type} (ts : List Token) : Except Fault α :=
  match ts with
  | .fault f :: _ => .error f
  | _ => .error .malformed

def expect (t : Token) (ts : List Token) : Except Fault (List Token) :=
  match ts with
  | u :: rest => if u = t then .ok rest else refuse ts
  | [] => refuse ts

def isLeftOut (before : List Token) (ts : List Token) : Bool :=
  ts.head?.any (before.contains ·)

mutual

/-- Reads a part. Blocks are read outside of flow collections only, and the items of a sequence may
stand at the column of their key if `flush` is true. -/
def read (inFlow flush : Bool) : (fuel : Nat) → List Token → Except Fault (Node × List Token)
  | 0, _ => .error .malformed
  | fuel + 1, ts =>
    match ts with
    | .scalar text plain :: rest => .ok (.scalar text plain, rest)
    | .flowSequence :: rest => do
      let (items, rest) ← readFlowItems fuel true rest
      return (.sequence items, rest)
    | .flowMapping :: rest => do
      let (entries, rest) ← readFlowEntries fuel true rest
      return (.mapping true entries, rest)
    | .dash :: _ =>
      if flush then do
        let (items, rest) ← readItems true fuel ts
        return (.sequence items, rest)
      else refuse ts
    | .blockSequence :: rest =>
      if inFlow then refuse ts
      else do
        let (items, rest) ← readItems false fuel rest
        return (.sequence items, rest)
    | .blockMapping :: rest =>
      if inFlow then refuse ts
      else do
        let (entries, rest) ← readEntries fuel rest
        return (.mapping true entries, rest)
    | _ => refuse ts

def readOptional (inFlow flush : Bool) (before : List Token) :
    (fuel : Nat) → List Token → Except Fault (Node × List Token)
  | 0, _ => .error .malformed
  | fuel + 1, ts => if isLeftOut before ts then .ok (empty, ts) else read inFlow flush fuel ts

/-- Reads the items of a block sequence. It has an end of its own unless its items are flush. -/
def readItems (flush : Bool) : (fuel : Nat) → List Token → Except Fault (List Node × List Token)
  | 0, _ => .error .malformed
  | fuel + 1, ts =>
    match ts with
    | .dash :: rest => do
      let before := if flush then [Token.dash, .key, .colon, .blockEnd] else [.dash, .blockEnd]
      let (item, rest) ← readOptional false false before fuel rest
      let (items, rest) ← readItems flush fuel rest
      return (item :: items, rest)
    | _ => if flush then .ok ([], ts) else (expect .blockEnd ts).map fun rest => ([], rest)

def readValue : (fuel : Nat) → List Token → Except Fault (Node × List Token)
  | 0, _ => .error .malformed
  | fuel + 1, ts =>
    match ts with
    | .colon :: rest => readOptional false true [.key, .colon, .blockEnd] fuel rest
    | _ => .ok (empty, ts)

def readEntries : (fuel : Nat) → List Token → Except Fault (List (Node × Node) × List Token)
  | 0, _ => .error .malformed
  | fuel + 1, ts =>
    match ts with
    | .key :: rest => do
      let (key, rest) ← readOptional false true [.key, .colon, .blockEnd] fuel rest
      let (value, rest) ← readValue fuel rest
      let (entries, rest) ← readEntries fuel rest
      return ((key, value) :: entries, rest)
    | .colon :: _ => do
      let (value, rest) ← readValue fuel ts
      let (entries, rest) ← readEntries fuel rest
      return ((empty, value) :: entries, rest)
    | _ => (expect .blockEnd ts).map fun rest => ([], rest)

/-- Reads a key in a flow collection with its value; either may be left out. -/
def readPair (closing : Token) :
    (fuel : Nat) → List Token → Except Fault ((Node × Node) × List Token)
  | 0, _ => .error .malformed
  | fuel + 1, ts => do
    let (key, rest) ← readOptional true false [.colon, .comma, closing] fuel ts
    match rest with
    | .colon :: rest => do
      let (value, rest) ← readOptional true false [.comma, closing] fuel rest
      return ((key, value), rest)
    | _ => return ((key, empty), rest)

/-- Reads the items of a flow sequence; a key with its value is a mapping of one entry. -/
def readFlowItems :
    (fuel : Nat) → (first : Bool) → List Token → Except Fault (List Node × List Token)
  | 0, _, _ => .error .malformed
  | fuel + 1, first, ts =>
    match ts with
    | .flowSequenceEnd :: rest => .ok ([], rest)
    | _ => do
      let ts ← if first then .ok ts else expect .comma ts
      match ts with
      | .flowSequenceEnd :: rest => return ([], rest)
      | .key :: rest => do
        let (pair, rest) ← readPair .flowSequenceEnd fuel rest
        let (items, rest) ← readFlowItems fuel false rest
        return (.mapping true [pair] :: items, rest)
      | _ => do
        let (item, rest) ← read true false fuel ts
        let (items, rest) ← readFlowItems fuel false rest
        return (item :: items, rest)

/-- Reads the entries of a flow mapping; what is no key with its value is a key alone. -/
def readFlowEntries : (fuel : Nat) → (first : Bool) → List Token →
    Except Fault (List (Node × Node) × List Token)
  | 0, _, _ => .error .malformed
  | fuel + 1, first, ts =>
    match ts with
    | .flowMappingEnd :: rest => .ok ([], rest)
    | _ => do
      let ts ← if first then .ok ts else expect .comma ts
      match ts with
      | .flowMappingEnd :: rest => return ([], rest)
      | .key :: rest => do
        let (pair, rest) ← readPair .flowMappingEnd fuel rest
        let (entries, rest) ← readFlowEntries fuel false rest
        return (pair :: entries, rest)
      | .colon :: _ => do
        let (pair, rest) ← readPair .flowMappingEnd fuel ts
        let (entries, rest) ← readFlowEntries fuel false rest
        return (pair :: entries, rest)
      | _ => do
        let (key, rest) ← read true false fuel ts
        let (entries, rest) ← readFlowEntries fuel false rest
        return ((key, empty) :: entries, rest)

end

/-- Reads the content of a document whose start is marked; it may be left out. -/
def readMarked (fuel : Nat) (ts : List Token) : Except Fault (Node × List Token) :=
  if ts.isEmpty then .ok (empty, ts)
  else readOptional false false [.documentStart, .documentEnd] fuel ts

/-- Reads the tokens of a text as one document; a text without tokens is an empty one. -/
def ofTokens (ts : List Token) : Except Fault Node := do
  let fuel := 3 * ts.length + 3
  let (node, rest) ←
    match ts with
    | [] => .ok (empty, [])
    | .documentStart :: rest => readMarked fuel rest
    | _ => read false false fuel ts
  let rest := match rest with | .documentEnd :: rest => rest | rest => rest
  if rest.isEmpty then return node else refuse rest

end Node
end KnotAtlas.Yaml
