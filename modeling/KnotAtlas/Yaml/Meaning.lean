import KnotAtlas.Yaml.Merge

/-!
What documents stand for. Parts are given a meaning level by level, so of several faults the one
nearest to the root counts, and the first one among those. A key is given its meaning as a whole, at
the level of its mapping's entries.
-/

namespace KnotAtlas.Yaml

structure Placed where
  level : Nat
  fault : Fault

namespace Placed

/-- Two meanings together; of two faults the one nearer to the root counts, else the first. -/
def both {α β : Type} (a : Except Placed α) (b : Except Placed β) : Except Placed (α × β) :=
  match a, b with
  | .ok a, .ok b => .ok (a, b)
  | .error e, .ok _ => .error e
  | .ok _, .error f => .error f
  | .error e, .error f => .error (if f.level < e.level then f else e)

end Placed

namespace Node

/-- The mark of a key for the value of a mapping itself; as a key it is text. -/
def isValueMark : Node → Bool
  | .scalar text plain => plain && text = Scalar.valueMark
  | _ => false

def asKey (node : Node) (meaning : Except Placed Datum) (level : Nat) : Except Placed Datum :=
  if isValueMark node then .ok (.str Scalar.valueMark)
  else
    match meaning with
    | .ok (.list items) => .ok (.tuple items)
    | .ok (.mapping _) => .error ⟨level, .malformed⟩
    | other => other

/-- What is wrong with a key after others; it must not be one of them if keys are distinct. -/
def keyFault? (distinct : Bool) (seen : List Datum) (key : Datum) : Option Fault :=
  match key.changing? with
  | some kind => some (.changingKey kind)
  | none => if distinct && seen.any (Datum.sameKey key) then some .malformed else none

/-- Puts an entry into a mapping; a key keeps its first place and takes its last value. -/
def put (entries : List (Datum × Datum)) (entry : Datum × Datum) : List (Datum × Datum) :=
  if entries.any fun e => Datum.sameKey e.1 entry.1 then
    entries.map fun e => if Datum.sameKey e.1 entry.1 then (e.1, entry.2) else e
  else entries ++ [entry]

mutual

/-- What a part at a level stands for. In a key all parts are at one level. -/
def datum (inKey : Bool) (level : Nat) : Node → Except Placed Datum
  | .scalar text true => (Scalar.meaning text).mapError (⟨level, ·⟩)
  | .scalar text false => .ok (.str text)
  | .sequence items => (itemData inKey (if inKey then level else level + 1) items).map .list
  | .mapping distinct entries =>
    (entryData inKey (if inKey then level else level + 1) distinct [] entries).map fun es =>
      .mapping (es.foldl put [])

def itemData (inKey : Bool) (level : Nat) : List Node → Except Placed (List Datum)
  | [] => .ok []
  | v :: rest =>
    (Placed.both (datum inKey level v) (itemData inKey level rest)).map fun (v, rest) => v :: rest

def entryData (inKey : Bool) (level : Nat) (distinct : Bool) (seen : List Datum) :
    List (Node × Node) → Except Placed (List (Datum × Datum))
  | [] => .ok []
  | (k, v) :: rest =>
    match asKey k (datum true level k) level with
    | .error e => .error e
    | .ok key =>
      let checked : Except Placed Datum :=
        match keyFault? distinct seen key with
        | some f => .error ⟨level, f⟩
        | none => .ok key
      let entry := Placed.both (datum inKey level v) checked
      let others := entryData inKey level distinct (key :: seen) rest
      (Placed.both entry others).map fun ((v, key), rest) => (key, v) :: rest

end

def meaning (node : Node) : Except Fault Datum :=
  (node.withMerges.datum false 0).mapError (·.fault)

end Node
end KnotAtlas.Yaml
