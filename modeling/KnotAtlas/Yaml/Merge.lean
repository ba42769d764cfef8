import KnotAtlas.Yaml.Node
import KnotAtlas.Yaml.Scalar.Kind

/-!
Merge keys. The entries of the mappings under such a key come before the other entries of its
mapping, whose keys need not be distinct any more. A merge key that cannot be followed stays, in
front of the other entries.
-/

namespace KnotAtlas.Yaml.Node

def isMergeKey : Node → Bool
  | .scalar text plain => plain && text = Scalar.mergeMark
  | _ => false

def entries? : Node → Option (List (Node × Node))
  | .mapping _ entries => some entries
  | _ => none

/-- The entries that the value of a merge key stands for: those of a mapping, or those of the
mappings in a sequence, the last one first. -/
def mergeEntries? : Node → Option (List (Node × Node))
  | .mapping _ entries => some entries
  | .sequence items => (items.mapM entries?).map (·.reverse.flatten)
  | .scalar _ _ => none

/-- Entries that are told apart: merged ones, own ones, and a merge key that cannot be followed. -/
structure Parted where
  merged : List (Node × Node) := []
  own : List (Node × Node) := []
  lost : List (Node × Node) := []

/-- Takes one more entry. A mapping has one merge key, unless the first one brings nothing. -/
def Parted.add (p : Parted) (entry : Node × Node) : Parted :=
  if isMergeKey entry.1 then
    match p.merged.isEmpty, mergeEntries? entry.2 with
    | true, some merged => { p with merged }
    | _, _ => { p with lost := p.lost ++ [entry] }
  else { p with own := p.own ++ [entry] }

def ofEntries (entries : List (Node × Node)) : Node :=
  let p := entries.foldl Parted.add {}
  .mapping p.merged.isEmpty (p.lost ++ p.merged ++ p.own)

mutual

def withMerges : Node → Node
  | .scalar text plain => .scalar text plain
  | .sequence items => .sequence (itemsWithMerges items)
  | .mapping _ entries => ofEntries (entriesWithMerges entries)

def itemsWithMerges : List Node → List Node
  | [] => []
  | v :: rest => withMerges v :: itemsWithMerges rest

/-- `withMerges` for keys and values. -/
def entriesWithMerges : List (Node × Node) → List (Node × Node)
  | [] => []
  | (key, v) :: rest => (withMerges key, withMerges v) :: entriesWithMerges rest

end

end KnotAtlas.Yaml.Node
