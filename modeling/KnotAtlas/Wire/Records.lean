import KnotAtlas.Atlas.Queries
import KnotAtlas.Wire.Reading

/-!
The records in which graphs, structure reports and knots are handed over: reading them from values,
and writing them as values. Choice marks of links are read but never written.
-/

namespace KnotAtlas.Wire

/-- The counts and lists of a structure report. -/
structure Stats where
  totalKnots : Int := 0
  totalConnections : Int := 0
  unreachableKnots : List String := []
  deadEnds : List String := []
  entryPoints : List String := []
  deriving DecidableEq, Repr

structure Report where
  graph : Graph := {}
  stats : Stats := {}
  deriving DecidableEq, Repr

def Report.ofStructure (r : StructureReport) : Report :=
  { graph := r.graph
    stats :=
      { totalKnots := r.totalKnots
        totalConnections := r.totalLinks
        unreachableKnots := r.unreachable
        deadEnds := r.deadEnds
        entryPoints := r.entryPoints } }

def field {α : Type} (ms : Members) (words : String) (default : α) (read : Reading α) :
    Checked α :=
  withDefault ms (keyOf ms words) default read

def readKnot : Reading String := record fun ms => required ms "id" name

def readLink : Reading Link := record fun ms =>
  Link.mk <$> required ms "source" text <*> required ms "target" text
    <*> withDefault ms "label" blankLabel text <*> withDefault ms "is_choice" false switch

def graphFields (ms : Members) : Checked Graph :=
  Graph.mk <$> withDefault ms "nodes" [] (listOf readKnot)
    <*> withDefault ms "links" [] (listOf readLink)

def readGraph : Reading Graph := record graphFields

def readInfo : Reading KnotInfo := record fun ms =>
  KnotInfo.mk <$> required ms "name" text
    <*> field ms "file_path" none (optional text)
    <*> field ms "line_number" none (optional lineNumber)
    <*> field ms "is_current" none (optional switch)
    <*> field ms "is_reachable" none (optional switch)
    <*> field ms "sources" none (optional (listOf text))
    <*> field ms "targets" none (optional (listOf text))

def readStats : Reading Stats := record fun ms =>
  Stats.mk <$> field ms "total_knots" 0 integer
    <*> field ms "total_connections" 0 integer
    <*> field ms "unreachable_knots" [] (listOf text)
    <*> field ms "dead_ends" [] (listOf text)
    <*> field ms "entry_points" [] (listOf text)

def readReport : Reading Report := record fun ms =>
  Report.mk <$> graphFields ms <*> withDefault ms "stats" {} readStats

def textsValue (xs : List String) : Value :=
  .list (xs.map .str)

def optionValue {α : Type} (write : α → Value) : Option α → Value
  | some a => write a
  | none => .null

def knotValue (knot : String) : Value :=
  .object [("id", .str knot)]

def linkValue (l : Link) : Value :=
  .object [("source", .str l.source), ("target", .str l.target), ("label", .str l.label)]

def graphMembers (g : Graph) : Members :=
  [("nodes", .list (g.knots.map knotValue)), ("links", .list (g.links.map linkValue))]

def graphValue (g : Graph) : Value :=
  .object (graphMembers g)

def infoValue (i : KnotInfo) : Value :=
  .object
    [("name", .str i.name), ("filePath", optionValue .str i.filePath),
      ("lineNumber", optionValue (fun n => .int n) i.lineNumber),
      ("isCurrent", optionValue .bool i.isCurrent),
      ("isReachable", optionValue .bool i.isReachable),
      ("sources", optionValue textsValue i.sources),
      ("targets", optionValue textsValue i.targets)]

def statsValue (s : Stats) : Value :=
  .object
    [("totalKnots", .int s.totalKnots), ("totalConnections", .int s.totalConnections),
      ("unreachableKnots", textsValue s.unreachableKnots), ("deadEnds", textsValue s.deadEnds),
      ("entryPoints", textsValue s.entryPoints)]

def reportValue (r : Report) : Value :=
  .object (graphMembers r.graph ++ [("stats", statsValue r.stats)])

mutual

def withoutNulls : Value → Value
  | .list items => .list (withoutNullsItems items)
  | .object members => .object (withoutNullsMembers members)
  | v => v

def withoutNullsItems : List Value → List Value
  | [] => []
  | v :: rest => withoutNulls v :: withoutNullsItems rest

def withoutNullsMembers : List (String × Value) → List (String × Value)
  | [] => []
  | (_, .null) :: rest => withoutNullsMembers rest
  | (key, v) :: rest => (key, withoutNulls v) :: withoutNullsMembers rest

end

end KnotAtlas.Wire
