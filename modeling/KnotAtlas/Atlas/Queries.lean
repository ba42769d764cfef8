import KnotAtlas.Atlas.Basic
import KnotAtlas.Integrity.Checks
import KnotAtlas.Text.Lowercase

/-!
What an atlas knows: all knots, where each is declared and how it is linked, which match a query,
and how sound the story is. Only what is fresh counts.
-/

namespace KnotAtlas

/-- What is known of one knot. -/
structure KnotInfo where
  name : String
  filePath : Option String := none
  lineNumber : Option Nat := none
  isCurrent : Option Bool := none
  isReachable : Option Bool := none
  sources : Option (List String) := none
  targets : Option (List String) := none
  deriving DecidableEq, Repr

namespace Atlas

variable {τ : Type}

def sortedNames (names : List String) : List String :=
  names.eraseDups.mergeSort (· ≤ ·)

/-- What is known of the caches. -/
structure Stats (τ : Type) where
  sourceFiles : Nat
  sourceSize : Nat
  compiledAge : Option τ

section Sources

variable [Sub τ] [LT τ] [DecidableLT τ]

def freshSources (a : Atlas τ) (now : τ) : List (Source.Scan τ) :=
  a.sources.served now

def knotsInFile (a : Atlas τ) (now : τ) (path : String) : List String :=
  ((a.sources.get? now path).map (·.knots)).getD []

def variablesInFile (a : Atlas τ) (now : τ) (path : String) : List String :=
  ((a.sources.get? now path).map (·.variableNames)).getD []

def allVariables (a : Atlas τ) (now : τ) : List String :=
  sortedNames ((a.freshSources now).flatMap (·.variableNames))

end Sources

/-- The compiled story, unless it is as old as it may get. -/
def freshStory? [Sub τ] [LE τ] [DecidableLE τ] (a : Atlas τ) (now : τ) :
    Option (CompiledStory τ) :=
  a.compiled.filter fun c => !decide (a.compiledTtl ≤ now - c.compiledAt)

def stats [Sub τ] (a : Atlas τ) (now : τ) : Stats τ :=
  ⟨a.sources.entries.length, a.sources.totalSize, a.compiled.map (now - ·.compiledAt)⟩

/-- How well a name matches a query in lower case: it is the query, starts with it, or holds it. -/
def matchRank (query name : String) : Nat :=
  let lowered := Text.lower name
  if lowered = query then 0 else if query.isPrefixOf lowered then 1 else 2

def matchBefore (query a b : String) : Bool :=
  let i := matchRank query a
  let j := matchRank query b
  i < j || (i == j && a ≤ b)

/-- The names that hold a query, letters of either case being alike; the best matches first. -/
def searchNames (known : List String) (query : String) : List String :=
  let query := Text.lower query
  let found := known.filter fun name =>
    Integrity.occursIn query.toList (Text.lower name).toList
  found.mergeSort (matchBefore query)

section Stories

variable [Sub τ] [LT τ] [DecidableLT τ] [LE τ] [DecidableLE τ]

def allKnots (a : Atlas τ) (now : τ) : List String :=
  match a.freshStory? now with
  | some c => c.knots
  | none => sortedNames ((a.freshSources now).flatMap (·.knots))

def declaration? (a : Atlas τ) (now : τ) (name : String) : Option (Source.Scan τ) :=
  (a.freshSources now).find? (name ∈ ·.knots)

def knotInfo (a : Atlas τ) (now : τ) (name : String) : KnotInfo :=
  let scan := a.declaration? now name
  let story := a.freshStory? now
  { name
    filePath := scan.map (·.path)
    lineNumber := scan.bind fun s => Source.knotLine? s.content name
    isReachable := story.map fun c => name ∈ c.knots && name ∉ c.report.unreachable
    sources := story.map fun c => sourcesOf c.graph.links name
    targets := story.map fun c => targetsOf c.graph.links name }

def search (a : Atlas τ) (now : τ) (query : String) : List KnotInfo :=
  (searchNames (a.allKnots now) query).map (a.knotInfo now)

def structureReport? (a : Atlas τ) (now : τ) : Option StructureReport :=
  (a.freshStory? now).map (·.report)

def diagnostics? (a : Atlas τ) (now : τ) : Option Story.Diagnostics :=
  (a.freshStory? now).map (·.diagnostics)

/-- Checks the compiled story. The clock is read for its structure, and again for what was found
while it was built; the names that are `known` come last. -/
def integrity (a : Atlas τ) (now noted : τ) (known : List String) : Logged Integrity.Report :=
  match a.structureReport? now with
  | none => pure Integrity.missingStory
  | some found => do
    let report := Integrity.inspect found ((a.diagnostics? noted).getD {}) known
    Log.emit .info logger "story_integrity_checked" [("summary", .str report.summary)]
    return report

end Stories

end Atlas
end KnotAtlas
