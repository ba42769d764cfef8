import KnotAtlas.Atlas.Queries
import KnotAtlas.Cli.Command
import KnotAtlas.Cli.Load
import KnotAtlas.Json.Writer
import KnotAtlas.View.Dot
import KnotAtlas.View.Mermaid
import KnotAtlas.Wire.Records

/-!
The commands themselves. Each says what it found on the console; a graph goes to the standard
output.
-/

namespace KnotAtlas.Cli

namespace World

/-! ### What is asked of an atlas, with the clock read for each source file and for the story -/

/-- How often the clock is read, at most, while all source files and the story are looked at. -/
def readings (a : Atlas Seconds) : Nat :=
  a.sources.entries.length + 1

def freshSources (w : World) (a : Atlas Seconds) : List (Source.Scan Seconds) :=
  (a.sources.entries.map (·.2)).zipIdx.filterMap fun (s, i) =>
    if a.sources.isFresh (w.clock i) s.path then some s else none

/-- All knots; source files are looked at only without a story. -/
def allKnots (w : World) (a : Atlas Seconds) : List String :=
  match a.freshStory? (w.clock 0) with
  | some c => c.knots
  | none => Atlas.sortedNames (((w.later 1).freshSources a).flatMap (·.knots))

/-- What is known of a knot; the story comes last. -/
def knotInfo (w : World) (a : Atlas Seconds) (name : String) : KnotInfo :=
  let scan := (w.freshSources a).find? (name ∈ ·.knots)
  { a.knotInfo (w.clock a.sources.entries.length) name with
    filePath := scan.map (·.path)
    lineNumber := scan.bind fun s => Source.knotLine? s.content name }

def knotInfos (w : World) (a : Atlas Seconds) : List String → List KnotInfo
  | [] => []
  | name :: rest => w.knotInfo a name :: (w.later (readings a)).knotInfos a rest

def integrity (w : World) (a : Atlas Seconds) : Logged Integrity.Report :=
  a.integrity (w.clock 0) (w.clock 1) ((w.later 2).allKnots a)

end World

def versionNumber : String := "0.1.0"

/-- Names joined for a cell of a table; a dash stands for none. -/
def namesCell (names : List String) : String :=
  if names.isEmpty then "-" else ", ".intercalate names

def printTable (t : Table) : Run Unit := do
  Run.say ""
  Run.print (.table t)
  Run.say ""

def graphText (report : StructureReport) (format : Format) (current : Option String)
    (noLabels : Bool) : Logged String :=
  match format with
  | .json => pure (Json.indented 0 (Wire.reportValue (.ofStructure report)))
  | .dot => View.Dot.render noLabels <$> View.build report.graph current
  | .mermaid => View.Mermaid.render noLabels <$> View.build report.graph current

def showGraph (w : World) (a : Atlas Seconds) (format : Format) (current : Option String)
    (noLabels : Bool) : Run Unit :=
  match a.structureReport? (w.clock 0) with
  | none => Run.refuse (errorLine "Compiled story cache is disabled")
  | some report => do
    let text ← Run.ofLogged (graphText report format current noLabels)
    Run.echo text

def severityMark : Integrity.Severity → String
  | .pass => "[green]✓[/green]"
  | .warn => "[yellow]![/yellow]"
  | .fail => "[red]✗[/red]"
  | .other word => word

/-- The name of a check as a title: words apart, the first letter large. -/
def checkTitle (name : String) : String :=
  match name.toList.map fun c => if c = '_' then ' ' else c with
  | [] => ""
  | c :: rest => String.ofList (c.toUpper :: rest.map Char.toLower)

def sayCheck (c : Integrity.Check) : Run Unit :=
  Run.say s!"  {severityMark c.severity} {checkTitle c.name}: {c.message}"

def sayAdvice (suggestions : List String) : Run Unit :=
  if suggestions.isEmpty then pure ()
  else do
    Run.say ""
    Run.say "[bold]Suggestions[/bold]"
    (suggestions.flatMap Text.lines).forM fun line => Run.print (.plain ("  • " ++ line))

def listedUnlocated : Nat := 10

def unlocated (w : World) (a : Atlas Seconds) : List String :=
  let infos := (w.later (World.readings a)).knotInfos a (w.allKnots a)
  (infos.filter (·.filePath.isNone)).map (·.name)

def sayUnlocated (knots : List String) : Run Unit :=
  if knots.isEmpty then pure ()
  else do
    let listed := ", ".intercalate (knots.take listedUnlocated)
    let more := if listedUnlocated < knots.length then " ..." else ""
    Run.say ""
    Run.say
      s!"[dim]{knots.length} knots not found in the given sources: {listed}{more}[/dim]"

def validate (w : World) (a : Atlas Seconds) (story : String) (sources : List String)
    (strict : Bool) : Run Unit := do
  let report ← Run.ofLogged (w.integrity a)
  Run.say s!"[bold]Story integrity:[/bold] {Files.baseName story}"
  Run.say ""
  report.checks.forM sayCheck
  sayAdvice report.suggestions
  let asked := w.later (2 + World.readings a)
  sayUnlocated (if sources.isEmpty then [] else unlocated asked a)
  Run.say ""
  if !report.isValid || (strict && !report.warnings.isEmpty) then
    Run.refuse s!"[red]Validation failed:[/red] {report.summary}"
  else Run.say s!"[green]Validation passed:[/green] {report.summary}"

def locationCell (info : KnotInfo) : String :=
  match info.filePath, info.lineNumber with
  | none, _ => "-"
  | some file, some line => s!"{file}:{line}"
  | some file, none => file

def foundRow (info : KnotInfo) : List String :=
  [info.name, locationCell info,
    if info.isReachable = some true then "[green]yes[/green]" else "[red]no[/red]",
    namesCell (info.targets.getD [])]

def search (w : World) (a : Atlas Seconds) (query : String) : Run Unit :=
  match (w.later (World.readings a)).knotInfos a (Atlas.searchNames (w.allKnots a) query) with
  | [] => Run.refuse s!"No knots match '{query}'"
  | found =>
    printTable
      ⟨s!"Knots matching '{query}'", ["Knot", "Location", "Reachable", "Targets"],
        found.map foundRow⟩

def requireKnown (known : List String) (knot : String) : Run Unit :=
  if knot ∈ known then pure ()
  else Run.refuse (errorLine s!"Unknown knot '{knot}'")

def showPath (w : World) (a : Atlas Seconds) (start goal : String) : Run Unit := do
  let known := w.allKnots a
  requireKnown known start
  requireKnown known goal
  match a.layer.path? (w.clock (World.readings a)) start goal with
  | none => Run.refuse s!"[yellow]No path from {start} to {goal}[/yellow]"
  | some route =>
    Run.say (" → ".intercalate (route.map fun knot => s!"[cyan]{knot}[/cyan]"))
    Run.say s!"[dim]{route.length - 1} steps[/dim]"

def scanRow (path content : String) : List String :=
  [path, namesCell (Source.knots content), namesCell (Source.variableNames content)]

/-- Scans one source file: its row, or none with a word about it if it cannot be opened. -/
def scanFile (w : World) (path : String) : Run (Option (List String)) :=
  let shown := Files.plainPath path
  match w.tree.readText path with
  | .ok content => pure (some (scanRow shown content))
  | .error (.unreadable fault) => do
    Run.say s!"[red]✗[/red] Cannot read '{shown}': {fault.message}"
    return none
  | .error (.notUtf8 fault) => Run.stop (.escaped (.notUtf8 fault))

def scan (w : World) (files : List String) : Run Unit := do
  let rows ← files.mapM (scanFile w)
  printTable ⟨"Ink sources", ["File", "Knots", "Variables"], rows.filterMap id⟩
  if rows.any Option.isNone then Run.stop .refused

/-- Runs a command; `config` is where its settings are, if that was said. What is done after loading
comes after the readings of the clock that loading takes. -/
def Command.execute (w : World) (config : Option String) : Command → Run Unit
  | .version => Run.say s!"inkscope v{versionNumber}"
  | .graph story format current noLabels => do
    let a ← loadAtlas w config story []
    showGraph (w.later (loadReadings [])) a format current noLabels
  | .validate story sources strict => do
    let a ← loadAtlas w config story sources
    Cli.validate (w.later (loadReadings sources)) a story sources strict
  | .search story query sources => do
    let a ← loadAtlas w config story sources
    Cli.search (w.later (loadReadings sources)) a query
  | .path story start goal => do
    let a ← loadAtlas w config story []
    showPath (w.later (loadReadings [])) a start goal
  | .scan files => Cli.scan w files

end KnotAtlas.Cli
