import KnotAtlas.Cli.Arguments
import KnotAtlas.Log.Setup
import KnotAtlas.Settings.Reading

/-!
The commands of the command line, and how they are read from its words. Options of the program as a
whole stand before the name of the command, those of a command after it.
-/

namespace KnotAtlas.Cli

inductive Format where
  | json
  | dot
  | mermaid
  deriving DecidableEq, Repr

def Format.word : Format → String
  | .json => "json"
  | .dot => "dot"
  | .mermaid => "mermaid"

def Format.ofWord? (word : String) : Option Format :=
  [Format.json, .dot, .mermaid].find? (·.word = word)

/-- A command with what it is applied to; stories, sources and files are given by their paths. -/
inductive Command where
  | version
  | graph (story : String) (format : Format) (current : Option String) (noLabels : Bool)
  | validate (story : String) (sources : List String) (strict : Bool)
  | search (story query : String) (sources : List String)
  | path (story start goal : String)
  | scan (files : List String)
  deriving DecidableEq, Repr

namespace Command

inductive Name where
  | version
  | graph
  | validate
  | search
  | path
  | scan
  deriving DecidableEq, Repr

def Name.word : Name → String
  | .version => "version"
  | .graph => "graph"
  | .validate => "validate"
  | .search => "search"
  | .path => "path"
  | .scan => "scan"

def Name.ofWord? (word : String) : Option Name :=
  [Name.version, .graph, .validate, .search, .path, .scan].find? (·.word = word)

inductive Key where
  | help
  | format
  | current
  | noLabels
  | source
  | strict
  deriving DecidableEq, Repr

def helpSpec : OptionSpec Key :=
  { key := .help, long := "--help" }

def sourceSpec : OptionSpec Key :=
  { key := .source, long := "--source", letter := 's', takesValue := true }

def Name.specs : Name → List (OptionSpec Key)
  | .graph =>
    [helpSpec, { key := .format, long := "--format", letter := 'f', takesValue := true },
      { key := .current, long := "--current", takesValue := true },
      { key := .noLabels, long := "--no-labels" }]
  | .validate => [helpSpec, sourceSpec, { key := .strict, long := "--strict" }]
  | .search => [helpSpec, sourceSpec]
  | .version => [helpSpec]
  | .path => [helpSpec]
  | .scan => [helpSpec]

def formatOf? (words : Words Key) : Option Format :=
  match words.last? .format with
  | some word => Format.ofWord? word
  | none => some .json

/-- The command that words give, if their number is right and its options make sense. -/
def ofWords? (name : Name) (w : Words Key) : Option Command :=
  match name, w.positional with
  | .version, [] => some .version
  | .graph, [story] =>
    (formatOf? w).map fun format => .graph story format (w.last? .current) (w.has .noLabels)
  | .validate, [story] => some (.validate story (w.values .source) (w.has .strict))
  | .search, [story, query] => some (.search story query (w.values .source))
  | .path, [story, start, goal] => some (.path story start goal)
  | .scan, file :: files => some (.scan (file :: files))
  | _, _ => none

end Command

def Command.paths : Command → List String
  | .version => []
  | .graph story .. => [story]
  | .validate story sources _ => story :: sources
  | .search story _ sources => story :: sources
  | .path story .. => [story]
  | .scan files => files

/-- What words ask for: something to do, or help; words that make no sense ask for nothing. -/
inductive Request (α : Type) where
  | run (a : α)
  | help
  | nonsense

def Command.request (name : Command.Name) (words : List String) : Request Command :=
  match readWords name.specs true words with
  | none => .nonsense
  | some w =>
    if w.has .help then .help
    else
      match Command.ofWords? name w with
      | some c => .run c
      | none => .nonsense

inductive ProgramKey where
  | help
  | verbose
  | log
  | config
  deriving DecidableEq, Repr

def programSpecs : List (OptionSpec ProgramKey) :=
  [{ key := .help, long := "--help" },
    { key := .verbose, long := "--verbose", letter := 'v' },
    { key := .log, long := "--log", takesValue := true },
    { key := .config, long := "--config", letter := 'c', takesValue := true }]

/-- What the options of the program as a whole ask for, the name of the command, and the words after
it. -/
structure Program where
  setup : Log.Setup
  config : Option String
  command : Command.Name
  words : List String

def configVariable : String := "INKSCOPE_CONFIG"

/-- The settings file that options or the environment name; an empty variable names none. -/
def configOf (env : Settings.Environment) (w : Words ProgramKey) : Option String :=
  (w.last? .config).or ((env.find? configVariable).filter (· != ""))

def Program.request (env : Settings.Environment) (words : List String) : Request Program :=
  match readWords programSpecs false words with
  | none => .nonsense
  | some w =>
    if w.has .help then .help
    else
      match w.positional with
      | [] => .nonsense
      | name :: rest =>
        match Command.Name.ofWord? name with
        | none => .nonsense
        | some command =>
          .run
            { setup := ⟨w.count .verbose, w.last? .log⟩
              config := configOf env w
              command
              words := rest }

end KnotAtlas.Cli
