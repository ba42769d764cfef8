import KnotAtlas.Files.Tree
import KnotAtlas.Settings.Reading
import KnotAtlas.Text.Utf8
import KnotAtlas.Yaml.Reader

/-!
Settings from a file. A directory stands for the file of the usual name in it; a file that is not
there means the defaults. Whatever is wrong with a file that is there is reported with the file's
path, and whatever is wrong with the environment is reported as such.
-/

namespace KnotAtlas.Settings

def fileName : String := "inkscope.yaml"

/-- What makes a value of a text, or finds a fault of kind `φ` in it. -/
abbrev Reader (φ : Type) := List Char → Except φ Datum

/-- Why settings cannot be loaded, and from where, if texts are read with faults of kind `φ`. -/
inductive LoadErrorBy (φ : Type) where
  /-- The path cannot be asked for. -/
  | badPath (path : String) (fault : Files.Fault)
  | yaml (path : String) (fault : φ)
  | unreadable (path : String) (fault : Files.Fault)
  | notUtf8 (path : String) (fault : Text.Utf8.Fault)
  | notMapping (path : String)
  | invalid (path : String) (error : Error)
  | environment (error : Error)

abbrev LoadError := LoadErrorBy Yaml.Fault

namespace LoadErrorBy

variable {φ : Type}

def source : LoadErrorBy φ → String
  | .badPath path _ => path
  | .yaml path _ => path
  | .unreadable path _ => path
  | .notUtf8 path _ => path
  | .notMapping path => path
  | .invalid path _ => path
  | .environment _ => "environment"

/-- What the fault is, where it is told in words; `tell` words the faults of the reader. -/
def reason? (tell : φ → Option String) : LoadErrorBy φ → Option String
  | .badPath path fault => some (fault.withPath path)
  | .yaml _ fault => tell fault
  | .unreadable path fault => some (fault.withPath path)
  | .notUtf8 _ fault => some fault.message
  | .notMapping _ => some "Top level must be a mapping"
  | .invalid _ error => some error.message
  | .environment error => some error.message

/-- The wording of a load error whose reason is known. A path that cannot be asked for is told as
such, before any settings come into it. -/
def message? (tell : φ → Option String) (e : LoadErrorBy φ) : Option String :=
  match e with
  | .badPath .. => e.reason? tell
  | e => (e.reason? tell).map fun reason =>
      s!"Failed to load inkscope config from {e.source}: {reason}"

end LoadErrorBy

section Reading

variable {φ : Type} [Datum.ShowLimit]

/-- Settings from the data of a file; no data at all mean the defaults. -/
def ofDatum (path : String) (v : Datum) : Except (LoadErrorBy φ) Settings :=
  match v with
  | .null => .ok {}
  | .mapping entries => (ofEntries entries).mapError (.invalid path)
  | _ => .error (.notMapping path)

def ofBytes (read : Reader φ) (path : String) (bytes : List UInt8) :
    Except (LoadErrorBy φ) Settings :=
  match Text.Utf8.decode bytes with
  | .error fault => .error (.notUtf8 path fault.inBlocks)
  | .ok cs => do ofDatum path (← (read (Text.plainLineEnds cs)).mapError (.yaml path))

def filePath (tree : Files.Tree) (path : String) : String :=
  let plain := Files.plainPath path
  if tree.isDirectory plain then Files.join plain fileName else plain

def ofPath (read : Reader φ) (tree : Files.Tree) (path : String) :
    Except (LoadErrorBy φ) Settings :=
  let file := filePath tree path
  match tree.look file with
  | .ok (.file bytes) => ofBytes read file bytes
  | .ok .directory => .error (.unreadable file .isDirectory)
  | .error .tooLong => .error (.badPath file .tooLong)
  | .error _ => .ok {}

/-- Settings from a file, if one is given, and from the environment; `read` makes data of the text
of the file. -/
def loadBy (read : Reader φ) (tree : Files.Tree) (path : Option String) (env : Environment) :
    Except (LoadErrorBy φ) Settings := do
  let settings ←
    match path with
    | some path => ofPath read tree path
    | none => .ok {}
  (settings.withEnvironment env).mapError .environment

end Reading

/-- Settings from a YAML file, if one is given, and from the environment. -/
def load [Datum.ShowLimit] (tree : Files.Tree) (path : Option String) (env : Environment) :
    Except LoadError Settings :=
  loadBy Yaml.read tree path env

end KnotAtlas.Settings
