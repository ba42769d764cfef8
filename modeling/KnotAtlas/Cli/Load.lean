import KnotAtlas.Cli.Run
import KnotAtlas.Files.Text
import KnotAtlas.Settings.File

/-!
What commands load: settings, a compiled story, and source files. Settings and the story are
needed; a source file that cannot be opened is passed over with a word about it.
-/

namespace KnotAtlas.Cli

/-- What a command can see: files, the environment, and the clock. -/
structure World where
  tree : Files.Tree
  env : Settings.Environment
  /-- Makes data of the text of a settings file; a fault may come without words. -/
  read : Settings.Reader (Option String)
  /-- The readings of the clock, one after another; some may go unused. -/
  clock : Nat → Seconds

namespace World

/-- The world once the clock was read some times. -/
def later (w : World) (readings : Nat) : World :=
  { w with clock := fun i => w.clock (readings + i) }

/-- The settings of a world, from the working directory unless a path is given. -/
def settings (w : World) (config : Option String) :
    Except (Settings.LoadErrorBy (Option String)) Settings :=
  Settings.loadBy w.read w.tree (some (config.getD ".")) w.env

end World

def errorLine (message : String) : String :=
  "[red]Error:[/red] " ++ message

def settingsMessage (e : Settings.LoadErrorBy (Option String)) : String :=
  (e.message? id).getD s!"Failed to load inkscope config from {e.source}"

def loadSettings (w : World) (config : Option String) : Run Settings :=
  match w.settings config with
  | .error (.badPath path fault) => Run.stop (.escaped (.badPath path fault))
  | .error e => Run.refuse (errorLine (settingsMessage e))
  | .ok settings => do
    if settings.debug.isOn then Run.tellAll
    return settings

def readStory (w : World) (path : String) : Run Value :=
  match w.tree.read path with
  | .error fault =>
    Run.refuse (errorLine s!"Cannot read '{Files.plainPath path}': {fault.message}")
  | .ok bytes =>
    match (Story.Source.bytes bytes).load with
    | .ok v => pure v
    | .error (.malformed fault) => Run.refuse (errorLine fault.message)
    | .error (.integerTooLong digits) => Run.stop (.escaped (.story (.integerTooLong digits)))

/-- Gives an atlas a compiled story, which must have knots. The clock is read twice. -/
def addStory (w : World) (path : String) (document : Value) (a : Atlas Seconds) :
    Run (Atlas Seconds) := do
  match ← Run.ofLogged (a.setStory (w.clock 0) (w.clock 1) (.ofValue document)) with
  | (.error e, _) => Run.stop (.escaped (.story e))
  | (.ok none, _) => Run.refuse (errorLine s!"No knots found in '{Files.plainPath path}'")
  | (.ok (some _), a) => return a

def addSource (w : World) (a : Atlas Seconds) (path : String) : Run (Atlas Seconds) :=
  let shown := Files.plainPath path
  match w.tree.readText path with
  | .error (.unreadable fault) => do
    Run.say s!"[yellow]![/yellow] Skipping '{shown}': {fault.message}"
    return a
  | .error (.notUtf8 fault) => Run.stop (.escaped (.notUtf8 fault))
  | .ok content => Prod.snd <$> Run.ofLogged (a.addSource (w.clock 0) shown content)

def addSources (w : World) (a : Atlas Seconds) : List String → Run (Atlas Seconds)
  | [] => pure a
  | path :: rest => do
    let a ← addSource w a path
    addSources (w.later 1) a rest

/-- How often the clock is read while a story and some source files are loaded. -/
def loadReadings (sources : List String) : Nat :=
  2 + sources.length

def loadAtlas (w : World) (config : Option String) (story : String) (sources : List String) :
    Run (Atlas Seconds) := do
  let settings ← loadSettings w config
  let document ← readStory w story
  let a ← addStory w story document (Atlas.create settings)
  addSources (w.later 2) a sources

end KnotAtlas.Cli
