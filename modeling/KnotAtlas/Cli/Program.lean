import KnotAtlas.Cli.Execute

/-!
The program as a whole: from the words of its command line to what it prints, what it logs, and its
exit code. The words say what is to be run; what is shown of the run depends on the console. The code
is zero if all went well, one if something went wrong, and two if the words make no sense.
-/

namespace KnotAtlas.Cli

/-- All that a run of the program shows. -/
structure Answer where
  exit : Nat
  /-- What was handed over to the console and taken. -/
  printed : List Print := []
  /-- What is seen of it. -/
  seen : List Print := []
  stdout : String := ""
  /-- The setup of logging at the end; none if the words make no sense. -/
  setup : Option Log.Setup := none
  escape : Option Escape := none
  events : List Log.Event := []

namespace Answer

def nonsense : Answer :=
  { exit := 2 }

def help (setup : Log.Setup) : Answer :=
  { exit := 0, setup := some setup }

def exitOf : Except Stop Unit → Nat
  | .ok _ => 0
  | .error _ => 1

def escapeOf : Except Stop Unit → Option Escape
  | .error (.escaped e) => some e
  | _ => none

def ofRun (c : Console) (setup : Log.Setup) (r : Run Unit) : Answer :=
  let r := r.on c
  { exit := exitOf r.outcome
    printed := r.printed
    seen := r.printed.filterMap fun p => (c p).toOption
    stdout := r.stdout
    setup := some (if r.tellsAll then setup.tellingAll else setup)
    escape := escapeOf r.outcome
    events := r.events }

end Answer

def Program.logIsFile (p : Program) (w : World) : Bool :=
  p.setup.directory.any (w.tree.isFile ·)

def Program.logFault? (p : Program) (w : World) : Option Escape :=
  p.setup.directory.bind fun path =>
    (w.tree.makeFault? path).map fun (path, fault) => .badPath path fault

/-- The paths of the files that a program may look at: its settings in either place, its log
directory, and what its command reads. -/
def Program.paths (p : Program) : List String :=
  let config := Files.plainPath (p.config.getD ".")
  let read :=
    match Command.request p.command p.words with
    | .run command => command.paths
    | _ => []
  config :: Files.join config Settings.fileName :: p.setup.directory.toList ++ read

def haveNull (paths : List String) : Bool :=
  paths.any (·.contains (Char.ofNat 0))

def stopAtNull : Run Unit :=
  Run.stop (.escaped .nullInPath)

/-- What the words of a command line come to, before any console comes into it. -/
inductive Plan where
  | nonsense
  | help (setup : Log.Setup)
  | run (setup : Log.Setup) (r : Run Unit)

namespace Plan

def printed : Plan → List Print
  | .run _ r => r.printed
  | _ => []

def answer (c : Console) : Plan → Answer
  | .nonsense => .nonsense
  | .help setup => .help setup
  | .run setup r => .ofRun c setup r

end Plan

def Program.plan (p : Program) (w : World) : Plan :=
  match Command.request p.command p.words with
  | .nonsense => .nonsense
  | .help => .help p.setup
  | .run command =>
    .run p.setup (if haveNull command.paths then stopAtNull else command.execute w p.config)

/-- Whether the words of a command line ask for help, of the program or of a command. -/
def asksForHelp (env : Settings.Environment) (words : List String) : Bool :=
  match Program.request env words with
  | .nonsense => false
  | .help => true
  | .run p =>
    match Command.request p.command p.words with
    | .help => true
    | _ => false

def plan (w : World) (words : List String) : Plan :=
  match Program.request w.env words with
  | .nonsense => .nonsense
  | .help => .help {}
  | .run p =>
    if p.logIsFile w then .nonsense
    else if haveNull (p.config.toList ++ p.setup.directory.toList) then .run {} stopAtNull
    else
      match p.logFault? w with
      | some e => .run {} (Run.stop (.escaped e))
      | none => p.plan w

def run (w : World) (c : Console) (words : List String) : Answer :=
  (plan w words).answer c

end KnotAtlas.Cli
