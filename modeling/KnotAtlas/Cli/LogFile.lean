import KnotAtlas.Cli.Program
import KnotAtlas.Log.Entry

/-!
The log file of a run. A run appends its entries to those that the file held before; entries of
other files stay as they were.
-/

namespace KnotAtlas.Cli

def entryOnLine? (line : String) : Option Log.Entry :=
  match Json.read Story.limits line.toList with
  | .ok (.object members) => some members
  | _ => none

def World.entries (w : World) (path : String) : List Log.Entry :=
  match w.tree.readText path with
  | .ok text => (Text.splitOn '\n' text).filterMap entryOnLine?
  | .error _ => []

def logPath (directory : String) : String :=
  Files.join (Files.plainPath directory) Log.Setup.fileName

namespace Answer

def logsTo (a : Answer) (path : String) : Bool :=
  (a.setup.bind (·.directory)).any fun directory =>
    Files.destination (logPath directory) = Files.destination path

def appended (a : Answer) : List Log.Entry :=
  a.setup.toList.flatMap fun setup =>
    setup.entries "" (fun _ => true) (a.events.map (·.record ""))

/-- The entries that a file holds after a run. -/
def entries (w : World) (a : Answer) (path : String) : List Log.Entry :=
  w.entries path ++ if a.logsTo path then a.appended else []

theorem entries_prefix_entries (w : World) (a : Answer) (path : String) :
    w.entries path <+: a.entries w path :=
  List.prefix_append ..

end Answer
end KnotAtlas.Cli
