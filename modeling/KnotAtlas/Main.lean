import KnotAtlas.Cli.Console
import KnotAtlas.Json.Writer
import KnotAtlas.Log.Entry

/-!
The program: it gathers the files and variables that its command line names, runs it, and shows the
answer. Times in the log file are readings of the machine's clock in milliseconds.
-/

open KnotAtlas

namespace KnotAtlas.Main

/-- What stands under a path; none if nothing can be read there. -/
def readNode (path : String) : IO (Option Files.Node) := do
  try
    let bytes ← IO.FS.readBinFile path
    return some (.file bytes.toList)
  catch
    | .inappropriateType .. => return some .directory
    | _ => return none

/-- A path and the paths of the directories on the way to it, outermost first. -/
def onTheWay (path : String) : List String :=
  let lead := if "/".isPrefixOf path then "/" else ""
  let parts := Files.components path
  (List.range parts.length).map fun n => lead ++ "/".intercalate (parts.take (n + 1))

/-- The files and directories under some paths. A path that goes on after a file may come out as a
directory; it is never looked up, since the file comes first. -/
def readTree (paths : List String) : IO Files.Tree := do
  let mut entries : List (String × Files.Node) := []
  for path in (paths.flatMap onTheWay).eraseDups do
    if let some node ← readNode path then
      entries := entries ++ [(path, node)]
  return Files.ofList entries

def variableNames : List String :=
  Cli.configVariable :: Settings.environmentKeys.filterMap Settings.Key.variable?

def readEnvironment : IO Settings.Environment := do
  let mut env : Settings.Environment := []
  for name in variableNames do
    if let some value ← IO.getEnv name then
      env := env.insert name value
  return env

def writeLog (setup : Log.Setup) (directory : String) (events : List Log.Event) : IO Unit := do
  IO.FS.createDirAll directory
  let time := toString (← IO.monoMsNow)
  let file ← IO.FS.Handle.mk (Files.join (Files.plainPath directory) Log.Setup.fileName) .append
  for entry in setup.entries time (fun _ => true) (events.map (·.record time)) do
    file.putStrLn (Json.compact (.object entry))

def tell (setup : Log.Setup) (events : List Log.Event) : IO Unit := do
  if let some directory := setup.directory then
    writeLog setup directory events
  for e in setup.shown events do
    IO.eprintln (Cli.eventLine e)

/-- Shows an answer; without a setup there is nothing to show but how the program is used. -/
def present (a : Cli.Answer) : IO Unit := do
  match a.setup with
  | none =>
    for line in Cli.usage do
      IO.eprintln line
  | some setup => tell setup a.events
  for line in a.seen.flatMap Cli.Print.lines do
    IO.println line
  IO.print a.stdout
  if let some e := a.escape then
    IO.eprintln s!"Error: {e.message}"

end KnotAtlas.Main

def main (words : List String) : IO UInt32 := do
  let env ← Main.readEnvironment
  let now := Seconds.floating ((← IO.monoMsNow).toFloat / 1000)
  let paths :=
    match Cli.Program.request env words with
    | .run p => p.paths
    | _ => []
  let tree ← Main.readTree paths
  -- no time goes by while the program is evaluated
  let world : Cli.World :=
    { tree, env
      read := fun text => (Yaml.read text).mapError Yaml.Fault.message?
      clock := fun _ => now }
  let answer := Cli.run world Cli.terminal words
  Main.present answer
  if Cli.asksForHelp env words then
    for line in Cli.usage do
      IO.println line
  return UInt32.ofNat answer.exit
