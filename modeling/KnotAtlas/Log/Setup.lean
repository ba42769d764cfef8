import KnotAtlas.Log.Entry

/-!
Where events go. The console shows events of a level that the verbosity decides; a log file, if
there is one, takes all. Events below the root level reach neither.
-/

namespace KnotAtlas.Log

/-- A setup of logging: how verbose the console is, and the directory of the log file, if there is
one. -/
structure Setup where
  verbosity : Int := 0
  directory : Option String := none
  deriving DecidableEq, Repr

namespace Setup

def fileName : String := "debug.jsonl"

/-- The level from which on the console shows events: warnings, then news, then everything. -/
def consoleLevel (s : Setup) : Level :=
  if s.verbosity = 0 then .warning else if s.verbosity = 1 then .info else .debug

def rootLevel (s : Setup) : Level :=
  if 0 < s.verbosity ∨ s.directory.isSome then .debug else .warning

/-- The level from which on the log file takes events, if there is one. -/
def fileLevel? (s : Setup) : Option Level :=
  s.directory.map fun _ => .debug

def lets (threshold level : Level) : Bool :=
  threshold.rank ≤ level.rank

/-- The events that the console shows. -/
def shown (s : Setup) (events : List Event) : List Event :=
  events.filter fun e => lets s.rootLevel e.level && lets s.consoleLevel e.level

def filed (s : Setup) (records : List Record) : List Record :=
  records.filter fun r => lets s.rootLevel r.level && s.fileLevel?.any (lets · r.level)

/-- The entries of the log file for the records among some that can be written. -/
def entries (s : Setup) (time : String) (writes : Record → Bool) (records : List Record) :
    List Entry :=
  ((s.filed records).filter writes).map (Entry.ofRecord time)

/-- The least verbosity at which the console shows everything. -/
def fullVerbosity : Int := 2

def tellingAll (s : Setup) : Setup :=
  { s with verbosity := max s.verbosity fullVerbosity }

/-- A log file was asked for without saying where. -/
structure NoDirectory where

def NoDirectory.message (_ : NoDirectory) : String :=
  "log_dir is required when log_to_file=True"

/-- The setup that is asked for; without a file the directory counts for nothing. -/
def ofRequest (verbosity : Int) (toFile : Bool) (directory : Option String) :
    Except NoDirectory Setup :=
  match toFile, directory with
  | true, none => .error {}
  | true, some d => .ok ⟨verbosity, some d⟩
  | false, _ => .ok ⟨verbosity, none⟩

end Setup
end KnotAtlas.Log
