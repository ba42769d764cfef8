import KnotAtlas.Atlas.Basic
import KnotAtlas.Files.Tree
import KnotAtlas.Text.Command

/-!
Runs of commands: what is printed and logged on the way, in order, and how the run ends. A run that
stops early keeps what it did before. What a run prints is handed over to a console, which reads
marks of style in it; at marks that make no sense to the console the run ends.
-/

namespace KnotAtlas.Cli

structure Table where
  title : String
  columns : List String
  rows : List (List String)
  deriving DecidableEq, Repr

/-- One thing printed on the console: text with markup, text as it stands, or a table. -/
inductive Print where
  | markup (text : String)
  | plain (text : String)
  | table (t : Table)
  deriving DecidableEq, Repr

/-- What becomes of a thing that is handed over to a console: what is seen of it, or what is wrong
with the marks in it. -/
abbrev Console := Print → Except String Print

def Console.fault? (c : Console) (p : Print) : Option String :=
  match c p with
  | .ok _ => none
  | .error fault => some fault

inductive Escape where
  | notUtf8 (fault : Text.Utf8.Fault)
  | story (error : Story.BuildError)
  /-- A path that cannot be asked for or made. -/
  | badPath (path : String) (fault : Files.Fault)
  /-- A path that no file can have. -/
  | nullInPath
  /-- Marks that the console can make nothing of. -/
  | badMarks (fault : String)

def Escape.message : Escape → String
  | .notUtf8 fault => fault.message
  | .story error => error.message
  | .badPath path fault => fault.withPath path
  | .nullInPath => "embedded null byte"
  | .badMarks fault => fault

/-- Why a run stops early. -/
inductive Stop where
  /-- The command said what is wrong. -/
  | refused
  | escaped (e : Escape)

/-- One thing that a run does. -/
inductive Deed where
  | print (p : Print)
  /-- A line for the standard output. -/
  | echo (line : String)
  | log (e : Log.Event)
  /-- From here on the console shows every event. -/
  | tellAll

namespace Deed

def print? : Deed → Option Print
  | .print p => some p
  | _ => none

def event? : Deed → Option Log.Event
  | .log e => some e
  | _ => none

def written : Deed → String
  | .echo line => Text.withoutCommands line ++ "\n"
  | _ => ""

def isTellAll : Deed → Bool
  | .tellAll => true
  | _ => false

/-- What is wrong with what is printed, to a console. -/
def fault? (c : Console) (d : Deed) : Option String :=
  d.print?.bind c.fault?

end Deed

/-- A run: how it ends, and what it does before. -/
structure Run (α : Type) where
  outcome : Except Stop α
  deeds : List Deed := []

namespace Run

variable {α β γ : Type}

def printed (x : Run α) : List Print :=
  x.deeds.filterMap Deed.print?

def events (x : Run α) : List Log.Event :=
  x.deeds.filterMap Deed.event?

def stdout (x : Run α) : String :=
  String.join (x.deeds.map Deed.written)

def tellsAll (x : Run α) : Bool :=
  x.deeds.any Deed.isTellAll

def andThen (x : Run α) (f : α → Run β) : Run β :=
  match x.outcome with
  | .error s => ⟨.error s, x.deeds⟩
  | .ok a => ⟨(f a).outcome, x.deeds ++ (f a).deeds⟩

instance : Monad Run where
  pure a := { outcome := .ok a }
  bind := andThen

theorem andThen_pure (x : Run α) : x.andThen pure = x := by
  obtain ⟨outcome, deeds⟩ := x
  cases outcome with
  | error s => rfl
  | ok a => simp [andThen, pure]

theorem pure_andThen (a : α) (f : α → Run β) : (pure a : Run α).andThen f = f a := by
  simp [andThen, pure]

theorem andThen_assoc (x : Run α) (f : α → Run β) (g : β → Run γ) :
    (x.andThen f).andThen g = x.andThen fun a => (f a).andThen g := by
  obtain ⟨outcome, deeds⟩ := x
  cases outcome with
  | error s => rfl
  | ok a =>
      rw [andThen, andThen, andThen]
      dsimp only
      rw [andThen]
      cases (f a).outcome with
      | error s => rfl
      | ok b => simp [List.append_assoc]

instance : LawfulMonad Run :=
  LawfulMonad.mk' Run andThen_pure pure_andThen andThen_assoc

/-- A run with a console: it ends at the first thing printed that the console can make nothing
of. -/
def on (c : Console) (x : Run α) : Run α :=
  match x.printed.findSome? c.fault? with
  | none => x
  | some fault =>
    { outcome := .error (.escaped (.badMarks fault))
      deeds := x.deeds.takeWhile fun d => (d.fault? c).isNone }

def print (p : Print) : Run Unit :=
  ⟨.ok (), [.print p]⟩

def say (line : String) : Run Unit :=
  print (.markup line)

def echo (line : String) : Run Unit :=
  ⟨.ok (), [.echo line]⟩

def stop (s : Stop) : Run α :=
  { outcome := .error s }

def refuse (line : String) : Run α := do
  say line
  stop .refused

/-- From here on the console shows every event. -/
def tellAll : Run Unit :=
  ⟨.ok (), [.tellAll]⟩

def ofLogged (x : Logged α) : Run α :=
  ⟨.ok x.value, x.events.map .log⟩

end Run
end KnotAtlas.Cli
