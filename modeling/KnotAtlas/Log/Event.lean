import KnotAtlas.Value

/-!
Log events, and results that come with the events emitted on the way. `Logged` runs one computation
after the other; the events of the first come first, and they never change what the second sees.
-/

namespace KnotAtlas.Log

inductive Level where
  | debug
  | info
  | warning
  | error
  | critical
  deriving DecidableEq, Repr

def Level.name : Level → String
  | .debug => "DEBUG"
  | .info => "INFO"
  | .warning => "WARNING"
  | .error => "ERROR"
  | .critical => "CRITICAL"

def Level.word : Level → String
  | .debug => "debug"
  | .info => "info"
  | .warning => "warning"
  | .error => "error"
  | .critical => "critical"

/-- The rank of a level; a handler takes events of its own rank and above. -/
def Level.rank : Level → Nat
  | .debug => 10
  | .info => 20
  | .warning => 30
  | .error => 40
  | .critical => 50

/-- One event: its level, the logger it came from, its name, and what it is about. -/
structure Event where
  level : Level
  logger : String
  name : String
  context : OrderedMap String Value

/-- A context that says that a failure is to be told in full, unless it says otherwise itself. -/
def toldInFull (context : OrderedMap String Value) : OrderedMap String Value :=
  if context.has "exc_info" then context else context ++ [("exc_info", .bool true)]

def Event.ofFailure (logger name : String) (context : OrderedMap String Value) : Event :=
  ⟨.error, logger, name, toldInFull context⟩

end Log

/-- A result with the events emitted on the way to it. -/
structure Logged (α : Type) where
  value : α
  events : List Log.Event

namespace Logged

variable {α β : Type}

instance : Monad Logged where
  pure a := ⟨a, []⟩
  bind x f := ⟨(f x.value).value, x.events ++ (f x.value).events⟩

@[simp] theorem value_pure (a : α) : (pure a : Logged α).value = a := rfl

@[simp] theorem events_pure (a : α) : (pure a : Logged α).events = [] := rfl

@[simp] theorem value_bind (x : Logged α) (f : α → Logged β) :
    (x >>= f).value = (f x.value).value := rfl

@[simp] theorem events_bind (x : Logged α) (f : α → Logged β) :
    (x >>= f).events = x.events ++ (f x.value).events := rfl

@[simp] theorem value_map (g : α → β) (x : Logged α) : (g <$> x).value = g x.value := rfl

@[simp] theorem events_map (g : α → β) (x : Logged α) : (g <$> x).events = x.events :=
  List.append_nil x.events

theorem ext {x y : Logged α} (hv : x.value = y.value) (he : x.events = y.events) : x = y := by
  cases x
  cases y
  simp_all

instance : LawfulMonad Logged :=
  LawfulMonad.mk' Logged
    (fun x => ext rfl (List.append_nil x.events))
    (fun _ _ => ext rfl rfl)
    (fun x f g => ext rfl (List.append_assoc x.events (f x.value).events _))

end Logged

namespace Log

def emit (level : Level) (logger name : String) (context : OrderedMap String Value) :
    Logged Unit :=
  ⟨(), [⟨level, logger, name, context⟩]⟩

def emitEvent (e : Event) : Logged Unit :=
  ⟨(), [e]⟩

def emitIf (wanted : Bool) (level : Level) (logger name : String)
    (context : OrderedMap String Value) : Logged Unit :=
  if wanted then emit level logger name context else pure ()

@[simp] theorem value_emit (level : Level) (logger name : String)
    (context : OrderedMap String Value) : (emit level logger name context).value = () := rfl

end Log
end KnotAtlas
