import KnotAtlas.Log.Event

/-!
Records, which handlers get of calls. All that is said of a call stands in one mapping: what was bound
to the logger and around the call, over it the items of the call itself, and over these the event, the
level and the time.
-/

namespace KnotAtlas.Log

/-- The ways to call a logger; some are other words for the same. -/
inductive Method where
  | debug
  | info
  | msg
  | warning
  | warn
  | error
  | critical
  | fatal
  | exception
  deriving DecidableEq, Repr

def Method.level : Method → Level
  | .debug => .debug
  | .info | .msg => .info
  | .warning | .warn => .warning
  | .error | .exception => .error
  | .critical | .fatal => .critical

/-- A call of a logger. A key is given once and bound once, and the event is no item. -/
structure Call where
  method : Method
  logger : String
  event : String
  context : OrderedMap String Value
  /-- What was bound to the logger, or around the call, before. -/
  bound : OrderedMap String Value
  context_nodup : context.keys.Nodup
  bound_nodup : bound.keys.Nodup
  event_notMem : "event" ∉ context.keys

structure Record where
  level : Level
  logger : String
  items : OrderedMap String Value

def marked (items : OrderedMap String Value) (event : String) (level : Level) (time : String) :
    OrderedMap String Value :=
  ((items.insert "event" (.str event)).insert "level" (.str level.word)).insert "timestamp"
    (.str time)

/-- The items that a call gives; that of an exception is told in full. -/
def Call.own (c : Call) : OrderedMap String Value :=
  match c.method with
  | .exception => toldInFull c.context
  | _ => c.context

def Call.record (time : String) (c : Call) : Record :=
  ⟨c.method.level, c.logger, marked (c.bound.update c.own) c.event c.method.level time⟩

/-- The record of an event; nothing is bound to the loggers of the events. -/
def Event.record (time : String) (e : Event) : Record :=
  ⟨e.level, e.logger, marked e.context e.name e.level time⟩

end KnotAtlas.Log
