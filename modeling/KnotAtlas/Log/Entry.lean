import KnotAtlas.Datum.Display
import KnotAtlas.Log.Record
import KnotAtlas.Log.Template

/-!
Entries of the log file, one object each. The items of a record stand beside the time, the level, the
logger and the message; where an item uses one of these keys itself, its level and time are left out,
and its logger and message are taken.
-/

namespace KnotAtlas.Log

abbrev Entry := OrderedMap String Value

namespace Entry

def plain (time : String) (level : Level) (logger : String) (message : Value) : Entry :=
  [("timestamp", .str time), ("level", .str level.name), ("logger", .str logger),
    ("message", message)]

/-- Keys of a record that no entry takes over. -/
def reservedKeys : List String := ["level", "timestamp"]

/-- The items of a record that an entry takes over. -/
def carried (items : OrderedMap String Value) : OrderedMap String Value :=
  items.filter fun item => item.1 ∉ reservedKeys

/-- The entry of a record. Its message is the event; a record without one is its own message. -/
def ofRecord (time : String) (r : Record) : Entry :=
  let context := carried r.items
  let whole : Value := .str (Datum.ofValue (.object r.items)).text
  (plain time r.level r.logger ((context.find? "event").getD whole)).update
    (context.erase "event")

/-- The entry of a message given as a template; none if the arguments do not fit. -/
def ofTemplate? (time : String) (level : Level) (logger template : String)
    (arguments : List Value) : Option Entry :=
  (Template.fill? template arguments).map fun message => plain time level logger (.str message)

end Entry

end KnotAtlas.Log
