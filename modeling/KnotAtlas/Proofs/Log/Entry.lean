import KnotAtlas.Log.Setup
import Mathlib.Data.List.Forall2
import Mathlib.Data.List.Nodup

/-!
What the log file tells of the calls of loggers, however these become records. While there is a file,
every call whose record can be written gets an entry, in the order of the calls. An entry has the
level of its call, and the logger, the event, all items of the context and all that was bound under
keys of their own; only an item whose key is one that every entry has is in the way of another.
-/

namespace KnotAtlas.Log

/-! ### Records -/

/-- The keys of a record under which the event, the level and the time stand. -/
def markKeys : List String := ["event", "level", "timestamp"]

/-- What is relied on of the way from a call to its record. It has the level and the logger of the
call, and in its items, each with a key of its own, the event; the items of the call, but not under
the keys of the marks; and what was bound, but not under these or under keys of the call. The way in
which a failure is told stands there too, and nothing else does. -/
structure Passes (record : Call → Record) : Prop where
  level (c : Call) : (record c).level = c.method.level
  logger (c : Call) : (record c).logger = c.logger
  distinct (c : Call) : (record c).items.keys.Nodup
  event (c : Call) : (record c).items.find? "event" = some (.str c.event)
  own (c : Call) : ∀ item ∈ c.context, item.1 ∉ markKeys →
    (record c).items.find? item.1 = some item.2
  bound (c : Call) : ∀ item ∈ c.bound, item.1 ∉ c.context.keys → item.1 ∉ markKeys →
    item.1 ≠ "exc_info" → (record c).items.find? item.1 = some item.2
  only (c : Call) : ∀ key ∈ (record c).items.keys,
    key ∈ c.context.keys ∨ key ∈ c.bound.keys ∨ key ∈ markKeys ∨ key = "exc_info"

namespace Call

end Call

/-! ### Entries -/

namespace Entry

end Entry

/-! ### The log file -/

namespace Setup

end Setup

theorem Passes.find?_eq_none {record : Call → Record} (h : Passes record) {c : Call} {key : String}
    (hcontext : key ∉ c.context.keys) (hbound : key ∉ c.bound.keys) (hmark : key ∉ markKeys)
    (hfailure : key ≠ "exc_info") : (record c).items.find? key = none := by
  refine OrderedMap.find?_eq_none_iff.mpr fun hkey => ?_
  obtain hin | hin | hin | hin := h.only c key hkey
  · exact hcontext hin
  · exact hbound hin
  · exact hmark hin
  · exact hfailure hin

/-- A call with an item of its own and one that was bound. -/
def calling (key bound : String) (h : "event" ≠ key) : Call where
  method := .info
  logger := "play"
  event := "choice_made"
  context := [(key, .str "own")]
  bound := [(bound, .str "bound")]
  context_nodup := List.nodup_singleton key
  bound_nodup := List.nodup_singleton bound
  event_notMem hmem := h (List.mem_singleton.mp hmem)

end KnotAtlas.Log
