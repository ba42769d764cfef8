import KnotAtlas.Datum.Date
import KnotAtlas.Seconds

/-!
Configuration data. They hold more than documents do: the keys of a mapping may be any values that
stay as they are, and days and times have kinds of their own.
-/

namespace KnotAtlas

/-- A value of configuration data; tuples occur as keys only. -/
inductive Datum where
  | null
  | bool (b : Bool)
  | int (n : Int)
  | float (x : Float)
  | str (s : String)
  | date (d : Date)
  | moment (d : Date) (t : TimeOfDay)
  | list (items : List Datum)
  | tuple (items : List Datum)
  | mapping (entries : List (Datum × Datum))
  deriving Inhabited

namespace Datum

mutual

def ofValue : Value → Datum
  | .null => .null
  | .bool b => .bool b
  | .int n => .int n
  | .float x => .float x
  | .str s => .str s
  | .list items => .list (ofItems items)
  | .object members => .mapping (ofMembers members)

def ofItems : List Value → List Datum
  | [] => []
  | v :: rest => ofValue v :: ofItems rest

def ofMembers : List (String × Value) → List (Datum × Datum)
  | [] => []
  | (key, v) :: rest => (.str key, ofValue v) :: ofMembers rest

end

def kind : Datum → String
  | .null => "NoneType"
  | .bool _ => "bool"
  | .int _ => "int"
  | .float _ => "float"
  | .str _ => "str"
  | .date _ => "datetime.date"
  | .moment _ _ => "datetime.datetime"
  | .list _ => "list"
  | .tuple _ => "tuple"
  | .mapping _ => "dict"

def isTruthy : Datum → Bool
  | .null => false
  | .bool b => b
  | .int n => n != 0
  | .float x => x != 0
  | .str s => s != ""
  | .date _ => true
  | .moment _ _ => true
  | .list items => !items.isEmpty
  | .tuple items => !items.isEmpty
  | .mapping entries => !entries.isEmpty

def isNull : Datum → Bool
  | .null => true
  | _ => false

def entry? (entries : List (Datum × Datum)) (key : String) : Option Datum :=
  entries.findSome? fun e =>
    match e.1 with
    | .str s => if s = key then some e.2 else none
    | _ => none

/-- The parts of a value taken one by one: items of a list, characters of a text, keys of a
mapping. -/
def parts (v : Datum) : Except Value.Misuse (List Datum) :=
  match v with
  | .list items => .ok items
  | .tuple items => .ok items
  | .str s => .ok (s.toList.map fun c => .str c.toString)
  | .mapping entries => .ok (entries.map (·.1))
  | other => .error (.notIterable other.kind)

/-- What a number is worth; truth values count as one and zero. -/
def number? : Datum → Option Seconds
  | .bool b => some (.whole b.toNat)
  | .int n => some (.whole n)
  | .float x => some (.floating x)
  | _ => none

/-- Whether two numbers are worth the same; what is no number is the same as itself. -/
def sameNumber (a b : Seconds) : Bool :=
  match a, b with
  | .floating x, .floating y => x == y || (x.isNaN && y.isNaN)
  | a, b => a.notAfter b && b.notAfter a

mutual

/-- Whether two keys are the same; numbers are compared by what they are worth. -/
def sameKey (a b : Datum) : Bool :=
  match a, b with
  | .null, .null => true
  | .str s, .str t => s == t
  | .date d, .date e => d == e
  | .moment d t, .moment e u => d == e && t == u
  | .tuple as, .tuple bs => sameKeys as bs
  | a, b =>
    match a.number?, b.number? with
    | some m, some n => sameNumber m n
    | _, _ => false

def sameKeys : List Datum → List Datum → Bool
  | [], [] => true
  | a :: as, b :: bs => sameKey a b && sameKeys as bs
  | _, _ => false

end

mutual

/-- The kind of what may change inside a key, if there is such a thing; then it is no key. -/
def changing? : Datum → Option String
  | .list _ => some "list"
  | .mapping _ => some "dict"
  | .tuple items => changingItem? items
  | _ => none

/-- `changing?` for the items of a tuple; the first one counts. -/
def changingItem? : List Datum → Option String
  | [] => none
  | v :: rest => (changing? v).or (changingItem? rest)

end

end Datum
end KnotAtlas
