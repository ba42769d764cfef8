import KnotAtlas.OrderedMap

/-!
Decoded documents. Numbers written with a fraction or an exponent are kept apart from integers, and
an object keeps its members in the order in which they were written.
-/

namespace KnotAtlas

inductive Value where
  | null
  | bool (b : Bool)
  | int (n : Int)
  | float (x : Float)
  | str (s : String)
  | list (items : List Value)
  | object (members : List (String × Value))
  deriving Inhabited

namespace Value

def kind : Value → String
  | .null => "NoneType"
  | .bool _ => "bool"
  | .int _ => "int"
  | .float _ => "float"
  | .str _ => "str"
  | .list _ => "list"
  | .object _ => "dict"

/-- Whether a value counts as true where a yes or no is wanted: everything does but the absent
value, `false`, zero, and what is empty. -/
def isTruthy : Value → Bool
  | .null => false
  | .bool b => b
  | .int n => n != 0
  | .float x => x != 0
  | .str s => s != ""
  | .list items => !items.isEmpty
  | .object members => !members.isEmpty

/-- The member `key` of an object. -/
def member? (v : Value) (key : String) : Option Value :=
  match v with
  | .object members => OrderedMap.find? members key
  | _ => none

def text? : Value → Option String
  | .str s => some s
  | _ => none

def items? : Value → Option (List Value)
  | .list items => some items
  | _ => none

def isNull : Value → Bool
  | .null => true
  | _ => false

mutual

def same : Value → Value → Bool
  | .null, .null => true
  | .bool a, .bool b => a == b
  | .int a, .int b => a == b
  | .float a, .float b => a == b
  | .str a, .str b => a == b
  | .list as, .list bs => sameItems as bs
  | .object as, .object bs => sameMembers as bs
  | _, _ => false

def sameItems : List Value → List Value → Bool
  | [], [] => true
  | a :: as, b :: bs => same a b && sameItems as bs
  | _, _ => false

def sameMembers : List (String × Value) → List (String × Value) → Bool
  | [], [] => true
  | (k, a) :: as, (l, b) :: bs => k == l && same a b && sameMembers as bs
  | _, _ => false

end

instance : BEq Value := ⟨same⟩

/-- What goes wrong when a value of one kind is used as if it were of another. -/
inductive Misuse where
  | noAttribute (kind wanted : String)
  | notIterable (kind : String)
  | notReversible (kind : String)
  deriving DecidableEq, Repr

def Misuse.message : Misuse → String
  | .noAttribute kind wanted => s!"'{kind}' object has no attribute '{wanted}'"
  | .notIterable kind => s!"'{kind}' object is not iterable"
  | .notReversible kind => s!"'{kind}' object is not reversible"

/-- The parts of a value taken one by one: items of a list, characters of a text, keys of an
object. -/
def parts (v : Value) : Except Misuse (List Value) :=
  match v with
  | .list items => .ok items
  | .str s => .ok (s.toList.map fun c => .str c.toString)
  | .object members => .ok (members.map fun entry => .str entry.1)
  | other => .error (.notIterable other.kind)

end Value
end KnotAtlas
