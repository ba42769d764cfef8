import KnotAtlas.Value

/-!
What a running engine exposes: a tree of attributes. Reading an attribute may give a value, an
object with attributes of its own, a function, or a failure. Many attributes have two spellings;
the first one present is read.
-/

namespace KnotAtlas

/-- What stands under an attribute. -/
inductive Attribute where
  | scalar (v : Value)
  | list (items : List Attribute)
  | object (members : List (String × Attribute))
  /-- A function, with what calling it gives. -/
  | callable (result : Attribute)
  /-- Reading the attribute fails. -/
  | raises (message : String)
  deriving Inhabited

namespace Attribute

abbrev Members := OrderedMap String Attribute

def absent : Attribute := .scalar .null

inductive Fault where
  /-- The engine failed with a message of its own. -/
  | raised (message : String)
  | misuse (m : Value.Misuse)
  | missingMethod (kind : String) (names : List String)
  /-- What was done inside a speculative step failed. -/
  | body (message : String)
  deriving DecidableEq, Repr

def Fault.message : Fault → String
  | .raised m => m
  | .misuse m => m.message
  | .missingMethod kind names => kind ++ " has none of " ++ ", ".intercalate names
  | .body m => m

def kind : Attribute → String
  | .scalar v => v.kind
  | .list _ => "list"
  | .object _ => "object"
  | .callable _ => "function"
  | .raises _ => "object"

/-- The first of `names` that an object has; the absent value if it has none or is no object. -/
def read (names : List String) : Attribute → Except Fault Attribute
  | .object members =>
    match names.findSome? (OrderedMap.find? members) with
    | some (.raises m) => .error (.raised m)
    | some a => .ok a
    | none => .ok absent
  | _ => .ok absent

def result : Attribute → Except Fault Attribute
  | .raises m => .error (.raised m)
  | a => .ok a

def text? : Attribute → Option String
  | .scalar (.str s) => some s
  | _ => none

def isTruthy : Attribute → Bool
  | .scalar v => v.isTruthy
  | .list items => !items.isEmpty
  | _ => true

def parts : Attribute → Except Fault (List Attribute)
  | .list items => .ok items
  | .scalar (.str s) => .ok (s.toList.map fun c => .scalar (.str c.toString))
  | other => .error (.misuse (.notIterable other.kind))

mutual

def same : Attribute → Attribute → Bool
  | .scalar a, .scalar b => a == b
  | .list as, .list bs => sameItems as bs
  | .object as, .object bs => sameMembers as bs
  | .callable a, .callable b => same a b
  | .raises a, .raises b => a == b
  | _, _ => false

def sameItems : List Attribute → List Attribute → Bool
  | [], [] => true
  | a :: as, b :: bs => same a b && sameItems as bs
  | _, _ => false

def sameMembers : List (String × Attribute) → List (String × Attribute) → Bool
  | [], [] => true
  | (k, a) :: as, (l, b) :: bs => k == l && same a b && sameMembers as bs
  | _, _ => false

end

end Attribute
end KnotAtlas
