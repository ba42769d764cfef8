import KnotAtlas.Datum.Basic
import KnotAtlas.Decimal.DigitLimit
import KnotAtlas.Decimal.Layout
import KnotAtlas.Text.Quoted

/-!
How messages show configuration data. `display` puts texts in quotes at every depth; `text` leaves a
value that is a text as it is. A value is not shown at all if an integer in it is too long or its
parts nest too deep.
-/

namespace KnotAtlas.Datum

mutual

def display : Datum → String
  | .null => "None"
  | .bool b => if b then "True" else "False"
  | .int n => toString n
  | .float x => Decimal.floatText x
  | .str s => Text.quoted s
  | .date d => s!"datetime.date({d.numbers})"
  | .moment d t => s!"datetime.datetime({d.numbers}, {t.numbers})"
  | .list items => "[" ++ ", ".intercalate (displayItems items) ++ "]"
  | .tuple [v] => "(" ++ display v ++ ",)"
  | .tuple items => "(" ++ ", ".intercalate (displayItems items) ++ ")"
  | .mapping entries => "\x7b" ++ ", ".intercalate (displayEntries entries) ++ "\x7d"

def displayItems : List Datum → List String
  | [] => []
  | v :: rest => display v :: displayItems rest

def displayEntries : List (Datum × Datum) → List String
  | [] => []
  | (key, v) :: rest => (display key ++ ": " ++ display v) :: displayEntries rest

end

def text (v : Datum) : String :=
  match v with
  | .str s => s
  | .date d => d.text
  | .moment d t => s!"{d.text} {t.text}"
  | other => other.display

inductive ShowFault where
  | tooLong
  | tooDeep
  deriving DecidableEq, Repr

def ShowFault.message : ShowFault → String
  | .tooLong => Decimal.tooLong none
  | .tooDeep => "maximum recursion depth exceeded while getting the repr of an object"

mutual

/-- What is wrong with showing a value, found on the way through its parts in order; `levels` is how
many values, one inside the other, may still be entered. -/
def showFault? : Datum → (levels : Nat) → Option ShowFault
  | _, 0 => some .tooDeep
  | .int n, _ + 1 => if Decimal.isShowable n then none else some .tooLong
  | .list items, levels + 1 => itemFault? items levels
  | .tuple items, levels + 1 => itemFault? items levels
  | .mapping entries, levels + 1 => entryFault? entries levels
  | _, _ + 1 => none

/-- `showFault?` for the items of a list. -/
def itemFault? : List Datum → (levels : Nat) → Option ShowFault
  | [], _ => none
  | v :: rest, levels => (showFault? v levels).or (itemFault? rest levels)

/-- `showFault?` for the entries of a mapping. -/
def entryFault? : List (Datum × Datum) → (levels : Nat) → Option ShowFault
  | [], _ => none
  | (key, v) :: rest, levels =>
    ((showFault? key levels).or (showFault? v levels)).or (entryFault? rest levels)

end

/-- How deep containers may nest where values are shown. What the calls so far take of the stack is
left out. -/
class ShowLimit where
  levels : Nat

instance : ShowLimit := ⟨1000⟩

variable [ShowLimit]

/-- What is wrong with showing a value. -/
def fault? (v : Datum) : Option ShowFault :=
  v.showFault? (ShowLimit.levels + 1)

/-- A value as plain text, if it can be shown. -/
def shown (v : Datum) : Except ShowFault String :=
  match v.fault? with
  | some f => .error f
  | none => .ok v.text

end KnotAtlas.Datum
