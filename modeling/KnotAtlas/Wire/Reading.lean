import KnotAtlas.Decimal.Binary
import KnotAtlas.Text.Halves
import KnotAtlas.Value
import KnotAtlas.Wire.Checked
import KnotAtlas.Wire.IntegerText

/-!
Reading values and fields of records. Texts must be texts; integers and switches may also be given
by other values that stand for them without doubt. A field of several words may go by its name in
camel case or by its plain name; keys that no field goes by are passed over.
-/

namespace KnotAtlas.Wire

open Checked (fault)

abbrev Reading (α : Type) := Value → Checked α

def text : Reading String
  | .str s => pure s
  | _ => fault .notText

def name : Reading String := fun v =>
  ((text v).ensure (!Text.HasHalf ·) .notUnicode).ensure (· != "") .tooShort

/-- Numbers of which a floating number must be on the inner side to be read as an integer. -/
def wordBound : Nat := Nat.pow 2 63

def wholeOf (x : Float) : Checked Int :=
  match Decimal.Binary.ofFloat? x with
  | none => fault .notFinite
  | some b =>
    let (num, den) := b.ratio
    if num % den != 0 then fault .fractional
    else if wordBound ≤ num / den then fault .tooLarge
    else pure (if Decimal.isNegative x then -((num / den : Nat) : Int) else (num / den : Nat))

def integerOf (s : String) : Checked Int :=
  match integerDigits? s with
  | none => fault .notIntegerText
  | some (negative, digits) =>
    match integerOfDigits? negative digits with
    | some n => pure n
    | none => fault .tooLarge

def integer : Reading Int
  | .int n => pure n
  | .bool b => pure b.toNat
  | .float x => wholeOf x
  | .str s => integerOf s
  | _ => fault .notInteger

/-- Reads an integer that is at least one, as numbers of lines are. -/
def lineNumber : Reading Nat := fun v =>
  Int.toNat <$> (integer v).ensure (1 ≤ ·) .tooSmall

def yesWords : List String := ["1", "on", "t", "true", "y", "yes"]

def noWords : List String := ["0", "off", "f", "false", "n", "no"]

/-- Reads the switch that an integer stands for; one that does not fit a machine word stands for
nothing. -/
def switchOf (n : Int) : Checked Bool :=
  if n = 1 then pure true
  else if n = 0 then pure false
  else if -(wordBound : Int) ≤ n && n < wordBound then fault .notSwitchWord
  else fault .notSwitch

def switch : Reading Bool
  | .bool b => pure b
  | .int n => switchOf n
  | .float x =>
    match wholeOf x with
    | .valid n => switchOf n
    | .invalid _ => fault .notSwitch
  | .str s =>
    let word := s.map Char.toLower
    if word ∈ yesWords then pure true
    else if word ∈ noWords then pure false
    else fault .notSwitchWord
  | _ => fault .notSwitch

def listOf {α : Type} (item : Reading α) : Reading (List α)
  | .list items => Checked.ofItems item 0 items
  | _ => fault .notList

def optional {α : Type} (read : Reading α) : Reading (Option α)
  | .null => pure none
  | v => some <$> read v

abbrev Members := OrderedMap String Value

def record {α : Type} (fields : Members → Checked α) : Reading α
  | .object members => fields members
  | _ => fault .notRecord

def camelCase (cs : List Char) : List Char :=
  match cs with
  | [] => []
  | '_' :: c :: rest => c.toUpper :: camelCase rest
  | c :: rest => c :: camelCase rest

/-- Reads the field under a key, which must be there. -/
def required {α : Type} (members : Members) (key : String) (read : Reading α) : Checked α :=
  match members.find? key with
  | some v => (read v).inside key
  | none => (fault .missing).inside key

def withDefault {α : Type} (members : Members) (key : String) (default : α)
    (read : Reading α) : Checked α :=
  match members.find? key with
  | some v => (read v).inside key
  | none => pure default

/-- The key that a field is found under: its name in camel case if that is there, or else its plain
name. -/
def keyOf (members : Members) (field : String) : String :=
  let camel := String.ofList (camelCase field.toList)
  if members.has camel then camel else field

end KnotAtlas.Wire
