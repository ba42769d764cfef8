import KnotAtlas.Datum.Basic
import KnotAtlas.Decimal.DigitLimit
import KnotAtlas.Decimal.Reading
import KnotAtlas.Json.Reader
import KnotAtlas.Yaml.Cursor
import KnotAtlas.Yaml.Fault

/-!
The kinds of plain scalars in YAML 1.2. Words, numbers, days and times have forms of their own;
everything else, `yes` and `on` included, is text. A scalar may have the form of a number and still
stand for none.
-/

namespace KnotAtlas.Yaml.Scalar

open Decimal (isAsciiDigit takeSign)

def isDigitOf (base : Nat) (c : Char) : Bool :=
  c = '_' || (Json.hexValue? c).any (· < base)

def dropUnderscores (cs : List Char) : List Char :=
  cs.filter (· != '_')

/-- The base and the digits of a plain scalar in the form of an integer, its sign left out. A zero
before digits of base eight means nothing. -/
def integerForm? (cs : List Char) : Option (Nat × List Char) :=
  let form (base : Nat) (digits : List Char) : Option (Nat × List Char) :=
    if !digits.isEmpty && digits.all (isDigitOf base) then some (base, dropUnderscores digits)
    else none
  match cs with
  | '0' :: 'b' :: rest => form 2 rest
  | '0' :: 'o' :: rest => form 8 rest
  | '0' :: 'x' :: rest => form 16 rest
  | _ => form 10 cs

/-- The number that digits stand for. Bases that are powers of two have no limit on digits. -/
def integer (base : Nat) (digits : List Char) : Except Fault Nat :=
  if digits.isEmpty then .error (.integerText base)
  else if base = 10 && Decimal.digitLimit < digits.length then
    .error (.integerTooLong digits.length)
  else .ok (digits.foldl (fun acc c => acc * base + (Json.hexValue? c).getD 0) 0)

def isExponent (signNeeded : Bool) (cs : List Char) : Bool :=
  match cs with
  | [] => true
  | e :: rest =>
    let power := (takeSign rest).2
    (e = 'e' || e = 'E') && !power.isEmpty && power.all isAsciiDigit &&
      (!signNeeded || power.length < rest.length)

def isFloatForm (cs : List Char) : Bool :=
  let whole := cs.takeWhile (isDigitOf 10)
  let rest := cs.dropWhile (isDigitOf 10)
  match whole, rest with
  | [], '.' :: fraction =>
    !(fraction.takeWhile (isDigitOf 10)).isEmpty &&
      isExponent true (fraction.dropWhile (isDigitOf 10))
  | d :: _, '.' :: fraction =>
    isAsciiDigit d && isExponent false (fraction.dropWhile (isDigitOf 10))
  | d :: _, _ :: _ => isAsciiDigit d && isExponent false rest
  | _, [] => false
  | [], _ => false

def floating (cs : List Char) : Except Fault Float :=
  let digits := (dropUnderscores cs).map Char.toLower
  match Decimal.readUnsigned? digits with
  | some x => .ok x
  | none => .error (.floatText (String.ofList digits))

def wordNumber? (cs : List Char) : Option Float :=
  let (negative, rest) := takeSign cs
  if String.ofList rest ∈ [".inf", ".Inf", ".INF"] then
    some (Decimal.withSign negative Decimal.infinity)
  else if String.ofList cs ∈ [".nan", ".NaN", ".NAN"] then some Decimal.notANumber
  else none

def natural (cs : List Char) : Nat :=
  Decimal.digitsValue cs

/-- Takes digits, at least and at most so many, from the front of a text. -/
def takeDigits? (least most : Nat) (cs : List Char) : Option (Nat × List Char) :=
  let digits := (cs.take most).takeWhile isAsciiDigit
  if digits.length < least then none else some (natural digits, cs.drop digits.length)

def takeChar? (x : Char) : List Char → Option (List Char)
  | c :: rest => if c = x then some rest else none
  | [] => none

def takeThree? (x : Char) (first second third : Nat × Nat) (cs : List Char) :
    Option ((Nat × Nat × Nat) × List Char) := do
  let (a, cs) ← takeDigits? first.1 first.2 cs
  let (b, cs) ← takeDigits? second.1 second.2 (← takeChar? x cs)
  let (c, cs) ← takeDigits? third.1 third.2 (← takeChar? x cs)
  return ((a, b, c), cs)

/-- Millionths of a second from the digits of a fraction, rounded on the seventh digit. -/
def millionths (digits : List Char) : Nat :=
  let kept := digits.take 6
  let scaled := natural kept * Nat.pow 10 (6 - kept.length)
  min 999999 (if digits[6]?.any ('4' < ·) then scaled + 1 else scaled)

/-- The parts of a time of a day: hour, minute, second, and the digits of a fraction. -/
def clockForm? (cs : List Char) : Option (Nat × Nat × Nat × List Char) := do
  let ((hour, minute, second), cs) ← takeThree? ':' (1, 2) (2, 2) (2, 2) cs
  let (fraction, cs) :=
    match cs with
    | '.' :: rest => (rest.takeWhile isAsciiDigit, rest.dropWhile isAsciiDigit)
    | cs => ([], cs)
  let cs := cs.dropWhile isBlank
  if cs = [] || cs = ['Z'] then some (hour, minute, second, fraction) else none

def date? (cs : List Char) : Option (Except Fault Datum) := do
  let ((year, month, day), rest) ← takeThree? '-' (4, 4) (2, 2) (2, 2) cs
  if rest.isEmpty then
    some (((Date.ofNumbers year month day).map Datum.date).mapError .date)
  else none

def moment? (cs : List Char) : Option (Except Fault Datum) := do
  let ((year, month, day), rest) ← takeThree? '-' (4, 4) (1, 2) (1, 2) cs
  let clock :=
    match rest with
    | 't' :: rest => rest
    | 'T' :: rest => rest
    | rest => rest.dropWhile isBlank
  let (hour, minute, second, fraction) ← clockForm? clock
  if clock.length = rest.length then none
  else
    let moment : Except DateFault Datum := do
      let date ← Date.ofNumbers year month day
      let time ← TimeOfDay.ofNumbers hour minute second (millionths fraction)
      return .moment date time
    some (moment.mapError .date)

def number? (cs : List Char) : Option (Except Fault Datum) :=
  let (negative, rest) := takeSign cs
  let signed (n : Nat) : Datum := .int (if negative then -(n : Int) else n)
  let digitFirst := !(cs.head? = some '_')
  match wordNumber? cs with
  | some x => some (.ok (.float x))
  | none =>
    if isFloatForm rest then
      some ((floating rest).map fun x => .float (Decimal.withSign negative x))
    else if digitFirst then
      (integerForm? rest).map fun (base, digits) => (integer base digits).map signed
    else none

def mergeMark : String := "<<"

def valueMark : String := "="

def meaning (s : String) : Except Fault Datum :=
  if s ∈ ["", "~", "null", "Null", "NULL"] then .ok .null
  else if s ∈ ["true", "True", "TRUE"] then .ok (.bool true)
  else if s ∈ ["false", "False", "FALSE"] then .ok (.bool false)
  else if s = mergeMark || s = valueMark then .error .malformed
  else
    let cs := s.toList
    ((number? cs).or ((date? cs).or (moment? cs))).getD (.ok (.str s))

end KnotAtlas.Yaml.Scalar
