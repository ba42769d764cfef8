import KnotAtlas.Decimal.Binary
import KnotAtlas.Text.Blank
import KnotAtlas.Text.Digit

/-!
Reading a floating number from text: blanks around it, a sign, digits of any script with single
underscores between them, a fraction, an exponent, or a word for infinity or for what is no number.
-/

namespace KnotAtlas.Decimal

def digitsValue (cs : List Char) : Nat :=
  cs.foldl (fun acc c => acc * 10 + (c.toNat - 48)) 0

/-- Exponents past this one give zero or infinity whatever the digits of the texts in use are. -/
def exponentCap : Nat := 100000

/-- The floating number nearest to `digits · 10^exponent`. -/
def ofDigits (digits : List Char) (exponent : Int) : Float :=
  let m := digitsValue digits
  let significant := (digits.dropWhile (· == '0')).length
  if m = 0 then 0
  else if 400 < exponent + significant then infinity
  else if exponent + significant < -400 then 0
  else nearest (m * Nat.pow 10 exponent.toNat) (Nat.pow 10 (-exponent).toNat)

/-- An exponent part: a sign and digits, cut off at `exponentCap`. -/
def exponentValue (negative : Bool) (digits : List Char) : Int :=
  let n := min (digitsValue digits) exponentCap
  if negative then -n else n

/-- Takes a sign from the front of a text; true stands for minus. -/
def takeSign : List Char → Bool × List Char
  | '-' :: rest => (true, rest)
  | '+' :: rest => (false, rest)
  | cs => (false, cs)

def isAsciiDigit (c : Char) : Bool :=
  '0' ≤ c && c ≤ '9'

/-- Reads an unsigned number written with ASCII digits; the whole text has to be used. -/
def readUnsigned? (cs : List Char) : Option Float :=
  let whole := cs.takeWhile isAsciiDigit
  let afterWhole := cs.dropWhile isAsciiDigit
  let (fraction, afterFraction) :=
    match afterWhole with
    | '.' :: rest => (rest.takeWhile isAsciiDigit, rest.dropWhile isAsciiDigit)
    | rest => ([], rest)
  if whole.isEmpty && fraction.isEmpty then none
  else
    let digits := whole ++ fraction
    match afterFraction with
    | [] => some (ofDigits digits (-(fraction.length : Int)))
    | e :: rest =>
      let (negative, power) := takeSign rest
      if (e = 'e' || e = 'E') && !power.isEmpty && power.all isAsciiDigit then
        some (ofDigits digits (exponentValue negative power - fraction.length))
      else none

def readWord? (cs : List Char) : Option Float :=
  let word := String.ofList (cs.map Char.toLower)
  if word = "inf" || word = "infinity" then some infinity
  else if word = "nan" then some notANumber
  else none

/-- Drops underscores that stand between two digits; none if another one occurs. -/
def dropUnderscores? (before : Char) : List Char → Option (List Char)
  | [] => if before = '_' then none else some []
  | c :: rest =>
    if c = '_' then
      if isAsciiDigit before then dropUnderscores? c rest else none
    else if before = '_' && !isAsciiDigit c then none
    else (dropUnderscores? c rest).map (c :: ·)

/-- A character of a number in ASCII: digits of other scripts by value, other blanks as spaces. -/
def asciiForm (c : Char) : Char :=
  if c.toNat < 127 then c
  else if Text.isBlank c then ' '
  else
    match Text.decimalValue? c with
    | some d => Char.ofNat (48 + d)
    | none => '?'

def isNumberBlank (c : Char) : Bool :=
  c = ' ' || (9 ≤ c.toNat && c.toNat ≤ 13)

def ofText? (s : String) : Option Float :=
  let cs := (s.toList.map asciiForm).dropWhile isNumberBlank
  match dropUnderscores? ' ' (Text.dropEndWhile isNumberBlank cs) with
  | none => none
  | some cs =>
    let (negative, magnitude) := takeSign cs
    ((readUnsigned? magnitude).or (readWord? magnitude)).map (withSign negative)

end KnotAtlas.Decimal
