import KnotAtlas.Value
import KnotAtlas.Decimal.Reading
import KnotAtlas.Text.Halves
import KnotAtlas.Text.Lines
import KnotAtlas.Text.Utf8

/-!
Reading JSON text. Every step takes a text and gives what it read with the rest of the text. A fault
carries the rest of the text from the place it is reported at, so that the line of the fault can be
counted afterwards. Besides the standard grammar, `NaN`, `Infinity` and `-Infinity` are numbers. The
nesting of containers and the length of integers are limited.
-/

namespace KnotAtlas.Json

inductive Cause where
  | expectingValue
  | expectingName
  | expectingColon
  | expectingComma
  | unterminatedString
  | invalidControl
  | invalidEscape
  | invalidUnicodeEscape
  | extraData
  deriving DecidableEq, Repr

def Cause.message : Cause → String
  | .expectingValue => "Expecting value"
  | .expectingName => "Expecting property name enclosed in double quotes"
  | .expectingColon => "Expecting ':' delimiter"
  | .expectingComma => "Expecting ',' delimiter"
  | .unterminatedString => "Unterminated string starting at"
  | .invalidControl => "Invalid control character at"
  | .invalidEscape => "Invalid \\escape"
  | .invalidUnicodeEscape => "Invalid \\uXXXX escape"
  | .extraData => "Extra data"

/-- What ends the reading of a text: a fault of syntax with the text from there on, containers
nested past the limit, or an integer with too many digits. -/
inductive Fault where
  | malformed (cause : Cause) (rest : List Char)
  | tooDeep
  | tooLong (digits : Nat)
  deriving DecidableEq, Repr

/-- How deep containers may nest, and how many digits an integer may have; none is no limit. -/
structure Limits where
  depth : Nat
  digits : Option Nat

/-- Whether a character may stand between tokens. -/
def isGap (c : Char) : Bool :=
  c = ' ' || c = '\t' || c = '\n' || c = '\r'

def skipGap (cs : List Char) : List Char :=
  cs.dropWhile isGap

def hexValue? (c : Char) : Option Nat :=
  if '0' ≤ c && c ≤ '9' then some (c.toNat - 48)
  else if 'a' ≤ c && c ≤ 'f' then some (c.toNat - 87)
  else if 'A' ≤ c && c ≤ 'F' then some (c.toNat - 55)
  else none

def fourHex? : List Char → Option (Nat × List Char)
  | a :: b :: c :: d :: rest => do
    let a ← hexValue? a
    let b ← hexValue? b
    let c ← hexValue? c
    let d ← hexValue? d
    return (((a * 16 + b) * 16 + c) * 16 + d, rest)
  | _ => none

def isHighHalf (n : Nat) : Bool := 0xD800 ≤ n && n < 0xDC00

def isLowHalf (n : Nat) : Bool := 0xDC00 ≤ n && n < 0xE000

/-- The character of a unit, or the one that carries half of a pair. -/
def unitChar (n : Nat) : Char :=
  if isHighHalf n || isLowHalf n then Text.halfChar n else Char.ofNat n

def pairChar (high low : Nat) : Char :=
  Text.wholeChar (Char.ofNat (0x10000 + (high - 0xD800) * 0x400 + (low - 0xDC00)))

def shortEscape? : Char → Option Char
  | '"' => some '"'
  | '\\' => some '\\'
  | '/' => some '/'
  | 'b' => some (Char.ofNat 8)
  | 'f' => some (Char.ofNat 12)
  | 'n' => some '\n'
  | 'r' => some '\r'
  | 't' => some '\t'
  | _ => none

/-- Reads the unit after `\u`; `mark` is the text from the letter on. A string goes on after an
escape, so an escape at the very end of the text is invalid. -/
def readUnit (mark : List Char) : Except Fault (Nat × List Char) :=
  match fourHex? (mark.drop 1) with
  | some (n, next :: rest) => .ok (n, next :: rest)
  | _ => .error (.malformed .invalidUnicodeEscape mark)

/-- Reads one character written as an escape; `rest` is the text after the backslash, and `opening`
the text from the opening quote on. -/
def readEscape (opening rest : List Char) : Except Fault (Char × List Char) :=
  match rest with
  | [] => .error (.malformed .unterminatedString opening)
  | 'u' :: _ => do
    let (n, after) ← readUnit rest
    if isHighHalf n then
      match after with
      | '\\' :: 'u' :: digits =>
        if 4 < digits.length then
          match fourHex? digits with
          | none => .error (.malformed .invalidUnicodeEscape ('u' :: digits))
          | some (low, later) =>
            if isLowHalf low then
              return (pairChar n low, later)
            else return (unitChar n, after)
        else return (unitChar n, after)
      | _ => return (unitChar n, after)
    else return (unitChar n, after)
  | c :: after =>
    match shortEscape? c with
    | some d => .ok (d, after)
    | none => .error (.malformed .invalidEscape ('\\' :: rest))

def readString (opening : List Char) :
    (fuel : Nat) → List Char → Except Fault (List Char × List Char)
  | 0, _ => .error (.malformed .unterminatedString opening)
  | _ + 1, [] => .error (.malformed .unterminatedString opening)
  | _ + 1, '"' :: rest => .ok ([], rest)
  | fuel + 1, '\\' :: rest => do
    let (c, after) ← readEscape opening rest
    let (cs, after) ← readString opening fuel after
    return (c :: cs, after)
  | fuel + 1, c :: rest =>
    if c.toNat < 32 then .error (.malformed .invalidControl (c :: rest))
    else do
      let (cs, after) ← readString opening fuel rest
      return (Text.wholeChar c :: cs, after)

/-- Reads a string; `opening` is the text from its opening quote on. -/
def stringAt (opening : List Char) : Except Fault (String × List Char) := do
  let (cs, rest) ← readString opening opening.length (opening.drop 1)
  return (String.ofList cs, rest)

/-- The fraction at the front of a text: a point and at least one digit. -/
def takeFraction (cs : List Char) : List Char × List Char :=
  match cs with
  | '.' :: rest =>
    if (rest.takeWhile Decimal.isAsciiDigit).isEmpty then ([], cs)
    else (rest.takeWhile Decimal.isAsciiDigit, rest.dropWhile Decimal.isAsciiDigit)
  | _ => ([], cs)

def takeExponent? (cs : List Char) : Option (Int × List Char) :=
  match cs with
  | e :: rest =>
    let (negative, power) := Decimal.takeSign rest
    let digits := power.takeWhile Decimal.isAsciiDigit
    if (e = 'e' || e = 'E') && !digits.isEmpty then
      some (Decimal.exponentValue negative digits, power.dropWhile Decimal.isAsciiDigit)
    else none
  | [] => none

def takeWhole (cs : List Char) : List Char × List Char :=
  match cs with
  | '0' :: rest => (['0'], rest)
  | _ => (cs.takeWhile Decimal.isAsciiDigit, cs.dropWhile Decimal.isAsciiDigit)

/-- Reads a number. With a fraction or an exponent it is a floating number, else an integer. -/
def readNumber (limits : Limits) (cs : List Char) : Except Fault (Value × List Char) :=
  let negative := cs.head? = some '-'
  let (whole, afterWhole) := takeWhole (if negative then cs.drop 1 else cs)
  if whole.isEmpty then .error (.malformed .expectingValue cs)
  else
    let (fraction, afterFraction) := takeFraction afterWhole
    match takeExponent? afterFraction with
    | some (exponent, rest) =>
      let x := Decimal.ofDigits (whole ++ fraction) (exponent - fraction.length)
      .ok (.float (Decimal.withSign negative x), rest)
    | none =>
      if fraction.isEmpty then
        if limits.digits.any (· < whole.length) then .error (.tooLong whole.length)
        else
          let n : Int := Decimal.digitsValue whole
          .ok (.int (if negative then -n else n), afterFraction)
      else
        let x := Decimal.ofDigits (whole ++ fraction) (-(fraction.length : Int))
        .ok (.float (Decimal.withSign negative x), afterFraction)

def words : List (List Char × Value) :=
  [("null".toList, .null), ("true".toList, .bool true), ("false".toList, .bool false),
    ("NaN".toList, .float Decimal.notANumber), ("Infinity".toList, .float Decimal.infinity),
    ("-Infinity".toList, .float (-Decimal.infinity))]

def takeWord? (cs : List Char) : Option (Value × List Char) :=
  words.findSome? fun (word, v) =>
    if word.isPrefixOf cs then some (v, cs.drop word.length) else none

def readScalar (limits : Limits) (cs : List Char) : Except Fault (Value × List Char) :=
  match cs with
  | '"' :: _ => do
    let (s, rest) ← stringAt cs
    return (.str s, rest)
  | _ =>
    match takeWord? cs with
    | some found => .ok found
    | none => readNumber limits cs

mutual

/-- Reads a value; `depth` is how many containers may still be opened. -/
def readValue (limits : Limits) : (fuel depth : Nat) → List Char → Except Fault (Value × List Char)
  | 0, _, cs => .error (.malformed .expectingValue cs)
  | fuel + 1, depth, cs =>
    match cs, depth with
    | '[' :: _, 0 => .error .tooDeep
    | '\x7b' :: _, 0 => .error .tooDeep
    | '[' :: rest, depth + 1 =>
      match skipGap rest with
      | ']' :: after => .ok (.list [], after)
      | inside => do
        let (items, after) ← readItems limits fuel depth inside
        return (.list items, after)
    | '\x7b' :: rest, depth + 1 =>
      match skipGap rest with
      | '\x7d' :: after => .ok (.object [], after)
      | inside => do
        let (members, after) ← readMembers limits fuel depth [] inside
        return (.object members, after)
    | _, _ => readScalar limits cs

/-- Reads the items of a list from the first one on, its closing bracket included. -/
def readItems (limits : Limits) :
    (fuel depth : Nat) → List Char → Except Fault (List Value × List Char)
  | 0, _, cs => .error (.malformed .expectingValue cs)
  | fuel + 1, depth, cs => do
    let (item, rest) ← readValue limits fuel depth cs
    match skipGap rest with
    | ']' :: after => return ([item], after)
    | ',' :: after =>
      let (items, after) ← readItems limits fuel depth (skipGap after)
      return (item :: items, after)
    | rest => .error (.malformed .expectingComma rest)

/-- Reads the members of an object from the first one on, its closing brace included. A name that
occurs again keeps its first place and takes the last value. -/
def readMembers (limits : Limits) :
    (fuel depth : Nat) → OrderedMap String Value → List Char →
      Except Fault (OrderedMap String Value × List Char)
  | 0, _, _, cs => .error (.malformed .expectingName cs)
  | fuel + 1, depth, read, cs =>
    match cs with
    | '"' :: _ => do
      let (name, rest) ← stringAt cs
      match skipGap rest with
      | ':' :: rest =>
        let (v, rest) ← readValue limits fuel depth (skipGap rest)
        let read := read.insert name v
        match skipGap rest with
        | '\x7d' :: after => return (read, after)
        | ',' :: after => readMembers limits fuel depth read (skipGap after)
        | rest => .error (.malformed .expectingComma rest)
      | rest => .error (.malformed .expectingColon rest)
    | _ => .error (.malformed .expectingName cs)

end

/-- Reads a text as one value. Each step of the reader uses up a character, so the length of the
text is fuel enough. -/
def read (limits : Limits) (cs : List Char) : Except Fault Value := do
  let (v, rest) ← readValue limits (2 * cs.length + 2) limits.depth (skipGap cs)
  match skipGap rest with
  | [] => return v
  | rest => .error (.malformed .extraData rest)

/-- The line of a place in a text, given the text from that place on; lines count from one. -/
def lineOf (cs rest : List Char) : Nat :=
  1 + Text.lineFeeds cs - Text.lineFeeds rest

end KnotAtlas.Json
