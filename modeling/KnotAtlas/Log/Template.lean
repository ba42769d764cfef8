import KnotAtlas.Decimal.Rounded
import KnotAtlas.Value.Display

/-!
Message templates. A directive in a template starts with a per cent sign and stands for the next
argument, or for the member of a single object argument that it names; two per cent signs stand for
one. A template that does not fit its arguments gives no message.
-/

namespace KnotAtlas.Log.Template

structure Shape where
  /-- The text goes to the left of its place. -/
  left : Bool := false
  /-- A sign is written for numbers that are not negative too. -/
  plus : Bool := false
  /-- A blank is written in the place of a plus. -/
  blank : Bool := false
  /-- Numbers are filled with zeros. -/
  zero : Bool := false
  /-- Bases are marked, and points and zeros kept. -/
  marked : Bool := false
  width : Nat := 0
  precision : Option Nat := none

/-- A directive: the member that it names, if it names one, its shape, and its letter. -/
structure Directive where
  key : Option String
  shape : Shape
  letter : Char

/-- What the directives of a template draw on: values to come, and an object whose members can be
named. -/
structure Arguments where
  next : List Value
  named : Option (List (String × Value))

/-- The arguments of a list; a single object that is not empty gives members too. -/
def Arguments.ofList (values : List Value) : Arguments :=
  match values with
  | [.object (m :: ms)] => ⟨values, some (m :: ms)⟩
  | _ => ⟨values, none⟩

/-- Whether all arguments were drawn on; members need not be. -/
def Arguments.isSpent (a : Arguments) : Bool :=
  a.named.isSome || a.next.isEmpty

def Arguments.take? (a : Arguments) : Option (Value × Arguments) :=
  match a.next with
  | v :: rest => some (v, { a with next := rest })
  | [] => none

/-- The argument that a directive draws on; after a named one no other is to come. -/
def Arguments.for? (a : Arguments) (key : Option String) : Option (Value × Arguments) :=
  match key with
  | none => a.take?
  | some name => do
    let v ← OrderedMap.find? (← a.named) name
    return (v, { a with next := [] })

def takeFlags (s : Shape) : List Char → Shape × List Char
  | '-' :: rest => takeFlags { s with left := true } rest
  | '+' :: rest => takeFlags { s with plus := true } rest
  | ' ' :: rest => takeFlags { s with blank := true } rest
  | '0' :: rest => takeFlags { s with zero := true } rest
  | '#' :: rest => takeFlags { s with marked := true } rest
  | rest => (s, rest)

/-- A number at the front of a text, zero if there is none. -/
def takeNumber (cs : List Char) : Nat × List Char :=
  ((cs.takeWhile Char.isDigit).foldl (fun n c => n * 10 + (c.toNat - 48)) 0,
    cs.dropWhile Char.isDigit)

def sizeLimit : Nat := Nat.pow 2 31

def boundedSize? (n : Int) : Option Int :=
  if n.natAbs < sizeLimit then some n else none

def takeSize? (a : Arguments) : List Char → Option (Int × List Char × Arguments)
  | '*' :: rest =>
    match a.take? with
    | some (.int n, a) => (boundedSize? n).map (·, rest, a)
    | some (.bool b, a) => some (b.toNat, rest, a)
    | _ => none
  | cs =>
    let (n, rest) := takeNumber cs
    (boundedSize? n).map (·, rest, a)

/-- A shape with a width; a negative one goes to the left. -/
def Shape.withWidth (s : Shape) (n : Int) : Shape :=
  { s with width := n.natAbs, left := s.left || n < 0 }

/-- The text up to the parenthesis that closes the `depth + 1` open ones, and what follows it. -/
def takeBalanced? (depth : Nat) : List Char → Option (List Char × List Char)
  | [] => none
  | ')' :: rest =>
    match depth with
    | 0 => some ([], rest)
    | outer + 1 => (takeBalanced? outer rest).map fun (key, after) => (')' :: key, after)
  | '(' :: rest => (takeBalanced? (depth + 1) rest).map fun (key, after) => ('(' :: key, after)
  | c :: rest => (takeBalanced? depth rest).map fun (key, after) => (c :: key, after)

/-- The name in parentheses at the front of a directive; parentheses within it come in pairs. -/
def takeKey? : List Char → Option (Option String × List Char)
  | '(' :: rest => (takeBalanced? 0 rest).map fun (key, after) => (some (String.ofList key), after)
  | cs => some (none, cs)

/-- Letters that say how long an integer is; they change nothing. -/
def skipLength : List Char → List Char
  | 'h' :: rest => rest
  | 'l' :: rest => rest
  | 'L' :: rest => rest
  | cs => cs

def takeDirective? (a : Arguments) (cs : List Char) :
    Option (Directive × List Char × Arguments) := do
  let (key, cs) ← takeKey? cs
  if key.isSome && a.named.isNone then none
  let (shape, cs) := takeFlags {} cs
  let (width, cs, a) ← takeSize? a cs
  let shape := shape.withWidth width
  let (shape, cs, a) ←
    match cs with
    | '.' :: rest => do
      let (n, rest, a) ← takeSize? a rest
      pure ({ shape with precision := some n.toNat }, rest, a)
    | cs => pure (shape, cs, a)
  match skipLength cs with
  | letter :: rest => return (⟨key, shape, letter⟩, rest, a)
  | [] => none

/-- Fills a text to a width; zeros go between the lead (sign and mark of a base) and the digits. -/
def Shape.place (s : Shape) (lead body : List Char) : List Char :=
  let missing := s.width - (lead.length + body.length)
  if s.left then lead ++ body ++ List.replicate missing ' '
  else if s.zero then lead ++ List.replicate missing '0' ++ body
  else List.replicate missing ' ' ++ lead ++ body

def Shape.sign (s : Shape) (negative : Bool) : List Char :=
  if negative then ['-'] else if s.plus then ['+'] else if s.blank then [' '] else []

/-- Sets a text, cut to the precision; zeros fill numbers only. -/
def Shape.setText (s : Shape) (cs : List Char) : List Char :=
  let cs := match s.precision with
    | some n => cs.take n
    | none => cs
  { s with zero := false }.place [] cs

def Shape.setInteger (s : Shape) (base : Nat) (mark : List Char) (upper : Bool) (n : Int) :
    List Char :=
  let digits := Nat.toDigits base n.natAbs
  let digits := if upper then digits.map Char.toUpper else digits.map Char.toLower
  let digits := List.replicate (s.precision.getD 0 - digits.length) '0' ++ digits
  s.place (s.sign (n < 0) ++ if s.marked then mark else []) digits

def Shape.setFloat (s : Shape) (upper : Bool) (write : Decimal.Binary → List Char) (x : Float) :
    List Char :=
  let body :=
    if x.isNaN then "nan".toList
    else
      match Decimal.Binary.ofFloat? x with
      | some b => write b
      | none => "inf".toList
  let negative := !x.isNaN && Decimal.isNegative x
  s.place (s.sign negative) (if upper then body.map Char.toUpper else body)

def integerOf? : Value → Option Int
  | .int n => some n
  | .bool b => some b.toNat
  | .float x =>
    (Decimal.Binary.ofFloat? x).map fun b =>
      let (num, den) := b.ratio
      if Decimal.isNegative x then -((num / den : Nat) : Int) else (num / den : Nat)
  | _ => none

def exactInteger? : Value → Option Int
  | .float _ => none
  | v => integerOf? v

def floatOf? : Value → Option Float
  | .float x => some x
  | .int n => Decimal.ofInt? n
  | .bool b => some (if b then 1 else 0)
  | _ => none

def charOf? : Value → Option Char
  | .str s =>
    match s.toList with
    | [c] => some c
    | _ => none
  | v => do
    let n ← exactInteger? v
    if 0 ≤ n ∧ n.toNat.isValidChar then some (Char.ofNat n.toNat) else none

def asciiChar (c : Char) : List Char :=
  if c.toNat < 128 then [c]
  else if c.toNat < 0x100 then '\\' :: 'x' :: Text.hexDigits 2 c.toNat
  else if c.toNat < 0x10000 then '\\' :: 'u' :: Text.hexDigits 4 c.toNat
  else '\\' :: 'U' :: Text.hexDigits 8 c.toNat

def Shape.set? (s : Shape) (letter : Char) (v : Value) : Option (List Char) :=
  let places := s.precision.getD 6
  match letter with
  | 's' => some (s.setText v.text.toList)
  | 'r' => some (s.setText v.display.toList)
  | 'a' => some (s.setText (v.display.toList.flatMap asciiChar))
  | 'd' | 'i' | 'u' => (integerOf? v).map (s.setInteger 10 [] false)
  | 'o' => (exactInteger? v).map (s.setInteger 8 ['0', 'o'] false)
  | 'x' => (exactInteger? v).map (s.setInteger 16 ['0', 'x'] false)
  | 'X' => (exactInteger? v).map (s.setInteger 16 ['0', 'X'] true)
  | 'c' => (charOf? v).map fun c => { s with precision := none }.setText [c]
  | 'f' => (floatOf? v).map (s.setFloat false (Decimal.fixed s.marked places))
  | 'F' => (floatOf? v).map (s.setFloat true (Decimal.fixed s.marked places))
  | 'e' => (floatOf? v).map (s.setFloat false (Decimal.exponential s.marked places))
  | 'E' => (floatOf? v).map (s.setFloat true (Decimal.exponential s.marked places))
  | 'g' => (floatOf? v).map (s.setFloat false (Decimal.general s.marked places))
  | 'G' => (floatOf? v).map (s.setFloat true (Decimal.general s.marked places))
  | _ => none

/-- Fills a template; `fuel` bounds its length. -/
def fillFrom (fuel : Nat) (a : Arguments) (cs : List Char) : Option (List Char × Arguments) :=
  match fuel, cs with
  | _, [] => some ([], a)
  | 0, _ => none
  | fuel + 1, '%' :: '%' :: rest => do
    let (later, a) ← fillFrom fuel a rest
    return ('%' :: later, a)
  | fuel + 1, '%' :: rest => do
    let (d, rest, a) ← takeDirective? a rest
    let (v, a) ← a.for? d.key
    let text ← d.shape.set? d.letter v
    let (later, a) ← fillFrom fuel a rest
    return (text ++ later, a)
  | fuel + 1, c :: rest => do
    let (later, a) ← fillFrom fuel a rest
    return (c :: later, a)

/-- The message of a template. Without arguments it is the template as it stands. -/
def fill? (template : String) (arguments : List Value) : Option String :=
  if arguments.isEmpty then some template
  else do
    let cs := template.toList
    let (text, rest) ← fillFrom cs.length (.ofList arguments) cs
    if rest.isSpent then some (String.ofList text) else none

end KnotAtlas.Log.Template
