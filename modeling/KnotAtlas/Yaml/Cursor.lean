/-!
Positions in YAML text. A cursor knows how many characters, lines, and characters of its line are
behind it. Only a line feed starts a new line for that count, although other characters end lines
too; a byte order mark takes no column.
-/

namespace KnotAtlas.Yaml

/-- The rest of a text, and how far into the text it starts. -/
structure Cursor where
  rest : List Char
  index : Nat := 0
  line : Nat := 0
  column : Nat := 0

namespace Cursor

def mark : Char := Char.ofNat 0xFEFF

def next (c : Cursor) : Cursor :=
  match c.rest with
  | [] => c
  | x :: rest =>
    if x = '\n' then ⟨rest, c.index + 1, c.line + 1, 0⟩
    else ⟨rest, c.index + 1, c.line, if x = mark then c.column else c.column + 1⟩

def skip : Nat → Cursor → Cursor
  | 0, c => c
  | n + 1, c => skip n c.next

/-- The character `n` places ahead; none past the end. -/
def ahead (c : Cursor) (n : Nat) : Option Char :=
  c.rest[n]?

def head (c : Cursor) : Option Char :=
  c.rest.head?

/-- Past all characters that satisfy `p`. -/
def skipWhile (p : Char → Bool) (c : Cursor) : Cursor :=
  c.skip (c.rest.takeWhile p).length

end Cursor

def nextLine : Char := Char.ofNat 0x85

def endsLine : Option Char → Bool
  | none => true
  | some c => c = '\n' || c = '\r' || c = nextLine

def endsWord (c : Option Char) : Bool :=
  endsLine c || c = some ' ' || c = some '\t'

def isBlank (c : Char) : Bool :=
  c = ' ' || c = '\t'

/-- The separators of lines and paragraphs; they are breaks that are kept as they are. -/
def isSeparator (c : Char) : Bool :=
  c.toNat = 0x2028 || c.toNat = 0x2029

def isBreak (c : Char) : Bool :=
  c = '\n' || c = '\r' || c = nextLine || isSeparator c

def takeBreak? (c : Cursor) : Option (Char × Cursor) :=
  match c.rest with
  | '\r' :: '\n' :: _ => some ('\n', c.skip 2)
  | x :: _ => if isBreak x then some (if isSeparator x then x else '\n', c.next) else none
  | [] => none

def atWord (word : String) (c : Cursor) : Bool :=
  word.toList.isPrefixOf c.rest && endsWord (c.ahead 3)

def atDocumentMark (c : Cursor) : Bool :=
  atWord "---" c || atWord "..." c

/-- A break between two pieces of a scalar, with the breaks that follow it: one line feed alone
becomes a blank, and with more the first is left out. -/
def folded (first : Char) (more : List Char) : List Char :=
  if first != '\n' then first :: more
  else if more.isEmpty then [' ']
  else more

end KnotAtlas.Yaml
