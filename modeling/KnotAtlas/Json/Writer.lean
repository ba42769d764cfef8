import KnotAtlas.Value
import KnotAtlas.Decimal.Layout
import KnotAtlas.Text.Halves
import KnotAtlas.Text.Quoted

/-!
Writing JSON text, on one line or indented by two spaces. Characters beyond ASCII are written as
they are; only quotes, backslashes, controls and halves of pairs are escaped.
-/

namespace KnotAtlas.Json

def escapeChar (c : Char) : List Char :=
  if c = '"' then ['\\', '"']
  else if c = '\\' then ['\\', '\\']
  else if c = '\n' then ['\\', 'n']
  else if c = '\r' then ['\\', 'r']
  else if c = '\t' then ['\\', 't']
  else if c.toNat = 8 then ['\\', 'b']
  else if c.toNat = 12 then ['\\', 'f']
  else if c.toNat < 32 then '\\' :: 'u' :: Text.hexDigits 4 c.toNat
  else if Text.isHalf c then '\\' :: 'u' :: Text.hexDigits 4 (Text.halfUnit c)
  else [c]

def quote (s : String) : String :=
  String.ofList ('"' :: s.toList.flatMap escapeChar ++ ['"'])

/-- Floating numbers as numbers are written elsewhere, with words of their own for infinity and for
what is no number. -/
def numberLayout : Decimal.Layout :=
  { Decimal.Layout.plain with infinity := "Infinity", notANumber := "NaN" }

def writeScalar : Value → String
  | .null => "null"
  | .bool b => if b then "true" else "false"
  | .int n => toString n
  | .float x => numberLayout.write x
  | .str s => quote s
  | .list _ => "[]"
  | .object _ => "\x7b\x7d"

mutual

def compact : Value → String
  | .list items => "[" ++ ", ".intercalate (compactItems items) ++ "]"
  | .object members => "\x7b" ++ ", ".intercalate (compactMembers members) ++ "\x7d"
  | v => writeScalar v

def compactItems : List Value → List String
  | [] => []
  | v :: rest => compact v :: compactItems rest

def compactMembers : List (String × Value) → List String
  | [] => []
  | (name, v) :: rest => (quote name ++ ": " ++ compact v) :: compactMembers rest

end

def newLine (depth : Nat) : String :=
  String.ofList ('\n' :: List.replicate (2 * depth) ' ')

def block (depth : Nat) (opening closing : String) (parts : List String) : String :=
  let inner := newLine (depth + 1)
  opening ++ inner ++ ("," ++ inner).intercalate parts ++ newLine depth ++ closing

mutual

/-- A value indented by two spaces per level; empty containers stay on their line. -/
def indented (depth : Nat) : Value → String
  | .list [] => "[]"
  | .object [] => "\x7b\x7d"
  | .list (v :: rest) => block depth "[" "]" (indentedItems (depth + 1) (v :: rest))
  | .object (m :: rest) => block depth "\x7b" "\x7d" (indentedMembers (depth + 1) (m :: rest))
  | v => writeScalar v

def indentedItems (depth : Nat) : List Value → List String
  | [] => []
  | v :: rest => indented depth v :: indentedItems depth rest

def indentedMembers (depth : Nat) : List (String × Value) → List String
  | [] => []
  | (name, v) :: rest => (quote name ++ ": " ++ indented depth v) :: indentedMembers depth rest

end

end KnotAtlas.Json
