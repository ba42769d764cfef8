/-!
Commands to a terminal inside of a text: an escape character, a bracket, digits and marks between
them, and a letter. A text that does not go to a terminal is written without them.
-/

namespace KnotAtlas.Text

def commandStart : Char := Char.ofNat 27

def isCommandPart (c : Char) : Bool :=
  c = ';' || c = '?' || ('0' ≤ c && c ≤ '9')

/-- How many characters a command at the front of a text has; zero if there is none. -/
def commandLength (cs : List Char) : Nat :=
  match cs with
  | a :: '[' :: rest =>
    let parts := rest.takeWhile isCommandPart
    match rest.drop parts.length with
    | c :: _ => if a = commandStart && c.isAlpha then parts.length + 3 else 0
    | [] => 0
  | _ => 0

def dropCommands (left : Nat) : List Char → List Char
  | [] => []
  | c :: rest =>
    match left with
    | n + 1 => dropCommands n rest
    | 0 =>
      match commandLength (c :: rest) with
      | n + 1 => dropCommands n rest
      | 0 => c :: dropCommands 0 rest

def withoutCommands (s : String) : String :=
  String.ofList (dropCommands 0 s.toList)

end KnotAtlas.Text
