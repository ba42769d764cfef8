/-!
Three ways to cut a text: at one character, at every line end of any kind, and into lines for
reading, where a carriage return (alone or before a line feed) counts as a line feed.
-/

namespace KnotAtlas.Text

/-- The pieces of a text between the characters that satisfy `p`; at least one piece. -/
def splitBy (p : Char → Bool) : List Char → List (List Char)
  | [] => [[]]
  | c :: rest =>
    if p c then [] :: splitBy p rest
    else
      match splitBy p rest with
      | piece :: pieces => (c :: piece) :: pieces
      | [] => [[c]]

/-- The pieces of a text between occurrences of `separator`. -/
def splitOn (separator : Char) (s : String) : List String :=
  (splitBy (· == separator) s.toList).map String.ofList

/-- The part of a text before the first `separator`, or all of it. -/
def before (separator : Char) (s : String) : String :=
  String.ofList (s.toList.takeWhile (· != separator))

/-- Characters that end a line: line feeds, carriage returns, vertical tab, form feed, the
information separators, and the two Unicode separators. -/
def isLineEnd (c : Char) : Bool :=
  let n := c.toNat
  (10 ≤ n && n ≤ 13) || (28 ≤ n && n ≤ 30) || n == 133 || n == 8232 || n == 8233

/-- The lines of a text without their line ends. A line end at the very end starts no new line, and
a carriage return with its line feed is one line end. -/
def linesOf : List Char → List (List Char)
  | [] => []
  | '\r' :: '\n' :: rest => [] :: linesOf rest
  | c :: rest =>
    if isLineEnd c then [] :: linesOf rest
    else
      match linesOf rest with
      | line :: later => (c :: line) :: later
      | [] => [[c]]

def lines (s : String) : List String :=
  (linesOf s.toList).map String.ofList

/-- Turns every carriage return, alone or before a line feed, into a line feed. -/
def plainLineEnds : List Char → List Char
  | [] => []
  | '\r' :: '\n' :: rest => '\n' :: plainLineEnds rest
  | c :: rest => (if c = '\r' then '\n' else c) :: plainLineEnds rest

def lineFeeds (cs : List Char) : Nat :=
  cs.count '\n'

end KnotAtlas.Text
