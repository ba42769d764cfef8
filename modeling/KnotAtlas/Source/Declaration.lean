import KnotAtlas.Text.Lines
import KnotAtlas.Text.Word

/-!
Declarations in the source text of a story. A knot is declared on a line of its own: two or more
equal signs, a name, perhaps parameters, more equal signs and a comment. A variable is declared by
`VAR` and a name at the start of a line. Functions look like knots but are none.
-/

namespace KnotAtlas.Source

/-- Whether a character may stand between the parts of a declaration. -/
def isGap (c : Char) : Bool :=
  c = ' ' || c = '\t'

def skipGap (cs : List Char) : List Char :=
  cs.dropWhile isGap

/-- Skips two or more equal signs; none if there are fewer. -/
def skipRule? (cs : List Char) : Option (List Char) :=
  if 2 ≤ (cs.takeWhile (· = '=')).length then some (cs.dropWhile (· = '=')) else none

/-- Skips parameters in parentheses; a line without them is left as it is, one with an opening
parenthesis alone is refused. -/
def skipParameters? (cs : List Char) : Option (List Char) :=
  match cs with
  | '(' :: rest =>
    match rest.dropWhile (· != ')') with
    | _ :: after => some after
    | [] => none
  | _ => some cs

def skipClosingRule? (cs : List Char) : Option (List Char) :=
  match cs with
  | '=' :: _ => skipRule? cs
  | _ => some cs

/-- Whether nothing but a comment or a carriage return is left of a line. -/
def isLineRest (cs : List Char) : Bool :=
  match cs with
  | [] => true
  | ['\r'] => true
  | '/' :: '/' :: _ => true
  | _ => false

/-- The name that stands where a function's keyword would. -/
def functionWord : List Char := "function".toList

/-- The knot that a line declares; lines hold no line feed. -/
def knotOnLine? (line : List Char) : Option (List Char) := do
  let afterRule ← skipRule? (skipGap line)
  let (name, afterName) ← Text.takeIdentifier? (skipGap afterRule)
  if name = functionWord then none
  else
    let afterParameters ← skipParameters? (skipGap afterName)
    let rest ← skipClosingRule? (skipGap afterParameters)
    if isLineRest (skipGap rest) then some name else none

def variableOnLine? (line : List Char) : Option (List Char) :=
  match skipGap line with
  | 'V' :: 'A' :: 'R' :: rest =>
    if (rest.takeWhile isGap).isEmpty then none
    else (Text.takeIdentifier? (skipGap rest)).map (·.1)
  | _ => none

def feedLines (content : String) : List (List Char) :=
  Text.splitBy (· = '\n') content.toList

def knots (content : String) : List String :=
  (feedLines content).filterMap fun line => (knotOnLine? line).map String.ofList

def variableNames (content : String) : List String :=
  (feedLines content).filterMap fun line => (variableOnLine? line).map String.ofList

/-- The line of the first declaration of a knot. Lines end at line ends of any kind and count from
one. -/
def knotLine? (content knot : String) : Option Nat :=
  ((Text.linesOf content.toList).findIdx? fun line =>
    (knotOnLine? line).map String.ofList = some knot).map (· + 1)

end KnotAtlas.Source
