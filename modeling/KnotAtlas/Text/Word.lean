import KnotAtlas.Text.Ranges
import KnotAtlas.Text.WordRanges

/-!
Word characters and identifiers. An identifier starts with an ASCII letter or an underscore and goes
on with word characters of any script.
-/

namespace KnotAtlas.Text

def isWordChar (c : Char) : Bool :=
  if c.toNat < 128 then c.isAlphanum || c == '_' else inRanges wordRanges c.toNat

def isIdentifierStart (c : Char) : Bool :=
  c.isAlpha || c == '_'

/-- Takes the longest identifier from the front of a text. -/
def takeIdentifier? : List Char → Option (List Char × List Char)
  | c :: rest =>
    if isIdentifierStart c then some (c :: rest.takeWhile isWordChar, rest.dropWhile isWordChar)
    else none
  | [] => none

end KnotAtlas.Text
