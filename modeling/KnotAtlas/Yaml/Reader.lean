import KnotAtlas.Yaml.Meaning
import KnotAtlas.Yaml.Token.Scan

/-!
Reading YAML: block and flow collections, plain and quoted scalars, comments, and marks around the
one document of a text. Anchors, tags, directives and scalars kept line by line are not read.
-/

namespace KnotAtlas.Yaml

def isAllowed (c : Char) : Bool :=
  let n := c.toNat
  n = 9 || n = 10 || n = 13 || (32 ≤ n && n < 127) || n = 0x85 ||
    (0xA0 ≤ n && n != 0xFFFE && n != 0xFFFF)

def read (cs : List Char) : Except Fault Datum := do
  if cs.all isAllowed then (← Node.ofTokens (Token.ofText cs)).meaning
  else .error .malformed

end KnotAtlas.Yaml
