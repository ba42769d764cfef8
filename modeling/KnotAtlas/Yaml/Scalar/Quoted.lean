import KnotAtlas.Json.Reader
import KnotAtlas.Yaml.Cursor
import KnotAtlas.Yaml.Fault

/-!
Scalars in quotes. Blanks around a break are left out and breaks fold; in double quotes a backslash
starts an escape, and a break after a backslash is left out. A mark between documents must not stand
at the front of a line.
-/

namespace KnotAtlas.Yaml

def escapes : List (Char × Nat) :=
  [('0', 0), ('a', 7), ('b', 8), ('t', 9), ('\t', 9), ('n', 10), ('v', 11), ('f', 12), ('r', 13),
    ('e', 27), (' ', 32), ('"', 34), ('/', 47), ('\\', 92), ('N', 0x85), ('_', 0xA0),
    ('L', 0x2028), ('P', 0x2029)]

def codeWidth? : Char → Option Nat
  | 'x' => some 2
  | 'u' => some 4
  | 'U' => some 8
  | _ => none

def lastCode : Nat := 0x10FFFF

/-- The first number past those that are tried at all. -/
def codeBound : Nat := 0x80000000

/-- The character of a number. A number of half a pair stands for no character of its own; a
replacement takes its place. -/
def ofCode (n : Nat) : Except Fault Char :=
  if codeBound ≤ n then .error .codePointTooLarge
  else if lastCode < n then .error .codePoint
  else if n.isValidChar then .ok (Char.ofNat n)
  else .ok (Char.ofNat 0xFFFD)

/-- The character of an escape, and how many characters the escape has after the backslash. -/
def readEscape : List Char → Except Fault (Char × Nat)
  | [] => .error .malformed
  | x :: rest =>
    match codeWidth? x, escapes.lookup x with
    | some width, _ =>
      match (rest.take width).mapM Json.hexValue? with
      | none => .error .malformed
      | some digits =>
        if digits.length < width then .error .malformed
        else (ofCode (digits.foldl (· * 16 + ·) 0)).map fun c => (c, width + 1)
    | none, some n => .ok (Char.ofNat n, 1)
    | none, none => .error .malformed

/-- The breaks that follow a break, with the blanks between them left out, up to the next other
character. -/
def quotedBreaks : (fuel : Nat) → Cursor → Except Fault (List Char × Cursor)
  | 0, _ => .error .malformed
  | fuel + 1, c =>
    if atDocumentMark c then .error .malformed
    else
      let d := c.skipWhile isBlank
      match takeBreak? d with
      | none => .ok ([], d)
      | some (x, e) => (quotedBreaks fuel e).map fun (more, f) => (x :: more, f)

/-- Reads a scalar from after its opening quote. In single quotes a quote is written twice. -/
def readQuoted (quote : Char) : (fuel : Nat) → Cursor → Except Fault (List Char × Cursor)
  | 0, _ => .error .malformed
  | fuel + 1, c => do
    let blanks := c.rest.takeWhile isBlank
    let d := c.skip blanks.length
    match takeBreak? d with
    | some (x, e) => do
      let (more, e) ← quotedBreaks fuel e
      let (text, e) ← readQuoted quote fuel e
      return (folded x more ++ text, e)
    | none =>
      match d.rest with
      | [] => .error .malformed
      | x :: rest =>
        if x = quote then
          if quote = '\'' && rest.head? = some quote then do
            let (text, e) ← readQuoted quote fuel (d.skip 2)
            return (blanks ++ quote :: text, e)
          else return (blanks, d.next)
        else if quote = '"' && x = '\\' then
          match takeBreak? d.next with
          | some (_, e) => do
            let (more, e) ← quotedBreaks fuel e
            let (text, e) ← readQuoted quote fuel e
            return (blanks ++ more ++ text, e)
          | none => do
            let (y, width) ← readEscape rest
            let (text, e) ← readQuoted quote fuel (d.skip (width + 1))
            return (blanks ++ y :: text, e)
        else do
          let (text, e) ← readQuoted quote fuel d.next
          return (blanks ++ x :: text, e)

end KnotAtlas.Yaml
