import KnotAtlas.Datum.Display

/-!
Faults of YAML text. A text that breaks the grammar is refused without words; the other faults tell
which scalar or key stands for nothing.
-/

namespace KnotAtlas.Yaml

/-- Why a text is no YAML or stands for no value. -/
inductive Fault where
  | malformed
  /-- An integer without digits. -/
  | integerText (base : Nat)
  | integerTooLong (digits : Nat)
  | floatText (text : String)
  /-- An escape for a number that no character has. -/
  | codePoint
  /-- An escape for a number that is too large to be tried. -/
  | codePointTooLarge
  /-- A key in which something may change. -/
  | changingKey (kind : String)
  | date (fault : DateFault)
  deriving DecidableEq, Repr

def Fault.message? : Fault → Option String
  | .malformed => none
  | .integerText base => some s!"invalid literal for int() with base {base}: ''"
  | .integerTooLong digits => some (Decimal.tooLong (some digits))
  | .floatText text => some ("could not convert string to float: " ++ Text.quoted text)
  | .codePoint => some "chr() arg not in range(0x110000)"
  | .codePointTooLarge => some "Python int too large to convert to C int"
  | .changingKey kind => some s!"unhashable type: '{kind}'"
  | .date fault => some fault.message

end KnotAtlas.Yaml
