import KnotAtlas.Decimal.DigitLimit
import KnotAtlas.Json.Reader
import KnotAtlas.Text.Utf8

/-!
Compiled stories as documents. A story is given as text, as bytes, or decoded; the last item of the
list under `root` maps names to knot bodies. A document that is not of this form has a fault, and
each fault has one wording.
-/

namespace KnotAtlas.Story

/-- A story as it is handed over. -/
inductive Source where
  | text (s : String)
  | bytes (bs : List UInt8)
  | decoded (v : Value)

/-- A value as a story; a text is taken for the text of a document. -/
def Source.ofValue : Value → Source
  | .str s => .text s
  | v => .decoded v

/-- What keeps a document from being a compiled story. -/
inductive Fault where
  | notUtf8 (cause : Text.Utf8.Cause)
  | notJson (cause : Json.Cause) (line : Nat)
  | tooDeep
  | notObject
  | noRoot
  | noNamedContent
  deriving DecidableEq, Repr

def Fault.reason : Fault → String
  | .notUtf8 cause => s!"not valid UTF-8 ({cause.message})"
  | .notJson cause line => s!"not valid JSON ({cause.message} at line {line})"
  | .tooDeep => "nesting too deep"
  | .notObject => "document is not an object"
  | .noRoot => "missing or non-array root"
  | .noNamedContent => "root has no trailing named-content map"

def Fault.message (f : Fault) : String :=
  s!"Invalid compiled story: {f.reason}"

/-- Why a story could not be decoded: its document has a fault, or an integer in it is too long. -/
inductive LoadError where
  | malformed (fault : Fault)
  | integerTooLong (digits : Nat)
  deriving DecidableEq, Repr

def LoadError.message : LoadError → String
  | .malformed fault => fault.message
  | .integerTooLong digits => Decimal.tooLong (some digits)

/-- Containers of a document nest at most this deep. -/
def depthLimit : Nat := 1000

/-- The limits for the text of a story. -/
def limits : Json.Limits := ⟨depthLimit, some Decimal.digitLimit⟩

def orderMark : Char := Char.ofNat 0xFEFF

def orderMarkBytes : List UInt8 := [0xEF, 0xBB, 0xBF]

/-- Decodes the text of a story; byte order marks at its front are dropped. -/
def decodeText (cs : List Char) : Except LoadError Value :=
  let cs := cs.dropWhile (· = orderMark)
  match Json.read limits cs with
  | .ok v => .ok v
  | .error (.malformed cause rest) => .error (.malformed (.notJson cause (Json.lineOf cs rest)))
  | .error .tooDeep => .error (.malformed .tooDeep)
  | .error (.tooLong digits) => .error (.integerTooLong digits)

/-- Bytes without one byte order mark at their front. -/
def dropOrderMark (bs : List UInt8) : List UInt8 :=
  if orderMarkBytes.isPrefixOf bs then bs.drop 3 else bs

def Source.load : Source → Except LoadError Value
  | .text s => decodeText s.toList
  | .bytes bs =>
    match Text.Utf8.decode (dropOrderMark bs) with
    | .ok cs => decodeText cs
    | .error fault => .error (.malformed (.notUtf8 fault.cause))
  | .decoded v => .ok v

/-- Whether a name in the document names a knot: tool data and global declarations do not. -/
def isKnotKey (name : String) : Bool :=
  !"#".isPrefixOf name && name != "global decl"

def namedContent (document : Value) : Except Fault (OrderedMap String Value) :=
  match document with
  | .object members =>
    match OrderedMap.find? members "root" with
    | some (.list items) =>
      match items.getLast? with
      | some (.object named) => .ok (named.filter fun entry => isKnotKey entry.1)
      | _ => .error .noNamedContent
    | _ => .error .noRoot
  | _ => .error .notObject

end KnotAtlas.Story
