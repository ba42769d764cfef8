/-!
Decoding of UTF-8. The bytes of a character are taken one at a time; between two bytes of one
character the reader knows how many are owed and which values the next may have, so the shortest
form and the surrogate gap are checked at the second byte. A fault says where its character starts
and how far it was followed.
-/

namespace KnotAtlas.Text.Utf8

inductive Cause where
  | invalidStart
  | invalidContinuation
  | truncated
  deriving DecidableEq, Repr

def Cause.message : Cause → String
  | .invalidStart => "invalid start byte"
  | .invalidContinuation => "invalid continuation byte"
  | .truncated => "unexpected end of data"

/-- A fault in the bytes `start` to `stop` (`stop` not included). -/
structure Fault where
  start : Nat
  stop : Nat
  first : UInt8
  cause : Cause
  deriving DecidableEq, Repr

def hexDigit (n : Nat) : Char :=
  if n < 10 then Char.ofNat (48 + n) else Char.ofNat (87 + n)

def hexByte (b : UInt8) : String :=
  String.ofList [hexDigit (b.toNat / 16), hexDigit (b.toNat % 16)]

def Fault.message (f : Fault) : String :=
  if f.stop = f.start + 1 then
    s!"'utf-8' codec can't decode byte 0x{hexByte f.first} in position {f.start}: {f.cause.message}"
  else
    let last := f.stop - 1
    s!"'utf-8' codec can't decode bytes in position {f.start}-{last}: {f.cause.message}"

/-- Where the reader stands: between characters, or inside one that started at byte `start` with
the value `first`, is worth `value` so far, and is owed `owed + 1` bytes, the next from `low` to
`high`. -/
inductive State where
  | between
  | inside (start : Nat) (first : UInt8) (owed low high value : Nat)

/-- The state after the first byte of a character of several bytes. -/
def lead? (position : Nat) (b : UInt8) : Option State :=
  let n := b.toNat
  if n < 0xC2 then none
  else if n < 0xE0 then some (.inside position b 0 0x80 0xBF (n - 0xC0))
  else if n < 0xF0 then
    let low := if n = 0xE0 then 0xA0 else 0x80
    let high := if n = 0xED then 0x9F else 0xBF
    some (.inside position b 1 low high (n - 0xE0))
  else if n < 0xF5 then
    let low := if n = 0xF0 then 0x90 else 0x80
    let high := if n = 0xF4 then 0x8F else 0xBF
    some (.inside position b 2 low high (n - 0xF0))
  else none

/-- Decodes the bytes from `position` on. -/
def decodeFrom (state : State) (position : Nat) : List UInt8 → Except Fault (List Char)
  | [] =>
    match state with
    | .between => .ok []
    | .inside start first .. => .error ⟨start, position, first, .truncated⟩
  | b :: rest =>
    match state with
    | .between =>
      if b.toNat < 0x80 then do
        let cs ← decodeFrom .between (position + 1) rest
        return Char.ofNat b.toNat :: cs
      else
        match lead? position b with
        | some next => decodeFrom next (position + 1) rest
        | none => .error ⟨position, position + 1, b, .invalidStart⟩
    | .inside start first owed low high value =>
      if low ≤ b.toNat ∧ b.toNat ≤ high then
        let value := value * 64 + b.toNat % 64
        match owed with
        | 0 => do
          let cs ← decodeFrom .between (position + 1) rest
          return Char.ofNat value :: cs
        | owed + 1 => decodeFrom (.inside start first owed 0x80 0xBF value) (position + 1) rest
      else .error ⟨start, position, first, .invalidContinuation⟩

def decode (bytes : List UInt8) : Except Fault (List Char) :=
  decodeFrom .between 0 bytes

/-- The same fault, as a reader reports it that takes bytes in blocks: such a reader sets an
unfinished character aside and finds out only when no more bytes come, so it counts from there. -/
def Fault.inBlocks (f : Fault) : Fault :=
  match f.cause with
  | .truncated => { f with start := 0, stop := f.stop - f.start }
  | _ => f

end KnotAtlas.Text.Utf8
