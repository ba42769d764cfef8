import KnotAtlas.Digest.Sha256
import KnotAtlas.Log.Event
import KnotAtlas.OrderedMap
import KnotAtlas.Source.Declaration

/-!
Scans of source files, each kept for a limited time. Adding content that a file already has keeps
the scan and only renews its time. A cache that is switched off stores and serves nothing. Times
may be of any type that can be subtracted and compared.
-/

namespace KnotAtlas.Source

/-- A source file with what its text declares, as of a time. -/
structure Scan (τ : Type) where
  path : String
  content : String
  knots : List String
  variableNames : List String
  hash : String
  scannedAt : τ
  deriving DecidableEq, Repr

def scan {τ : Type} (path content : String) (scannedAt : τ) : Scan τ :=
  { path, content, scannedAt
    knots := knots content
    variableNames := variableNames content
    hash := Digest.Sha256.ofText content }

/-- Scans by path, in the order in which files were first added. -/
structure Cache (τ : Type) where
  ttl : τ
  enabled : Bool := true
  entries : OrderedMap String (Scan τ) := []

namespace Cache

variable {τ : Type}

/-- What adding a file gives: the cache, the file's scan, and whether the scan was there before. -/
structure Added (τ : Type) where
  cache : Cache τ
  scan : Scan τ
  reused : Bool

def put (c : Cache τ) (path : String) (s : Scan τ) : Cache τ :=
  { c with entries := c.entries.insert path s }

def scannedEvent (path : String) (s : Scan τ) : Log.Event :=
  ⟨.debug, "inkscope.source.scanner", "source_file_scanned",
    [("file", .str path), ("knots", .int s.knots.length),
      ("variables", .int s.variableNames.length)]⟩

def unchanged? (c : Cache τ) (path content : String) : Option (Scan τ) :=
  (c.entries.find? path).filter fun s => s.hash = Digest.Sha256.ofText content

def add (c : Cache τ) (now : τ) (path content : String) : Logged (Added τ) :=
  match c.unchanged? path content with
  | some previous =>
    let renewed := { previous with scannedAt := now }
    pure ⟨c.put path renewed, renewed, true⟩
  | none =>
    let fresh := scan path content now
    ⟨⟨if c.enabled then c.put path fresh else c, fresh, false⟩, [scannedEvent path fresh]⟩

def remove (c : Cache τ) (path : String) : Cache τ :=
  { c with entries := c.entries.erase path }

def clear (c : Cache τ) : Cache τ :=
  { c with entries := [] }

def totalSize (c : Cache τ) : Nat :=
  (c.entries.map fun entry => entry.2.content.length).foldl (· + ·) 0

section Times

variable [Sub τ] [LT τ] [DecidableRel (fun a b : τ => a < b)]

def isCurrent (c : Cache τ) (now : τ) (s : Scan τ) : Bool :=
  decide (now - s.scannedAt < c.ttl)

def get? (c : Cache τ) (now : τ) (path : String) : Option (Scan τ) :=
  if c.enabled then (c.entries.find? path).filter (c.isCurrent now) else none

def isFresh (c : Cache τ) (now : τ) (path : String) : Bool :=
  (c.get? now path).isSome

/-- The scans that the cache serves, in the order in which their files were first added. -/
def served (c : Cache τ) (now : τ) : List (Scan τ) :=
  (c.entries.map (·.2)).filter fun s => c.isFresh now s.path

end Times

end Cache
end KnotAtlas.Source
