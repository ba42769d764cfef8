import KnotAtlas.Age
import KnotAtlas.Source.Cache

/-!
Looking up scans where ages may be incomparable with the lifetime of the cache.
-/

namespace KnotAtlas.Source.Cache

def scanFault? (wrong? : Option String) (c : Cache Seconds) (now : Seconds) (path : String) :
    Option AgeFault :=
  if c.enabled then (c.entries.find? path).bind (ageFault? "<" wrong? now ·.scannedAt) else none

/-- What is wrong with asking for all scans; the first one counts. -/
def fault? (wrong? : Option String) (c : Cache Seconds) (now : Seconds) : Option AgeFault :=
  c.entries.findSome? fun entry => c.scanFault? wrong? now entry.1

end KnotAtlas.Source.Cache
