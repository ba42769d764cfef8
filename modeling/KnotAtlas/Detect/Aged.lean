import KnotAtlas.Age
import KnotAtlas.Detect.Validated

/-!
Checked detection where ages may be incomparable with the lifetime of the graph. Detection itself
asks for no age, so what it remembers is kept when the check fails after it.
-/

namespace KnotAtlas.Validated

variable {ε σ : Type} [StoryEngine ε σ]

def graphFault? (wrong? : Option String) (v : Validated Seconds) (now : Seconds) :
    Option AgeFault :=
  v.cached.bind fun (_, since) => ageFault? "<" wrong? now since

def checkFault? (wrong? : Option String) (v : Validated Seconds) (now : Seconds) :
    Option AgeFault :=
  if v.enabled then v.graphFault? wrong? now else none

def tryCurrentKnot (wrong? : Option String) (v : Validated Seconds) (now : Seconds) (e : ε)
    (fallback : Option String) : Logged (Except AgeFault String × Validated Seconds) :=
  match v.checkFault? wrong? now with
  | some f => do
    let (_, d) ← v.detector.currentKnot e fallback
    return (.error f, v.withDetector d)
  | none => do
    let (knot, v) ← v.currentKnot now e fallback
    return (.ok knot, v)

def tryAfterChoice (wrong? : Option String) (v : Validated Seconds) (now : Seconds) (e : ε)
    (knot : String) (index : Int) (verified : Bool) :
    Logged (Except AgeFault (String × ε) × Validated Seconds) :=
  match v.checkFault? wrong? now with
  | some f => pure (.error f, v)
  | none => do
    let (knot, v, e) ← v.afterChoice now e knot index verified
    return (.ok (knot, e), v)

end KnotAtlas.Validated
