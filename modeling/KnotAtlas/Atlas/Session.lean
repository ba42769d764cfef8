import KnotAtlas.Atlas.Queries

/-!
An atlas during a session: which knot an engine is in, where a choice leads, and the trail. A name
that no known knot has is replaced by the knot remembered last.
-/

namespace KnotAtlas.Atlas

variable {τ : Type} [Sub τ] [LT τ] [DecidableLT τ] [LE τ] [DecidableLE τ]
  {ε σ : Type} [StoryEngine ε σ]

/-- Replaces a name that no known knot has. -/
def settle (a : Atlas τ) (now : τ) (name : String) : Logged String :=
  let known := a.allKnots now
  if known.isEmpty || name ∈ known then pure name
  else do
    let last := a.detector.lastKnown
    Log.emit .warning logger "current_knot_unknown"
      [("knot", .str name), ("substitute", match last with | some k => .str k | none => .null)]
    return last.getD name

def currentKnot (a : Atlas τ) (now : τ) (e : ε) : Logged (KnotInfo × Atlas τ) := do
  let (name, layer) ← a.layer.currentKnot now e a.settings.fallbackKnot.name?
  let a := a.withLayer layer
  let name ← a.settle now name
  return ({ a.knotInfo now name with isCurrent := some true }, a)

def warnUnknown (a : Atlas τ) (now : τ) (name knot : String) (index : Int) : Logged Unit :=
  let known := a.allKnots now
  Log.emitIf (!known.isEmpty && name ∉ known) .warning logger "predicted_knot_unknown"
    [("knot", .str name), ("current", .str knot), ("choice_index", .int index)]

def afterChoice (a : Atlas τ) (now : τ) (e : ε) (knot : String) (index : Int)
    (verified : Bool) : Logged (KnotInfo × Atlas τ × ε) := do
  let (name, layer, e) ← a.layer.afterChoice now e knot index verified
  let a := a.withLayer layer
  a.warnUnknown now name knot index
  return (a.knotInfo now name, a, e)

def enter (a : Atlas τ) (info : KnotInfo) : Logged (Atlas τ) := do
  let (entered, trail) := a.trail.record info.name
  Log.emitIf entered .debug logger "knot_entered"
    [("knot", .str info.name), ("visits", .int (trail.visitCount info.name))]
  return { a with trail }

def record (a : Atlas τ) (now : τ) (e : ε) : Logged (KnotInfo × Atlas τ) := do
  let (info, a) ← a.currentKnot now e
  return (info, ← a.enter info)

end KnotAtlas.Atlas
