import KnotAtlas.Atlas.Session
import KnotAtlas.Detect.Aged
import KnotAtlas.Source.Aged

/-!
An atlas whose settings may not fit. Every operation that needs a setting says what is wrong with it
instead of giving a result; what the operation did before that is kept. With settings that fit, the
results are those of the operations themselves.
-/

namespace KnotAtlas.Atlas

variable {ε σ : Type} [StoryEngine ε σ]

abbrev Tried (α : Type) := Except Misfit α × Atlas Seconds

section Faults

variable (a : Atlas Seconds) (now : Seconds)

/-- The kind of the lifetime of the graph that detection is checked against, if it is no number. -/
def wrongStatic? : Option String :=
  a.settings.staticTtl.wrongKind?

def scanMisfit? (path : String) : Option Misfit :=
  (a.sources.scanFault? a.settings.sourceTtl.wrongKind? now path).map .age

def scansMisfit? : Option Misfit :=
  (a.sources.fault? a.settings.sourceTtl.wrongKind? now).map .age

def storyMisfit? : Option Misfit :=
  a.compiled.bind fun c =>
    (ageFault? ">=" a.settings.compiledTtl.wrongKind? now c.compiledAt).map .age

/-- What is wrong with asking for all knots; scans are asked for only without a story. -/
def knotsMisfit? : Option Misfit :=
  (a.storyMisfit? now).or (if (a.freshStory? now).isSome then none else a.scansMisfit? now)

def infoMisfit? : Option Misfit :=
  (a.scansMisfit? now).or (a.storyMisfit? now)

def searchMisfit? (query : String) : Option Misfit :=
  (a.knotsMisfit? now).or
    (if (searchNames (a.allKnots now) query).isEmpty then none else a.infoMisfit? now)

/-- What is wrong with checking the compiled story; the names of all knots are asked for only where
a divert dangles. -/
def integrityMisfit? (noted asked : Seconds) : Option Misfit :=
  (a.storyMisfit? now).or
    (if (a.freshStory? now).isNone then none
    else
      (a.storyMisfit? noted).or
        (if ((a.diagnostics? noted).getD {}).dangling.isEmpty then none
        else a.knotsMisfit? asked))

def statsMisfit? : Option Misfit :=
  a.compiled.bind fun c => (ageFault? ">=" none now c.compiledAt).map .age

end Faults

def ask {α : Type} (a : Atlas Seconds) (now : Seconds) (f : Validated Seconds → α) :
    Except Misfit α :=
  unlessFault ((a.layer.graphFault? a.wrongStatic? now).map .age) (f a.layer)

def proceed {α : Type} (a : Atlas Seconds) (misfit : Option Misfit) (next : Logged (Tried α)) :
    Logged (Tried α) :=
  match misfit with
  | some m => pure (.error m, a)
  | none => next

def tryLayerKnot (a : Atlas Seconds) (now : Seconds) (e : ε) (fallback : Option String) :
    Logged (Tried String) := do
  let (knot, layer) ← a.layer.tryCurrentKnot a.wrongStatic? now e fallback
  return (knot.mapError .age, a.withLayer layer)

def tryLayerChoice (a : Atlas Seconds) (now : Seconds) (e : ε) (knot : String) (index : Int)
    (verified : Bool) : Logged (Tried (String × ε)) := do
  let (led, layer) ← a.layer.tryAfterChoice a.wrongStatic? now e knot index verified
  return (led.mapError .age, a.withLayer layer)

/-- The knot that an engine is in; the fallback is looked for if the graph does not know the knot
that was detected. -/
def tryDetect (a : Atlas Seconds) (now : Seconds) (e : ε) : Logged (Tried String) :=
  let fallback := a.settings.fallbackKnot
  let detected := a.detector.currentKnot e fallback.name?
  let unknown := (a.layer.checking? now).any (!·.contains detected.value.1)
  match a.layer.checkFault? a.wrongStatic? now, unknown, fallback.fallbackMisfit? with
  | none, true, some m => do
    let (knot, d) ← detected
    Log.emitEvent (Validated.unknownEvent knot)
    return (.error m, a.withDetector d)
  | _, _, _ => a.tryLayerKnot now e fallback.name?

def tryCurrentKnot (a : Atlas Seconds) (now : Seconds) (e : ε) : Logged (Tried KnotInfo) := do
  let (detected, a) ← a.tryDetect now e
  match detected with
  | .error m => return (.error m, a)
  | .ok name =>
    a.proceed (a.knotsMisfit? now) do
      let name ← a.settle now name
      a.proceed (a.infoMisfit? now) do
        return (.ok { a.knotInfo now name with isCurrent := some true }, a)

def tryAfterChoice (a : Atlas Seconds) (now : Seconds) (e : ε) (knot : String) (index : Int)
    (verified : Bool) : Logged (Tried (KnotInfo × ε)) := do
  let (led, a) ← a.tryLayerChoice now e knot index verified
  match led with
  | .error m => return (.error m, a)
  | .ok (name, e) =>
    a.proceed (a.knotsMisfit? now) do
      a.warnUnknown now name knot index
      a.proceed (a.infoMisfit? now) do return (.ok (a.knotInfo now name, e), a)

def tryRecord (a : Atlas Seconds) (now : Seconds) (e : ε) : Logged (Tried KnotInfo) := do
  let (info, a) ← a.tryCurrentKnot now e
  match info with
  | .error m => return (.error m, a)
  | .ok info => do
    let a ← a.enter info
    return (.ok info, a)

/-- Checks the compiled story, with a reading of the clock for each thing that is asked for. -/
def tryIntegrity (a : Atlas Seconds) (now noted asked : Seconds) :
    Logged (Except Misfit Integrity.Report) :=
  match a.integrityMisfit? now noted asked with
  | some m => pure (.error m)
  | none => Except.ok <$> a.integrity now noted (a.allKnots asked)

end KnotAtlas.Atlas
