import KnotAtlas.Flow.Reading
import KnotAtlas.Seconds

/-!
Settings. Each of the ten has a default, may be read from a mapping or from the environment, and may
be overridden. What is read is brought to the kind of its setting; an override is taken as it is.
-/

namespace KnotAtlas

/-- A setting of kind `α`, or what an override put in its place. -/
inductive Setting (α : Type) where
  | own (a : α)
  | verbatim (v : Value)
  /-- A flow map in the place of something else. -/
  | misplaced (m : FlowMap)

namespace Setting

def isOn : Setting Bool → Bool
  | .own b => b
  | .verbatim v => v.isTruthy
  | .misplaced m => !m.isEmpty

def name? : Setting (Option String) → Option String
  | .own s => s
  | .verbatim _ => none
  | .misplaced _ => none

/-- The flow map that a setting holds; what is no flow map stands for the empty one. -/
def flows : Setting FlowMap → FlowMap
  | .own m => m
  | .verbatim _ => []
  | .misplaced m => m

end Setting

/-- Settings of detection, checking and caching. -/
structure Settings where
  /-- Tell each decision as a log event. -/
  debug : Setting Bool := .own false
  /-- Check detection against the graph. -/
  staticValidation : Setting Bool := .own true
  /-- How long the graph stays fresh for checking. -/
  staticTtl : Setting Float := .own 300
  /-- Keep scans of source files. -/
  sourceCache : Setting Bool := .own true
  /-- How long a scan stays fresh. -/
  sourceTtl : Setting Float := .own 300
  /-- Keep the compiled story. -/
  compiledCache : Setting Bool := .own true
  /-- How long the compiled story stays fresh. -/
  compiledTtl : Setting Float := .own 600
  /-- The knot to assume when detection has nothing better. -/
  fallbackKnot : Setting (Option String) := .own none
  /-- Predict by the sample flow map too. -/
  useSample : Setting Bool := .own false
  /-- Flows that the story supplies. -/
  flows : Setting FlowMap := .own []

namespace Settings

inductive Key where
  | debug
  | staticValidation
  | staticTtl
  | sourceCache
  | sourceTtl
  | compiledCache
  | compiledTtl
  | fallbackKnot
  | useSample
  | flows
  deriving DecidableEq, Repr

def Key.all : List Key :=
  [.debug, .staticValidation, .staticTtl, .sourceCache, .sourceTtl, .compiledCache,
    .compiledTtl, .fallbackKnot, .useSample, .flows]

def Key.word : Key → String
  | .debug => "debug"
  | .staticValidation => "enable_static_validation"
  | .staticTtl => "static_cache_ttl"
  | .sourceCache => "enable_source_cache"
  | .sourceTtl => "source_cache_ttl"
  | .compiledCache => "enable_compiled_cache"
  | .compiledTtl => "compiled_cache_ttl"
  | .fallbackKnot => "fallback_knot"
  | .useSample => "use_example_flow_map"
  | .flows => "flow_map"

def Key.ofWord? (word : String) : Option Key :=
  all.find? (·.word = word)

def Key.variable? : Key → Option String
  | .debug => some "INKSCOPE_DEBUG"
  | .staticValidation => some "INKSCOPE_STATIC_VALIDATION"
  | .staticTtl => some "INKSCOPE_STATIC_CACHE_TTL"
  | .sourceTtl => some "INKSCOPE_SOURCE_CACHE_TTL"
  | .compiledTtl => some "INKSCOPE_COMPILED_CACHE_TTL"
  | .fallbackKnot => some "INKSCOPE_FALLBACK_KNOT"
  | _ => none

inductive Content where
  | value (v : Value)
  | flows (m : FlowMap)

def contentOf {α : Type} (present : α → Content) : Setting α → Content
  | .own a => present a
  | .verbatim v => .value v
  | .misplaced m => .flows m

def content (s : Settings) : Key → Content
  | .debug => contentOf (fun b => .value (.bool b)) s.debug
  | .staticValidation => contentOf (fun b => .value (.bool b)) s.staticValidation
  | .staticTtl => contentOf (fun x => .value (.float x)) s.staticTtl
  | .sourceCache => contentOf (fun b => .value (.bool b)) s.sourceCache
  | .sourceTtl => contentOf (fun x => .value (.float x)) s.sourceTtl
  | .compiledCache => contentOf (fun b => .value (.bool b)) s.compiledCache
  | .compiledTtl => contentOf (fun x => .value (.float x)) s.compiledTtl
  | .fallbackKnot =>
    contentOf (fun k => .value (match k with | some k => .str k | none => .null)) s.fallbackKnot
  | .useSample => contentOf (fun b => .value (.bool b)) s.useSample
  | .flows => contentOf .flows s.flows

end Settings
end KnotAtlas
