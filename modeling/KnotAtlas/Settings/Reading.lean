import KnotAtlas.Datum.Display
import KnotAtlas.Settings.Basic
import KnotAtlas.Text.Lowercase
import KnotAtlas.Text.Blank
import KnotAtlas.Decimal.Reading

/-!
Reading settings: from a mapping, from the environment, and from overrides. A later source writes
only the settings that it names. The first entry that cannot be read decides the error.
-/

namespace KnotAtlas.Settings

inductive Error where
  | notBoolean (key : String) (value : Datum)
  | notSeconds (key : String) (value : Datum)
  | negative (key : String) (value : Datum)
  /-- An integer that no floating number comes near. -/
  | tooLarge
  /-- A value that cannot be shown. -/
  | notShown (f : Datum.ShowFault)
  | flowsNotMapping
  /-- Settings that are no mapping. -/
  | misuse (m : Value.Misuse)
  | flows (fault : FlowMap.Fault)
  | unknownOverride (key : String)

def Error.message : Error → String
  | .notBoolean key value => key ++ " must be a boolean, got " ++ value.display
  | .notSeconds key value => key ++ " must be a number of seconds, got " ++ value.display
  | .negative key value => key ++ " must not be negative, got " ++ value.display
  | .tooLarge => Seconds.tooLarge
  | .flowsNotMapping => "flow_map must be a mapping"
  | .notShown f => f.message
  | .misuse m => m.message
  | .flows fault => fault.message
  | .unknownOverride key => s!"KnotConfig.__init__() got an unexpected keyword argument '{key}'"

def trueWords : List String := ["1", "true", "yes", "on"]

def falseWords : List String := ["0", "false", "no", "off"]

section Reading

variable [Datum.ShowLimit]

def Error.showing (v : Datum) (e : Error) : Error :=
  match v.fault? with
  | some f => .notShown f
  | none => e

/-- Reads a text; a value that is none is taken as it is shown. -/
def readText (v : Datum) : Except Error String :=
  v.shown.mapError .notShown

def readSwitch (key : String) (v : Datum) : Except Error Bool :=
  match v with
  | .bool b => .ok b
  | v => do
    let word := Text.lower (Text.trim (← readText v))
    if word ∈ trueWords then .ok true
    else if word ∈ falseWords then .ok false
    else .error (.notBoolean key v)

def readNumber (key : String) (v : Datum) : Except Error Float :=
  match v with
  | .float x => .ok x
  | .bool b => .ok (if b then 1 else 0)
  | .int n =>
    match Decimal.ofInt? n with
    | some x => .ok x
    | none => .error .tooLarge
  | .str s =>
    match Decimal.ofText? s with
    | some x => .ok x
    | none => .error (.notSeconds key v)
  | v => .error ((Error.notSeconds key v).showing v)

def readSpan (key : String) (v : Datum) : Except Error Float := do
  let x ← readNumber key v
  if x < 0 then .error (.negative key v) else return x

/-- Reads a flow map; only a mapping is one. -/
def readFlows (v : Datum) : Except Error FlowMap :=
  match v with
  | .mapping entries => (FlowMap.ofEntries entries).mapError .flows
  | _ => .error .flowsNotMapping

/-- Reads one setting; `name` is what messages call it. -/
def readKey (s : Settings) (key : Key) (name : String) (v : Datum) : Except Error Settings :=
  match key with
  | .debug => return { s with debug := .own (← readSwitch name v) }
  | .staticValidation => return { s with staticValidation := .own (← readSwitch name v) }
  | .staticTtl => return { s with staticTtl := .own (← readSpan name v) }
  | .sourceCache => return { s with sourceCache := .own (← readSwitch name v) }
  | .sourceTtl => return { s with sourceTtl := .own (← readSpan name v) }
  | .compiledCache => return { s with compiledCache := .own (← readSwitch name v) }
  | .compiledTtl => return { s with compiledTtl := .own (← readSpan name v) }
  | .fallbackKnot => return { s with fallbackKnot := .own (some (← readText v)) }
  | .useSample => return { s with useSample := .own (← readSwitch name v) }
  | .flows => return { s with flows := .own (← readFlows v) }

/-- Reads one entry of a mapping; unknown keys and absent values are passed over. -/
def readEntry (s : Settings) (entry : Datum × Datum) : Except Error Settings :=
  match entry with
  | (.str word, v) =>
    match Key.ofWord? word with
    | none => .ok s
    | some key => if v.isNull then .ok s else s.readKey key word v
  | _ => .ok s

def ofEntries (entries : List (Datum × Datum)) : Except Error Settings :=
  entries.foldlM readEntry {}

def ofData : Value → Except Error Settings
  | .object members => ofEntries (Datum.ofMembers members)
  | v => .error (.misuse (.noAttribute v.kind "items"))

abbrev Environment := OrderedMap String String

/-- The settings that the environment may hold, in the order in which they are read. -/
def environmentKeys : List Key :=
  [.debug, .staticValidation, .staticTtl, .sourceTtl, .compiledTtl, .fallbackKnot]

/-- What the environment holds for a setting: its variable with the value. An empty fallback knot
counts as none. -/
def variableOf? (env : Environment) (key : Key) : Option (String × String) := do
  let name ← key.variable?
  let value ← env.find? name
  if key = .fallbackKnot && value = "" then none else some (name, value)

def readVariable (env : Environment) (s : Settings) (key : Key) : Except Error Settings :=
  match variableOf? env key with
  | none => .ok s
  | some (name, value) => s.readKey key name (.str value)

def withEnvironment (s : Settings) (env : Environment) : Except Error Settings :=
  environmentKeys.foldlM (readVariable env) s

end Reading

def isInEnvironment (env : Environment) : Bool :=
  environmentKeys.any fun key => (variableOf? env key).isSome

inductive Override where
  | value (v : Value)
  | flows (m : FlowMap)

def Override.content : Override → Content
  | .value v => .value v
  | .flows m => .flows m

def overrideKey (s : Settings) (key : Key) (o : Override) : Settings :=
  let switch : Setting Bool :=
    match o with
    | .value (.bool b) => .own b
    | .value v => .verbatim v
    | .flows m => .misplaced m
  let span : Setting Float :=
    match o with
    | .value (.float x) => .own x
    | .value v => .verbatim v
    | .flows m => .misplaced m
  let name : Setting (Option String) :=
    match o with
    | .value (.str k) => .own (some k)
    | .value v => .verbatim v
    | .flows m => .misplaced m
  let flows : Setting FlowMap :=
    match o with
    | .value v => .verbatim v
    | .flows m => .own m
  match key with
  | .debug => { s with debug := switch }
  | .staticValidation => { s with staticValidation := switch }
  | .staticTtl => { s with staticTtl := span }
  | .sourceCache => { s with sourceCache := switch }
  | .sourceTtl => { s with sourceTtl := span }
  | .compiledCache => { s with compiledCache := switch }
  | .compiledTtl => { s with compiledTtl := span }
  | .fallbackKnot => { s with fallbackKnot := name }
  | .useSample => { s with useSample := switch }
  | .flows => { s with flows := flows }

/-- Takes one override; an absent value overrides nothing. -/
def override (s : Settings) (entry : String × Override) : Except Error Settings :=
  match Key.ofWord? entry.1, entry.2 with
  | _, .value .null => .ok s
  | none, _ => .error (.unknownOverride entry.1)
  | some key, o => .ok (s.overrideKey key o)

def withOverrides (s : Settings) (overrides : OrderedMap String Override) :
    Except Error Settings :=
  overrides.foldlM override s

end KnotAtlas.Settings
