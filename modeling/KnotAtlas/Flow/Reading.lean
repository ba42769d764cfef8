import KnotAtlas.Datum.Display
import KnotAtlas.Flow.Basic

/-!
Flow maps from configuration data. Each entry gives a list of choices and a default under one of
three keys, of which the first present decides. Names of other kinds are taken as they are shown.
-/

namespace KnotAtlas

inductive FlowMap.Fault where
  | misuse (m : Value.Misuse)
  /-- A name that cannot be shown. -/
  | notShown (f : Datum.ShowFault)
  deriving DecidableEq, Repr

def FlowMap.Fault.message : FlowMap.Fault → String
  | .misuse m => m.message
  | .notShown f => f.message

/-- The keys for a default, the first present decides. -/
def Flow.defaultKeys : List String :=
  ["default", "default_target", "defaultTarget"]

variable [Datum.ShowLimit]

def Flow.readName (v : Datum) : Except FlowMap.Fault String :=
  v.shown.mapError .notShown

/-- The names of choices; an absent or empty value stands for none. -/
def Flow.readChoices (v : Datum) : Except FlowMap.Fault (List String) := do
  if v.isTruthy then (← v.parts.mapError .misuse).mapM readName else return []

/-- The value under the first key for a default that is present. -/
def Flow.defaultOf (entries : List (Datum × Datum)) : Datum :=
  (defaultKeys.findSome? (Datum.entry? entries)).getD .null

def Flow.ofDatum (v : Datum) : Except FlowMap.Fault Flow :=
  match v with
  | .mapping entries => do
    let chosen := defaultOf entries
    let choices ← readChoices ((Datum.entry? entries "choices").getD .null)
    let default? ← if chosen.isTruthy then some <$> readName chosen else pure none
    return ⟨choices, default?⟩
  | other => .error (.misuse (.noAttribute other.kind "get"))

def FlowMap.ofEntries (entries : List (Datum × Datum)) : Except FlowMap.Fault FlowMap :=
  entries.foldlM (fun m entry => do
    let name ← Flow.readName entry.1
    let flow ← Flow.ofDatum entry.2
    return m.insert name flow) []

def FlowMap.ofDatum (v : Datum) : Except FlowMap.Fault FlowMap :=
  match v with
  | .mapping entries => FlowMap.ofEntries entries
  | other => .error (.misuse (.noAttribute other.kind "items"))

end KnotAtlas
