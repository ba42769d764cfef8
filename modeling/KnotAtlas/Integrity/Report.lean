/-!
Reports on the integrity of a story: checks that passed, warned or failed, with advice. A report is
valid as long as no check failed. Checks that came out in some other way are listed and count for
nothing.
-/

namespace KnotAtlas.Integrity

inductive Severity where
  | pass
  | warn
  | fail
  | other (word : String)
  deriving DecidableEq, Repr

def Severity.name : Severity → String
  | .pass => "pass"
  | .warn => "warn"
  | .fail => "fail"
  | .other word => word

def Severity.ofName (s : String) : Severity :=
  ([Severity.pass, .warn, .fail].find? (·.name = s)).getD (.other s)

theorem Severity.name_ofName (s : String) : (Severity.ofName s).name = s := by
  unfold ofName
  cases h : [Severity.pass, .warn, .fail].find? (·.name = s) with
  | none => rfl
  | some severity => simpa using List.find?_some h

/-- One check and how it came out. -/
structure Check where
  name : String
  severity : Severity
  message : String := ""
  deriving DecidableEq, Repr

/-- Checks in the order in which they were made, and advice. -/
structure Report where
  checks : List Check := []
  suggestions : List String := []
  deriving DecidableEq, Repr

namespace Report

def withSeverity (r : Report) (s : Severity) : List Check :=
  r.checks.filter (·.severity = s)

def issues (r : Report) : List String :=
  (r.withSeverity .fail).map (·.message)

def warnings (r : Report) : List String :=
  (r.withSeverity .warn).map (·.message)

def isValid (r : Report) : Bool :=
  !r.checks.any (·.severity = .fail)

/-- How many checks came out in which way; ways that did not occur are left out. -/
def summary (r : Report) : String :=
  let counted (s : Severity) (word : String) : List String :=
    match (r.withSeverity s).length with
    | 0 => []
    | n => [s!"{n} {word}"]
  ", ".intercalate (counted .fail "failed" ++ counted .warn "warnings" ++ counted .pass "passed")

end Report
end KnotAtlas.Integrity
