/-!
Checked results. Reading a record looks at all of its fields, so one reading may find several
faults; they are kept in the order of the fields, each with the place where it was found.
-/

namespace KnotAtlas.Wire

inductive Cause where
  | missing
  | notText
  | notUnicode
  | tooShort
  | notInteger
  | notIntegerText
  | tooLarge
  | fractional
  | notFinite
  | tooSmall
  | notSwitch
  | notSwitchWord
  | notList
  | notRecord
  deriving DecidableEq, Repr

def Cause.code : Cause → String
  | .missing => "missing"
  | .notText => "string_type"
  | .notUnicode => "string_unicode"
  | .tooShort => "string_too_short"
  | .notInteger => "int_type"
  | .notIntegerText => "int_parsing"
  | .tooLarge => "int_parsing_size"
  | .fractional => "int_from_float"
  | .notFinite => "finite_number"
  | .tooSmall => "greater_than_equal"
  | .notSwitch => "bool_type"
  | .notSwitchWord => "bool_parsing"
  | .notList => "list_type"
  | .notRecord => "model_type"

/-- A cause with the keys and indices that lead to the value. -/
structure Fault where
  cause : Cause
  place : List String := []
  deriving DecidableEq, Repr

def Fault.message (f : Fault) : String :=
  f.cause.code ++ " at " ++ ".".intercalate f.place

def Fault.inside (part : String) (f : Fault) : Fault :=
  { f with place := part :: f.place }

/-- A value, or all that is wrong with what should have been one. -/
inductive Checked (α : Type) where
  | valid (a : α)
  | invalid (faults : List Fault)

namespace Checked

variable {α β : Type}

def fault (cause : Cause) : Checked α :=
  .invalid [⟨cause, []⟩]

def faults : Checked α → List Fault
  | .valid _ => []
  | .invalid fs => fs

instance : Applicative Checked where
  pure := .valid
  seq
    | .valid f, x =>
      match x () with
      | .valid a => .valid (f a)
      | .invalid fs => .invalid fs
    | .invalid fs, x => .invalid (fs ++ (x ()).faults)

def inside (part : String) : Checked α → Checked α
  | .valid a => .valid a
  | .invalid fs => .invalid (fs.map (Fault.inside part))

def ensure (p : α → Bool) (cause : Cause) : Checked α → Checked α
  | .valid a => if p a then .valid a else fault cause
  | .invalid fs => .invalid fs

def toExcept : Checked α → Except String α
  | .valid a => .ok a
  | .invalid fs => .error ("; ".intercalate (fs.map Fault.message))

/-- The results of a list, numbered from `i` on. -/
def ofItems (read : β → Checked α) (i : Nat) : List β → Checked (List α)
  | [] => pure []
  | b :: rest => List.cons <$> (read b).inside (toString i) <*> ofItems read (i + 1) rest

@[simp] theorem faults_pure (a : α) : (pure a : Checked α).faults = [] := rfl

/-- Faults of two readings are those of the first, then those of the second. -/
@[simp] theorem faults_seq (f : Checked (α → β)) (x : Checked α) :
    (f <*> x).faults = f.faults ++ x.faults := by
  cases f <;> cases x <;> rfl

end Checked
end KnotAtlas.Wire
