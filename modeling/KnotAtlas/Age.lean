import KnotAtlas.Seconds

/-!
Ages against lifetimes. An age is told by a clock and compared with a lifetime; both may fail, since
a lifetime that is taken as it is given may be no number.
-/

namespace KnotAtlas

/-- Why an age cannot be compared with a lifetime. -/
inductive AgeFault where
  /-- The age itself cannot be told. -/
  | untold
  /-- The lifetime is no number; both sides are named by their kinds. -/
  | incomparable (sign age lifetime : String)
  deriving DecidableEq, Repr

def AgeFault.message : AgeFault → String
  | .untold => Seconds.tooLarge
  | .incomparable sign age lifetime =>
    s!"'{sign}' not supported between instances of '{age}' and '{lifetime}'"

/-- What is wrong with comparing an age with a lifetime, given the lifetime's kind if it is no
number. -/
def ageFault? (sign : String) (wrong? : Option String) (now since : Seconds) : Option AgeFault :=
  match now.age? since, wrong? with
  | none, _ => some .untold
  | some age, some lifetime => some (.incomparable sign age.toValue.kind lifetime)
  | some _, none => none

def unlessFault {ε α : Type} (fault : Option ε) (result : α) : Except ε α :=
  match fault with
  | some f => .error f
  | none => .ok result

theorem ageFault?_of_agree {now since : Seconds} (h : now.agree since = true) (sign : String) :
    ageFault? sign none now since = none := by
  simp only [ageFault?, Seconds.age?, h, if_true]

theorem unlessFault_eq_ok {ε α : Type} {fault : Option ε} {result out : α}
    (h : unlessFault fault result = .ok out) : fault = none ∧ out = result := by
  cases fault with
  | some f => cases h
  | none =>
      cases h
      exact ⟨rfl, rfl⟩

end KnotAtlas
