/-!
Halves of pairs. JSON text can name one half of a pair alone. That is no character, so a text carries
it as one of the last characters that there are, which belong to no script. Where these stand for
themselves, the replacement character takes their place.
-/

namespace KnotAtlas.Text

def firstHalf : Nat := 0x10F800

def isHalf (c : Char) : Bool :=
  firstHalf ≤ c.toNat

/-- The character that carries a half. -/
def halfChar (unit : Nat) : Char :=
  Char.ofNat (firstHalf + (unit - 0xD800))

/-- The half that a character carries. -/
def halfUnit (c : Char) : Nat :=
  0xD800 + (c.toNat - firstHalf)

/-- A character that stands for itself. -/
def wholeChar (c : Char) : Char :=
  if isHalf c then Char.ofNat 0xFFFD else c

/-- Whether half of a pair stands alone in a text. -/
def HasHalf (s : String) : Prop :=
  ∃ c ∈ s.toList, isHalf c = true

instance (s : String) : Decidable (HasHalf s) :=
  decidable_of_iff (s.toList.any isHalf = true) List.any_eq_true

end KnotAtlas.Text
