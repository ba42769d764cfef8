import KnotAtlas.Seconds
import Mathlib

/-!
When readings of a clock can be told apart by comparing them. Of two numbers, one is before the other
exactly if the other is not at or before it; what is no number is neither before nor at or before
anything. So the two comparisons say the same only of numbers.
-/

namespace KnotAtlas

namespace Decimal

open Float.Model (UnpackedFloat)

variable {x y : Float}

theorem compare_swap (a b : UnpackedFloat) : b.compare a = (a.compare b).map Ordering.swap := by
  obtain ⟨_ | _⟩ | _ | _ | ⟨_ | _, m, e, _⟩ := a <;>
    obtain ⟨_ | _⟩ | _ | _ | ⟨_ | _, n, f, _⟩ := b <;>
    first
    | rfl
    | simp [UnpackedFloat.compare, Ordering.swap_then, Int.compare_swap, Nat.compare_swap]

theorem isNone_compare (a b : UnpackedFloat) : (a.compare b).isNone = (a.isNaN || b.isNaN) := by
  obtain ⟨_ | _⟩ | _ | _ | ⟨_ | _, m, e, _⟩ := a <;>
    obtain ⟨_ | _⟩ | _ | _ | ⟨_ | _, n, f, _⟩ := b <;>
    rfl

theorem compare_eq_none_iff {a b : UnpackedFloat} :
    a.compare b = none ↔ a.isNaN = true ∨ b.isNaN = true := by
  rw [← Option.isNone_iff_eq_none, isNone_compare, Bool.or_eq_true]

theorem lt_iff : x < y ↔ x.toModel.unpack.compare y.toModel.unpack = some .lt :=
  Iff.trans decide_eq_true_iff beq_iff_eq

theorem le_iff :
    x ≤ y ↔ (x.toModel.unpack.compare y.toModel.unpack).any (·.isLE) = true :=
  decide_eq_true_iff

theorem lt_iff_not_le (hx : x.isNaN = false) (hy : y.isNaN = false) : x < y ↔ ¬y ≤ x := by
  rw [lt_iff, le_iff, compare_swap x.toModel.unpack]
  cases hcompare : x.toModel.unpack.compare y.toModel.unpack with
  | none =>
      obtain hnan | hnan := compare_eq_none_iff.mp hcompare
      · exact absurd (hx.symm.trans hnan) Bool.false_ne_true
      · exact absurd (hy.symm.trans hnan) Bool.false_ne_true
  | some order => cases order <;> decide

theorem not_lt_of_isNaN (h : x.isNaN = true ∨ y.isNaN = true) : ¬x < y := by
  rw [lt_iff, compare_eq_none_iff.mpr h]
  exact fun hnone => by cases hnone

theorem not_le_of_isNaN (h : x.isNaN = true ∨ y.isNaN = true) : ¬x ≤ y := by
  rw [le_iff, compare_eq_none_iff.mpr h]
  exact Bool.false_ne_true

theorem nonneg_iff (h : ¬x < 0) : 0 ≤ x ↔ x.isNaN = false := by
  constructor
  · exact fun hle => Bool.eq_false_iff.mpr fun hnan => not_le_of_isNaN (.inr hnan) hle
  · intro hnumber
    exact Decidable.not_not.mp (mt (lt_iff_not_le hnumber rfl).mpr h)

/-- What is no number has no ratio. -/
theorem Binary.ofFloat?_of_isNaN (h : x.isNaN = true) : Binary.ofFloat? x = none := by
  rw [Float.isNaN_eq_decide_eq_nan] at h
  rw [of_decide_eq_true h]
  rfl

end Decimal

namespace Seconds

variable {a b : Seconds}

/-- Whether a reading is a number. -/
def isNumber : Seconds → Bool
  | .whole _ => true
  | .floating x => !x.isNaN

theorem ratio?_of_not_isNumber (h : a.isNumber = false) : a.ratio? = none := by
  cases a with
  | whole n => cases h
  | floating x =>
      rw [ratio?, Decimal.Binary.ofFloat?_of_isNaN (by simpa [isNumber] using h)]
      rfl

theorem isNaN_roughly (a : Seconds) : a.roughly.isNaN = !a.isNumber := by
  cases a with
  | whole n =>
      rw [roughly, isNumber]
      rfl
  | floating x => exact (Bool.not_not _).symm

theorem lt_iff_not_le (ha : a.isNumber = true) (hb : b.isNumber = true) : a < b ↔ ¬b ≤ a := by
  have hrough : a.roughly < b.roughly ↔ ¬b.roughly ≤ a.roughly :=
    Decimal.lt_iff_not_le ((isNaN_roughly a).trans (congrArg not ha))
      ((isNaN_roughly b).trans (congrArg not hb))
  change before a b = true ↔ ¬notAfter b a = true
  cases a with
  | whole m =>
      cases b with
      | whole n => simp [before, notAfter]
      | floating y =>
          simp only [before, notAfter]
          cases hratio : ratio? (.floating y) with
          | none => simp [hrough]
          | some ratio => simp [ratio?]
  | floating x =>
      cases b with
      | whole n =>
          simp only [before, notAfter]
          cases hratio : ratio? (.floating x) with
          | none => simp [hrough]
          | some ratio => simp [ratio?]
      | floating y => simpa [before, notAfter, roughly] using hrough

/-- What is no number is neither before, nor at or before anything. -/
theorem incomparable (h : b.isNumber = false) : ¬a < b ∧ ¬b ≤ a := by
  have hnan : b.roughly.isNaN = true := by rw [isNaN_roughly, h, Bool.not_false]
  have hlt : ¬a.roughly < b.roughly := Decimal.not_lt_of_isNaN (.inr hnan)
  have hle : ¬b.roughly ≤ a.roughly := Decimal.not_le_of_isNaN (.inl hnan)
  have hratio := ratio?_of_not_isNumber h
  change ¬before a b = true ∧ ¬notAfter b a = true
  cases b with
  | whole n => cases h
  | floating y =>
      cases a with
      | whole m => simp [before, notAfter, hratio, hlt, hle]
      | floating x => exact ⟨mt of_decide_eq_true hlt, mt of_decide_eq_true hle⟩

/-- For an age that is a number, the two comparisons with a lifetime say the same exactly if the
lifetime is a number too. -/
theorem lt_iff_not_le_iff (ha : a.isNumber = true) : (a < b ↔ ¬b ≤ a) ↔ b.isNumber = true := by
  constructor
  · intro hsame
    refine Decidable.byContradiction fun hb => ?_
    obtain ⟨hlt, hle⟩ := incomparable (a := a) (Bool.eq_false_iff.mpr hb)
    exact hlt (hsame.mpr hle)
  · exact lt_iff_not_le ha

end Seconds
end KnotAtlas
