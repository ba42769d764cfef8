import KnotAtlas.Text.Lowercase

/-!
The lower-case form of a part of a text. Every character but the capital sigma has a form of its
own; what stands around a capital sigma decides between its two small forms. So a part has the same
form in a text as alone exactly if each of its capital sigmas does.
-/

namespace KnotAtlas.Text

/-- Whether a capital sigma between two texts takes its final form; the first text is given last
character first. -/
def isFinalBetween (before after : List Char) : Bool :=
  startsCased before && !startsCased after

/-- Lower-case form of a part of a text, with what stands in front of it, last character first, and
behind it. -/
def lowerBetween (before part after : List Char) : List Char :=
  match part with
  | [] => []
  | c :: rest =>
    (if c = capitalSigma then
      [if isFinalBetween before (rest ++ after) then finalSigma else smallSigma]
    else lowerChar c) ++ lowerBetween (c :: before) rest after

/-- Each capital sigma of a part takes the same form between two texts as alone. -/
def KeepsSigmas (before part after : List Char) : Prop :=
  ∀ front back, part = front ++ capitalSigma :: back →
    isFinalBetween (before ++ front).reverse (back ++ after) = isFinalBetween front.reverse back

theorem lowerFrom_append (before part after : List Char) :
    lowerFrom before (part ++ after) =
      lowerBetween before part after ++ lowerFrom (part.reverse ++ before) after := by
  induction part generalizing before with
  | nil => rfl
  | cons c rest ih =>
      rw [List.cons_append, lowerFrom, lowerBetween, ih, List.reverse_cons, List.append_assoc,
        List.append_assoc]
      rfl

theorem lowerBetween_nil (before part : List Char) :
    lowerBetween before part [] = lowerFrom before part := by
  have happend := lowerFrom_append before part []
  rw [List.append_nil] at happend
  exact (happend.trans (List.append_nil _)).symm

/-- Where a character stands in a text with one more in front. -/
theorem forall_split_cons {c a : Char} {rest : List Char} {p : List Char → List Char → Prop} :
    (∀ front back, c :: rest = front ++ a :: back → p front back) ↔
      (c = a → p [] rest) ∧ ∀ front back, rest = front ++ a :: back → p (c :: front) back := by
  constructor
  · intro h
    refine ⟨?_, ?_⟩
    · rintro rfl
      exact h [] rest rfl
    · rintro front back rfl
      exact h (c :: front) back rfl
  · rintro ⟨hfirst, hrest⟩ front back hsplit
    cases front with
    | nil =>
        cases hsplit
        exact hfirst rfl
    | cons d front =>
        cases hsplit
        exact hrest front back rfl

/-- A part has the same form in two surroundings exactly if each of its capital sigmas has. -/
theorem lowerBetween_eq_iff {before before' part after after' : List Char} :
    lowerBetween before part after = lowerBetween before' part after' ↔
      ∀ front back, part = front ++ capitalSigma :: back →
        isFinalBetween (front.reverse ++ before) (back ++ after) =
          isFinalBetween (front.reverse ++ before') (back ++ after') := by
  induction part generalizing before before' with
  | nil => simp [lowerBetween]
  | cons c rest ih =>
      have hforms : ∀ x y : Bool, (if x then finalSigma else smallSigma) =
          (if y then finalSigma else smallSigma) ↔ x = y := by decide
      rw [lowerBetween, lowerBetween, forall_split_cons]
      simp only [List.reverse_cons, List.append_assoc, List.singleton_append, List.reverse_nil,
        List.nil_append]
      rw [← ih]
      split
      · rename_i hsigma
        rw [List.singleton_append, List.singleton_append, List.cons.injEq, hforms,
          imp_iff_right hsigma]
      · rename_i hother
        rw [List.append_cancel_left_eq]
        exact (and_iff_right fun hsigma => absurd hsigma hother).symm

/-- The form of a text holds the form that a part of it has there. -/
theorem lower_eq_append {s : String} {before part after : List Char}
    (h : s.toList = before ++ part ++ after) :
    ∃ front back, (lower s).toList = front ++ lowerBetween before.reverse part after ++ back := by
  refine ⟨lowerBetween [] before (part ++ after),
    lowerFrom (part.reverse ++ before.reverse) after, ?_⟩
  rw [lower, String.toList_ofList, h, List.append_assoc, lowerFrom_append, lowerFrom_append,
    List.append_nil, List.append_assoc]

theorem lowerBetween_eq_lower_iff {s : String} {before after : List Char} :
    lowerBetween before.reverse s.toList after = (lower s).toList ↔
      KeepsSigmas before s.toList after := by
  rw [lower, String.toList_ofList, ← lowerBetween_nil, lowerBetween_eq_iff]
  simp only [KeepsSigmas, List.reverse_append, List.append_nil]

theorem keepsSigmas_of_not_mem {before part after : List Char} (h : capitalSigma ∉ part) :
    KeepsSigmas before part after := by
  rintro front back rfl
  exact absurd (List.mem_append_right front (.head back)) h

end KnotAtlas.Text
