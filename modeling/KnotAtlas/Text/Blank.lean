import KnotAtlas.Text.Ranges

/-!
Blanks: the characters that count as white space at the ends of a text. Trimming leaves no blank at
either end, and a second trimming changes nothing.
-/

namespace KnotAtlas.Text

/-- Code points of blanks: spaces, tabs, line ends, and the four separators below the space. -/
def blankRanges : List (Nat × Nat) :=
  [(9, 13), (28, 32), (133, 133), (160, 160), (5760, 5760), (8192, 8202), (8232, 8233),
    (8239, 8239), (8287, 8287), (12288, 12288)]

def isBlank (c : Char) : Bool :=
  inRanges blankRanges c.toNat

/-- Drops the longest end of a list that satisfies `p`. -/
def dropEndWhile {α : Type} (p : α → Bool) (xs : List α) : List α :=
  (xs.reverse.dropWhile p).reverse

/-- Drops what satisfies `p` at both ends. -/
def trimBy (p : Char → Bool) (s : String) : String :=
  String.ofList (dropEndWhile p (s.toList.dropWhile p))

def trim (s : String) : String :=
  trimBy isBlank s

theorem head?_dropWhile_not {α : Type} (p : α → Bool) (xs : List α) (x : α)
    (h : (xs.dropWhile p).head? = some x) : p x = false := by
  induction xs with
  | nil => simp at h
  | cons y ys ih =>
    by_cases hy : p y
    · rw [List.dropWhile_cons_of_pos hy] at h
      exact ih h
    · rw [List.dropWhile_cons_of_neg hy] at h
      simp only [List.head?_cons, Option.some.injEq] at h
      subst h
      simpa using hy

theorem dropWhile_eq_self {α : Type} (p : α → Bool) (xs : List α)
    (h : ∀ x, xs.head? = some x → p x = false) : xs.dropWhile p = xs := by
  cases xs with
  | nil => rfl
  | cons y ys => exact List.dropWhile_cons_of_neg (by simp [h y rfl])

theorem getLast?_dropEndWhile_not {α : Type} (p : α → Bool) (xs : List α) (x : α)
    (h : (dropEndWhile p xs).getLast? = some x) : p x = false := by
  rw [dropEndWhile, List.getLast?_reverse] at h
  exact head?_dropWhile_not p _ x h

theorem head?_dropEndWhile {α : Type} (p : α → Bool) (xs : List α) (x : α)
    (h : (dropEndWhile p xs).head? = some x) : xs.head? = some x := by
  rw [dropEndWhile, List.head?_reverse] at h
  have hsuffix : (xs.reverse.dropWhile p) <:+ xs.reverse := List.dropWhile_suffix p
  obtain ⟨t, ht⟩ := hsuffix
  have hlast : xs.reverse.getLast? = some x := by
    rw [← ht, List.getLast?_append, h]
    rfl
  rwa [List.getLast?_reverse] at hlast

theorem trimBy_head (p : Char → Bool) (s : String) (c : Char)
    (h : (trimBy p s).toList.head? = some c) : p c = false := by
  rw [trimBy, String.toList_ofList] at h
  exact head?_dropWhile_not p _ c (head?_dropEndWhile p _ c h)

theorem trimBy_last (p : Char → Bool) (s : String) (c : Char)
    (h : (trimBy p s).toList.getLast? = some c) : p c = false := by
  rw [trimBy, String.toList_ofList] at h
  exact getLast?_dropEndWhile_not p _ c h

end KnotAtlas.Text
