/-!
Likeness of two texts, and the names closest to a word. Two texts are matched by their longest
common block, then by what matches on either side of it; likeness is twice the matched length over
the joint length. In a long word, characters that occur too often start no block and only prolong
one.
-/

namespace KnotAtlas.Text.CloseMatch

/-- A common block: where it starts in either text, and its length. -/
structure Block where
  left : Nat
  right : Nat
  size : Nat
  deriving DecidableEq, Repr

/-- Lengths of the common runs that end at a character `c` of one text and at each character of the
other, from the lengths for the character before `c`. -/
def nextRow (starts : Char → Bool) (c : Char) (right : List Char) (row : List Nat) : List Nat :=
  List.zipWith (fun d run => if d = c && starts d then run + 1 else 0) right (0 :: row)

/-- The better of a block and the runs that end at index `i` on the left and from `j` on on the
right; an earlier block wins against an equally long one. -/
def improve (i : Nat) : Nat → List Nat → Block → Block
  | _, [], best => best
  | j, run :: rest, best =>
    improve i (j + 1) rest
      (if best.size < run then ⟨i + 1 - run, j + 1 - run, run⟩ else best)

/-- The first longest run over the characters of the left text from index `i` on. -/
def scan (starts : Char → Bool) (right : List Char) :
    Nat → List Char → List Nat → Block → Block
  | _, [], _, best => best
  | i, c :: rest, row, best =>
    let row := nextRow starts c right row
    scan starts right (i + 1) rest row (improve i 0 row best)

def commonStart : List Char → List Char → Nat
  | a :: as, b :: bs => if a = b then commonStart as bs + 1 else 0
  | _, _ => 0

def Block.prolong (b : Block) (left right : List Char) : Block :=
  let back := commonStart (left.take b.left).reverse (right.take b.right).reverse
  let on := commonStart (left.drop (b.left + b.size)) (right.drop (b.right + b.size))
  ⟨b.left - back, b.right - back, back + b.size + on⟩

/-- The longest common block of two texts, the first of several. -/
def longestBlock (starts : Char → Bool) (left right : List Char) : Block :=
  (scan starts right 0 left (right.map fun _ => 0) ⟨0, 0, 0⟩).prolong left right

def matched (starts : Char → Bool) (left right : List Char) : Nat :=
  match longestBlock starts left right with
  | ⟨i, j, size⟩ =>
    if _h : 0 < size ∧ i + size ≤ left.length then
      matched starts (left.take i) (right.take j) + size +
        matched starts (left.drop (i + size)) (right.drop (j + size))
    else 0
termination_by left.length
decreasing_by
  · simp only [List.length_take]; omega
  · simp only [List.length_drop]; omega

/-- Whether a character of a word may start a block: in a word of 200 characters or more it must not
make up more than a hundredth of the word, rounded down and one more. -/
def mayStart (word : List Char) (c : Char) : Bool :=
  word.length < 200 || word.count c ≤ word.length / 100 + 1

/-- A likeness as an exact fraction. -/
structure Likeness where
  numerator : Nat
  denominator : Nat
  deriving DecidableEq, Repr

/-- The likeness of a candidate to a word; two empty texts are alike. -/
def likeness (word candidate : List Char) : Likeness :=
  let total := candidate.length + word.length
  if total = 0 then ⟨1, 1⟩ else ⟨2 * matched (mayStart word) candidate word, total⟩

def Likeness.isClose (l : Likeness) : Bool :=
  3 * l.denominator ≤ 5 * l.numerator

/-- Whether candidate `a` comes before candidate `b`: the more alike first, of equally alike ones
the greater name. -/
def before (a b : Likeness × String) : Bool :=
  let l := a.1.numerator * b.1.denominator
  let r := b.1.numerator * a.1.denominator
  r < l || (l == r && b.2 ≤ a.2)

/-- At most three names of `available` that are close to `word`, the closest first. -/
def closest (word : String) (available : List String) : List String :=
  let rated := available.map fun name => (likeness word.toList name.toList, name)
  (((rated.filter (·.1.isClose)).mergeSort before).take 3).map (·.2)

end KnotAtlas.Text.CloseMatch
