import KnotAtlas.Proofs.Source.Grammar

/-!
Where a declaration stands. A text is cut into pieces at line feeds when its knots are listed, and
at line ends of every kind when a knot is looked for. So the line that is found is counted in the
text with a line feed for every line end; where each line end is a line feed, perhaps with a
carriage return in front of it, that is the line of the knot's first declaration in the text itself.
-/

namespace KnotAtlas

namespace Text

/-- A text with a line feed in the place of every line end. -/
def feedEnds : List Char → List Char
  | [] => []
  | '\r' :: '\n' :: rest => '\n' :: feedEnds rest
  | c :: rest => (if isLineEnd c then '\n' else c) :: feedEnds rest

/-- Whether line ends are line feeds, with a carriage return before them or not; a carriage return
may end the text too. -/
def FeedsOnly (cs : List Char) : Prop :=
  ∀ before c after, cs = before ++ c :: after → isLineEnd c = true →
    c = '\n' ∨ c = '\r' ∧ (after = [] ∨ after.head? = some '\n')

theorem feedsOnly_cons_iff {c : Char} {rest : List Char} :
    FeedsOnly (c :: rest) ↔
      (isLineEnd c = true → c = '\n' ∨ c = '\r' ∧ (rest = [] ∨ rest.head? = some '\n')) ∧
        FeedsOnly rest := by
  constructor
  · intro h
    refine ⟨h [] c rest rfl, ?_⟩
    rintro before d after rfl
    exact h (c :: before) d after rfl
  · rintro ⟨hfirst, hrest⟩ before d after hsplit
    cases before with
    | nil =>
        cases hsplit
        exact hfirst
    | cons e before =>
        cases hsplit
        exact hrest before d after rfl

instance decidableFeedsOnly : (cs : List Char) → Decidable (FeedsOnly cs)
  | [] => isTrue fun _ _ _ h => absurd h (by simp)
  | _ :: rest =>
    have := decidableFeedsOnly rest
    decidable_of_iff' _ feedsOnly_cons_iff

/-- `line` is a whole line of a text, with `before` in front of it and `after` behind it. -/
structure LineAt (cs before line after : List Char) : Prop where
  split : cs = before ++ line ++ after
  starts : before = [] ∨ before.getLast? = some '\n'
  stops : after = [] ∨ after.head? = some '\n'
  one_line : '\n' ∉ line

section Pieces

variable {a : Char} {cs piece : List Char} {pieces : List (List Char)}

theorem splitOn_cons_of_ne {c : Char} (h : c ≠ a) (hcs : cs.splitOn a = piece :: pieces) :
    (c :: cs).splitOn a = (c :: piece) :: pieces := by
  rw [List.splitOn_cons_eq_if_modifyHead, if_neg (mt beq_iff_eq.mp h), hcs]
  rfl

theorem length_splitOn (a : Char) (cs : List Char) :
    (cs.splitOn a).length = cs.count a + 1 := by
  induction cs with
  | nil => rfl
  | cons c cs ih =>
      rw [List.splitOn_cons_eq_if_modifyHead, List.count_cons]
      split
      · rw [List.length_cons, ih]
      · rw [List.length_modifyHead, ih]

/-- The first piece ends where the separator stands first. -/
theorem splitOn_eq_cons (h : cs.splitOn a = piece :: pieces) :
    a ∉ piece ∧ (pieces = [] ∧ cs = piece ∨
      ∃ rest, cs = piece ++ a :: rest ∧ rest.splitOn a = pieces) := by
  by_cases hmem : a ∈ cs
  · obtain ⟨first, rest, rfl, hfirst⟩ := List.eq_append_cons_of_mem hmem
    rw [List.splitOn_append_cons_self_of_not_mem hfirst] at h
    cases h
    exact ⟨hfirst, .inr ⟨rest, rfl, rfl⟩⟩
  · rw [List.splitOn_eq_singleton hmem] at h
    cases h
    exact ⟨hmem, .inl ⟨rfl, rfl⟩⟩

end Pieces

namespace LineAt

variable {cs before line after : List Char}

/-- The pieces of a text up to a line of it are those of the text in front of the line. -/
theorem pieces (h : LineAt cs before line after) :
    ∃ earlier later, cs.splitOn '\n' = earlier ++ line :: later ∧
      before.splitOn '\n' = earlier ++ [[]] := by
  obtain ⟨rfl, hstarts, hstops, hline⟩ := h
  have hrest : ∃ later, (line ++ after).splitOn '\n' = line :: later := by
    obtain rfl | hfeed := hstops
    · exact ⟨[], by rw [List.append_nil, List.splitOn_eq_singleton hline]⟩
    · obtain ⟨rest, rfl⟩ := List.head?_eq_some_iff.mp hfeed
      exact ⟨_, List.splitOn_append_cons_self_of_not_mem hline rest⟩
  obtain ⟨later, hlater⟩ := hrest
  obtain rfl | hfeed := hstarts
  · exact ⟨[], later, hlater, rfl⟩
  · obtain ⟨earlier, rfl⟩ := List.getLast?_eq_some_iff.mp hfeed
    refine ⟨earlier.splitOn '\n', later, ?_, List.splitOn_append_cons_self earlier []⟩
    rw [List.append_assoc, List.append_assoc, List.singleton_append,
      List.splitOn_append_cons_self, hlater]

/-- Every piece of a text between line feeds is a line of it. -/
theorem of_pieces {earlier later : List (List Char)}
    (h : cs.splitOn '\n' = earlier ++ line :: later) :
    ∃ before after, LineAt cs before line after ∧ before.splitOn '\n' = earlier ++ [[]] := by
  induction earlier generalizing cs with
  | nil =>
      obtain ⟨hline, ⟨-, rfl⟩ | ⟨rest, rfl, -⟩⟩ := splitOn_eq_cons h
      · exact ⟨[], [], ⟨(List.append_nil cs).symm, .inl rfl, .inl rfl, hline⟩, rfl⟩
      · exact ⟨[], '\n' :: rest, ⟨rfl, .inl rfl, .inr rfl, hline⟩, rfl⟩
  | cons first earlier ih =>
      obtain ⟨hfirst, ⟨hnone, -⟩ | ⟨rest, rfl, hrest⟩⟩ := splitOn_eq_cons h
      · exact absurd hnone (by simp)
      · obtain ⟨before, after, ⟨rfl, hstarts, hstops, hline⟩, hbefore⟩ := ih hrest
        refine ⟨first ++ '\n' :: before, after, ⟨by simp, .inr ?_, hstops, hline⟩, ?_⟩
        · rw [List.getLast?_append]
          obtain rfl | hfeed := hstarts
          · rfl
          · rw [List.getLast?_cons, hfeed]
            rfl
        · rw [List.splitOn_append_cons_self_of_not_mem hfirst, hbefore]
          rfl

end LineAt

/-! ### Lines that end at any line end -/

theorem ne_feed_of_not_lineEnd {c : Char} (h : ¬isLineEnd c = true) : c ≠ '\n' := by
  rintro rfl
  exact h (by decide)

theorem ne_return_of_not_lineEnd {c : Char} (h : ¬isLineEnd c = true) : c ≠ '\r' := by
  rintro rfl
  exact h (by decide)

/-- With a line feed for every line end, the pieces of a text are its lines, and an empty one after
a last line end. -/
theorem splitOn_feedEnds (cs : List Char) :
    ∃ last, (last = [] ∨ last = [[]]) ∧ (feedEnds cs).splitOn '\n' = linesOf cs ++ last := by
  fun_induction linesOf cs with
  | case1 => exact ⟨[[]], .inr rfl, rfl⟩
  | case2 rest ih =>
      obtain ⟨last, hlast, hsplit⟩ := ih
      refine ⟨last, hlast, ?_⟩
      rw [feedEnds, List.splitOn_cons_eq_if_modifyHead, if_pos (by decide), hsplit]
      rfl
  | case3 c rest hreturn hend ih =>
      obtain ⟨last, hlast, hsplit⟩ := ih
      refine ⟨last, hlast, ?_⟩
      rw [feedEnds.eq_3 _ _ hreturn, if_pos hend, List.splitOn_cons_eq_if_modifyHead,
        if_pos (by decide), hsplit]
      rfl
  | case4 c rest hreturn hend line later hlines ih =>
      obtain ⟨last, hlast, hsplit⟩ := ih
      refine ⟨last, hlast, ?_⟩
      rw [hlines] at hsplit
      rw [feedEnds.eq_3 _ _ hreturn, if_neg hend]
      exact splitOn_cons_of_ne (ne_feed_of_not_lineEnd hend) hsplit
  | case5 c rest hreturn hend hlines ih =>
      obtain ⟨last, rfl | rfl, hsplit⟩ := ih
      · rw [hlines] at hsplit
        exact absurd hsplit (List.splitOn_ne_nil _ _)
      · rw [hlines] at hsplit
        refine ⟨[], .inl rfl, ?_⟩
        rw [feedEnds.eq_3 _ _ hreturn, if_neg hend]
        exact splitOn_cons_of_ne (ne_feed_of_not_lineEnd hend) hsplit

theorem FeedsOnly.tail {c : Char} {cs : List Char} (h : FeedsOnly (c :: cs)) : FeedsOnly cs :=
  (feedsOnly_cons_iff.mp h).2

/-- `piece` is a line with the carriage return that its line end may begin with. -/
structure Ends (piece line : List Char) : Prop where
  plain : '\r' ∉ line
  ends : piece = line ∨ piece = line ++ ['\r']

theorem Ends.cons {c : Char} {piece line : List Char} (h : Ends piece line) (hc : c ≠ '\r') :
    Ends (c :: piece) (c :: line) where
  plain hmem := by
    cases List.mem_cons.mp hmem with
    | inl heq => exact hc heq.symm
    | inr hmem => exact h.plain hmem
  ends := h.ends.imp (congrArg (c :: ·)) (congrArg (c :: ·))

/-- Where line ends are line feeds, cutting at them gives the lines. -/
theorem FeedsOnly.forall₂_lines {cs : List Char} (h : FeedsOnly cs) :
    ∃ last, (last = [] ∨ last = [[]]) ∧
      List.Forall₂ Ends (cs.splitOn '\n') (linesOf cs ++ last) := by
  have hnil : Ends [] [] := ⟨List.not_mem_nil, .inl rfl⟩
  have hfeed : ∀ rest : List Char, ('\n' :: rest).splitOn '\n' = [] :: rest.splitOn '\n' :=
    List.splitOn_append_cons_self []
  fun_induction linesOf cs with
  | case1 => exact ⟨[[]], .inr rfl, .cons hnil .nil⟩
  | case2 rest ih =>
      obtain ⟨last, hlast, hlines⟩ := ih h.tail.tail
      refine ⟨last, hlast, ?_⟩
      rw [splitOn_cons_of_ne (by decide) (hfeed rest)]
      exact .cons ⟨List.not_mem_nil, .inr rfl⟩ hlines
  | case3 c rest hreturn hend ih =>
      obtain ⟨last, hlast, hlines⟩ := ih h.tail
      obtain rfl | ⟨rfl, hafter⟩ := h [] c rest rfl hend
      · refine ⟨last, hlast, ?_⟩
        rw [hfeed]
        exact .cons hnil hlines
      · -- a carriage return that no line feed follows is the last character
        obtain rfl | hnext := hafter
        · exact ⟨[], .inl rfl, .cons ⟨List.not_mem_nil, .inr rfl⟩ .nil⟩
        · obtain ⟨later, rfl⟩ := List.head?_eq_some_iff.mp hnext
          exact absurd rfl (hreturn later rfl)
  | case4 c rest hreturn hend line later hlines ih =>
      obtain ⟨last, hlast, hrest⟩ := ih h.tail
      rw [hlines] at hrest
      obtain ⟨piece, pieces, hhead, htail, hpieces⟩ := List.forall₂_cons_right_iff.mp hrest
      refine ⟨last, hlast, ?_⟩
      rw [splitOn_cons_of_ne (ne_feed_of_not_lineEnd hend) hpieces]
      exact .cons (hhead.cons (ne_return_of_not_lineEnd hend)) htail
  | case5 c rest hreturn hend hlines ih =>
      obtain ⟨last, rfl | rfl, hrest⟩ := ih h.tail
      · rw [hlines] at hrest
        exact absurd (List.forall₂_nil_right_iff.mp hrest) (List.splitOn_ne_nil _ _)
      · rw [hlines] at hrest
        obtain ⟨piece, pieces, hhead, htail, hpieces⟩ := List.forall₂_cons_right_iff.mp hrest
        refine ⟨[], .inl rfl, ?_⟩
        rw [splitOn_cons_of_ne (ne_feed_of_not_lineEnd hend) hpieces]
        exact .cons (hhead.cons (ne_return_of_not_lineEnd hend)) htail

end Text

namespace Source

open Text (LineAt FeedsOnly feedEnds lineFeeds)
open Grammar (Declares)

/-! ### A carriage return at the end of a declaration -/

/-- `cs` is a text without carriage returns that one is put behind. -/
structure Returned (cs bare : List Char) : Prop where
  plain : '\r' ∉ bare
  split : cs = bare ++ ['\r']

namespace Returned

variable {cs bare : List Char} {p : Char → Bool}

theorem dropWhile (h : Returned cs bare) (hp : p '\r' = false) :
    Returned (cs.dropWhile p) (bare.dropWhile p) := by
  obtain ⟨hplain, rfl⟩ := h
  refine ⟨fun hmem => hplain ((List.dropWhile_suffix p).subset hmem), ?_⟩
  rw [List.dropWhile_append]
  split
  · rename_i hnone
    rw [List.isEmpty_iff.mp hnone]
    exact List.dropWhile_cons_of_neg (by simp [hp])
  · rfl

theorem takeWhile (h : Returned cs bare) (hp : p '\r' = false) :
    cs.takeWhile p = bare.takeWhile p := by
  rw [h.split, List.takeWhile_append]
  split
  · rename_i hall
    rw [List.takeWhile_cons_of_neg (by simp [hp]), List.append_nil]
    exact ((List.takeWhile_prefix p).eq_of_length hall).symm
  · rfl

theorem skipGap (h : Returned cs bare) : Returned (skipGap cs) (skipGap bare) :=
  h.dropWhile (by decide)

theorem skipRule? (h : Returned cs bare) :
    Option.Rel Returned (skipRule? cs) (skipRule? bare) := by
  rw [Source.skipRule?, Source.skipRule?, h.takeWhile (by decide)]
  split
  · exact .some (h.dropWhile (by decide))
  · exact .none

theorem takeIdentifier? (h : Returned cs bare) :
    Option.Rel (fun taken other => taken.1 = other.1 ∧ Returned taken.2 other.2)
      (Text.takeIdentifier? cs) (Text.takeIdentifier? bare) := by
  obtain ⟨hplain, rfl⟩ := h
  cases bare with
  | nil => exact .none
  | cons c rest =>
      have hrest : Returned (rest ++ ['\r']) rest := ⟨fun hmem => hplain (.tail c hmem), rfl⟩
      rw [List.cons_append, Text.takeIdentifier?, Text.takeIdentifier?]
      split
      · refine .some ⟨?_, hrest.dropWhile (by decide)⟩
        rw [hrest.takeWhile (by decide)]
      · exact .none

/-- A text that does not begin with `c` does not do so with a carriage return behind it. -/
theorem not_opens {c : Char} (h : Returned cs bare) (hc : c ≠ '\r')
    (hbare : ∀ rest, bare ≠ c :: rest) (rest : List Char) : cs ≠ c :: rest := by
  obtain ⟨-, rfl⟩ := h
  cases bare with
  | nil =>
      rintro ⟨⟩
      exact hc rfl
  | cons d later =>
      rintro ⟨⟩
      exact hbare later rfl

theorem skipParameters? (h : Returned cs bare) :
    Option.Rel Returned (skipParameters? cs) (skipParameters? bare) := by
  have hother : ∀ cs, (∀ rest, cs ≠ '(' :: rest) → Source.skipParameters? cs = some cs := by
    intro cs hcs
    unfold Source.skipParameters?
    split
    · exact absurd rfl (hcs _)
    · rfl
  by_cases hopen : ∃ rest, bare = '(' :: rest
  · obtain ⟨rest, rfl⟩ := hopen
    obtain ⟨hplain, rfl⟩ := h
    rw [List.cons_append]
    simp only [Source.skipParameters?, List.dropWhile_append]
    cases hclose : rest.dropWhile (· != ')') with
    | nil => exact .none
    | cons c after =>
        have hsuffix : c :: after <:+ rest := hclose ▸ List.dropWhile_suffix _
        refine .some ⟨fun hmem => hplain (.tail _ ?_), rfl⟩
        exact hsuffix.subset (.tail c hmem)
  · have hbare : ∀ rest, bare ≠ '(' :: rest := fun rest heq => hopen ⟨rest, heq⟩
    rw [hother bare hbare, hother cs (h.not_opens (by decide) hbare)]
    exact .some h

theorem skipClosingRule? (h : Returned cs bare) :
    Option.Rel Returned (skipClosingRule? cs) (skipClosingRule? bare) := by
  have hother : ∀ cs, (∀ rest, cs ≠ '=' :: rest) → Source.skipClosingRule? cs = some cs := by
    intro cs hcs
    unfold Source.skipClosingRule?
    split
    · exact absurd rfl (hcs _)
    · rfl
  by_cases hopen : ∃ rest, bare = '=' :: rest
  · obtain ⟨rest, rfl⟩ := hopen
    have hrule := h.skipRule?
    obtain ⟨-, rfl⟩ := h
    exact hrule
  · have hbare : ∀ rest, bare ≠ '=' :: rest := fun rest heq => hopen ⟨rest, heq⟩
    rw [hother bare hbare, hother cs (h.not_opens (by decide) hbare)]
    exact .some h

theorem isLineRest (h : Returned cs bare) : isLineRest cs = isLineRest bare := by
  have hiff : ∀ cs, Source.isLineRest cs = true ↔
      cs = [] ∨ cs = ['\r'] ∨ ∃ text, cs = '/' :: '/' :: text := by
    intro cs
    unfold Source.isLineRest
    split <;> simp_all
  obtain ⟨hplain, rfl⟩ := h
  rw [Bool.eq_iff_iff, hiff, hiff]
  obtain - | ⟨c, - | ⟨d, rest⟩⟩ := bare
  · simp
  · have hc : c ≠ '\r' := fun heq => hplain (heq ▸ .head _)
    simp [hc]
  · simp

end Returned

theorem bind_eq_of_rel {α β γ : Type} {R : α → β → Prop} {x : Option α} {y : Option β}
    (h : Option.Rel R x y) {f : α → Option γ} {g : β → Option γ}
    (hfg : ∀ a b, R a b → f a = g b) : x.bind f = y.bind g := by
  cases h with
  | none => rfl
  | some hab => exact hfg _ _ hab

/-- A carriage return at the end of a line changes nothing about what it declares. -/
theorem Returned.knotOnLine? {cs bare : List Char} (h : Returned cs bare) :
    knotOnLine? cs = knotOnLine? bare := by
  refine bind_eq_of_rel h.skipGap.skipRule? fun afterRule bareRule hrule => ?_
  refine bind_eq_of_rel hrule.skipGap.takeIdentifier? ?_
  rintro ⟨name, rest⟩ ⟨_, bareRest⟩ ⟨rfl, hrest⟩
  dsimp only
  split
  · rfl
  · refine bind_eq_of_rel hrest.skipGap.skipParameters? fun later bareLater hlater => ?_
    refine bind_eq_of_rel hlater.skipGap.skipClosingRule? fun last bareLast hlast => ?_
    rw [hlast.skipGap.isLineRest]

/-! ### The first declaration of a knot -/

/-- The knot that a line declares, as a name. -/
def nameOnLine? (line : List Char) : Option String :=
  (knotOnLine? line).map String.ofList

/-- `line` declares a knot, and no line in front of it does. -/
structure FirstDeclaration (cs : List Char) (knot : String) (before line after : List Char) : Prop
    extends LineAt cs before line after where
  declares : Declares line knot.toList
  first : knot ∉ knots (String.ofList before)

theorem nameOnLine?_eq_some_iff {line : List Char} {knot : String} :
    nameOnLine? line = some knot ↔ Declares line knot.toList := by
  rw [← Grammar.knotOnLine?_eq_some_iff, nameOnLine?, Option.map_eq_some_iff]
  constructor
  · rintro ⟨name, hname, rfl⟩
    rw [String.toList_ofList]
    exact hname
  · exact fun hname => ⟨_, hname, String.ofList_toList⟩

theorem mem_knots_iff {cs : List Char} {knot : String} :
    knot ∈ knots (String.ofList cs) ↔ ∃ line ∈ cs.splitOn '\n', nameOnLine? line = some knot := by
  rw [knots, Grammar.feedLines_eq_splitOn, String.toList_ofList, List.mem_filterMap]
  rfl

theorem findIdx?_eq_some_iff_append {α : Type} {p : α → Bool} {items : List α} {i : Nat} :
    items.findIdx? p = some i ↔ ∃ earlier item later, items = earlier ++ item :: later ∧
      p item = true ∧ (∀ other ∈ earlier, p other = false) ∧ earlier.length = i := by
  constructor
  · intro h
    obtain ⟨hi, hitem, hearlier⟩ := List.findIdx?_eq_some_iff_getElem.mp h
    refine ⟨items.take i, items[i], items.drop (i + 1), ?_, hitem, ?_, ?_⟩
    · rw [← List.drop_eq_getElem_cons hi, List.take_append_drop]
    · intro other hother
      obtain ⟨j, hj, rfl⟩ := List.mem_take_iff_getElem.mp hother
      exact Bool.eq_false_iff.mpr (hearlier j (by omega))
    · exact List.length_take_of_le (Nat.le_of_lt hi)
  · rintro ⟨earlier, item, later, rfl, hitem, hearlier, rfl⟩
    rw [List.findIdx?_append, List.findIdx?_eq_none_iff.mpr hearlier, List.findIdx?_cons, hitem]
    simp

/-- A declaration stands behind as many line feeds as there are pieces in front of its own. -/
theorem findIdx?_nameOnLine?_iff {cs : List Char} {knot : String} {i : Nat} :
    (cs.splitOn '\n').findIdx? (fun line => nameOnLine? line = some knot) = some i ↔
      ∃ before line after, FirstDeclaration cs knot before line after ∧ lineFeeds before = i := by
  have hfeeds : ∀ {before : List Char} {earlier : List (List Char)},
      before.splitOn '\n' = earlier ++ [[]] → lineFeeds before = earlier.length := by
    intro before earlier hbefore
    have hlength := Text.length_splitOn '\n' before
    rw [hbefore, List.length_append] at hlength
    exact (Nat.succ.inj hlength).symm
  have hfirst : ∀ {before : List Char} {earlier : List (List Char)},
      before.splitOn '\n' = earlier ++ [[]] →
        (knot ∉ knots (String.ofList before) ↔ ∀ other ∈ earlier, nameOnLine? other ≠ some knot) := by
    intro before earlier hbefore
    rw [mem_knots_iff, hbefore]
    simp [show nameOnLine? [] = none from rfl]
  rw [findIdx?_eq_some_iff_append]
  constructor
  · rintro ⟨earlier, line, later, hpieces, hline, hearlier, rfl⟩
    obtain ⟨before, after, hat, hbefore⟩ := LineAt.of_pieces hpieces
    refine ⟨before, line, after, ⟨hat, ?_, ?_⟩, hfeeds hbefore⟩
    · exact nameOnLine?_eq_some_iff.mp (of_decide_eq_true hline)
    · exact (hfirst hbefore).mpr fun other hother => of_decide_eq_false (hearlier other hother)
  · rintro ⟨before, line, after, ⟨hat, hdeclares, hnone⟩, rfl⟩
    obtain ⟨earlier, later, hpieces, hbefore⟩ := hat.pieces
    refine ⟨earlier, line, later, hpieces, ?_, ?_, (hfeeds hbefore).symm⟩
    · exact decide_eq_true (nameOnLine?_eq_some_iff.mpr hdeclares)
    · exact fun other hother => decide_eq_false ((hfirst hbefore).mp hnone other hother)

theorem mem_knots_iff_first {content knot : String} :
    knot ∈ knots content ↔
      ∃ before line after, FirstDeclaration content.toList knot before line after := by
  have hcontent : knots content = knots (String.ofList content.toList) := by
    rw [String.ofList_toList]
  rw [hcontent, mem_knots_iff]
  constructor
  · rintro ⟨line, hmem, hline⟩
    have hsome : ((content.toList.splitOn '\n').findIdx? fun line =>
        nameOnLine? line = some knot).isSome := by
      rw [List.findIdx?_isSome, List.any_eq_true]
      exact ⟨line, hmem, decide_eq_true hline⟩
    obtain ⟨i, hi⟩ := Option.isSome_iff_exists.mp hsome
    obtain ⟨before, line, after, hfirst, -⟩ := findIdx?_nameOnLine?_iff.mp hi
    exact ⟨before, line, after, hfirst⟩
  · rintro ⟨before, line, after, hfirst⟩
    obtain ⟨earlier, later, hpieces, -⟩ := hfirst.toLineAt.pieces
    refine ⟨line, ?_, nameOnLine?_eq_some_iff.mpr hfirst.declares⟩
    rw [hpieces]
    simp

/-- A knot is looked for line by line; an empty piece more or less does not count. -/
theorem knotLine?_eq_some_iff_of_pieces {content knot : String} {cs : List Char}
    {last : List (List Char)} (hlast : last = [] ∨ last = [[]])
    (h : (cs.splitOn '\n').map knotOnLine? =
      (Text.linesOf content.toList ++ last).map knotOnLine?) {n : Nat} :
    knotLine? content knot = some n ↔
      ∃ before line after, FirstDeclaration cs knot before line after ∧
        n = 1 + lineFeeds before := by
  have hfind : ∀ lines : List (List Char),
      lines.findIdx? (fun line => nameOnLine? line = some knot) =
        (lines.map knotOnLine?).findIdx? fun found => found.map String.ofList = some knot := by
    intro lines
    rw [List.findIdx?_map]
    rfl
  have hnone : last.findIdx? (fun line => nameOnLine? line = some knot) = none := by
    obtain rfl | rfl := hlast
    · rfl
    · rfl
  have hlines : knotLine? content knot =
      ((cs.splitOn '\n').findIdx? fun line => nameOnLine? line = some knot).map (· + 1) := by
    rw [hfind, h, ← hfind, List.findIdx?_append, hnone, Option.map_none, Option.or_none]
    rfl
  rw [hlines, Option.map_eq_some_iff]
  simp only [findIdx?_nameOnLine?_iff]
  constructor
  · rintro ⟨i, ⟨before, line, after, hfirst, rfl⟩, rfl⟩
    exact ⟨before, line, after, hfirst, Nat.add_comm _ _⟩
  · rintro ⟨before, line, after, hfirst, rfl⟩
    exact ⟨_, ⟨before, line, after, hfirst, rfl⟩, Nat.add_comm _ _⟩

/-- The line of a knot is told as it stands in the text with a line feed for every line end. -/
theorem knotLine?_eq_some_iff {content knot : String} {n : Nat} :
    knotLine? content knot = some n ↔
      ∃ before line after, FirstDeclaration (feedEnds content.toList) knot before line after ∧
        n = 1 + lineFeeds before := by
  obtain ⟨last, hlast, hsplit⟩ := Text.splitOn_feedEnds content.toList
  exact knotLine?_eq_some_iff_of_pieces hlast (congrArg (List.map knotOnLine?) hsplit)

theorem knotOnLine?_of_ends {piece line : List Char} (h : Text.Ends piece line) :
    knotOnLine? piece = knotOnLine? line := by
  obtain ⟨hplain, rfl | rfl⟩ := h
  · rfl
  · exact Returned.knotOnLine? ⟨hplain, rfl⟩

/-- Where line ends are line feeds, the line of a knot is that of its first declaration. -/
theorem knotLine?_eq_some_iff_of_feedsOnly {content knot : String}
    (h : FeedsOnly content.toList) {n : Nat} :
    knotLine? content knot = some n ↔
      ∃ before line after, FirstDeclaration content.toList knot before line after ∧
        n = 1 + lineFeeds before := by
  obtain ⟨last, hlast, hlines⟩ := h.forall₂_lines
  refine knotLine?_eq_some_iff_of_pieces hlast ?_
  rw [← List.forall₂_eq_eq_eq, List.forall₂_map_left_iff, List.forall₂_map_right_iff]
  exact hlines.imp fun _ _ => knotOnLine?_of_ends

theorem isSome_knotLine?_iff {content knot : String} (h : FeedsOnly content.toList) :
    (knotLine? content knot).isSome ↔ knot ∈ knots content := by
  rw [mem_knots_iff_first, Option.isSome_iff_exists]
  simp only [knotLine?_eq_some_iff_of_feedsOnly h]
  constructor
  · rintro ⟨n, before, line, after, hfirst, -⟩
    exact ⟨before, line, after, hfirst⟩
  · rintro ⟨before, line, after, hfirst⟩
    exact ⟨_, before, line, after, hfirst, rfl⟩

theorem FirstDeclaration.knotLine?_eq {content knot : String} {before line after : List Char}
    (hfirst : FirstDeclaration content.toList knot before line after)
    (h : FeedsOnly content.toList) : knotLine? content knot = some (1 + lineFeeds before) :=
  (knotLine?_eq_some_iff_of_feedsOnly h).mpr ⟨before, line, after, hfirst, rfl⟩

end Source
end KnotAtlas
