import KnotAtlas.Proofs.Story.Independence
import Mathlib.Data.List.TakeWhile

/-!
What the reference of a choice point leads to. A reference is a path with dots between its
components. It is read from the front: of the components after the first, the first one that begins
with the name of a branch decides, though the last one is meant. The branch of that name is the one
in the innermost enclosing array that has any.
-/

namespace KnotAtlas.Story

/-- A path with dots between its components. -/
def dotted (first : List Char) (rest : List (List Char)) : List Char :=
  first ++ rest.flatMap ('.' :: ·)

/-- The digits of the branch name that a component begins with. -/
def branchComponent? : List Char → Option (List Char)
  | 'c' :: '-' :: after =>
    let digits := after.takeWhile Text.isDecimalDigit
    if digits.isEmpty then none else some digits
  | _ => none

def branchName (digits : List Char) : String :=
  String.ofList ('c' :: '-' :: digits)

/-- The name that is found in a reference that ends in the name of a branch: the first name with
which one of the components `middle` between its first and its last begins, or else the last. -/
def foundName (middle : List (List Char)) (digits : List Char) : String :=
  branchName ((middle.findSome? branchComponent?).getD digits)

theorem branchDigits?_dot (cs : List Char) :
    branchDigits? ('.' :: cs) = (branchComponent? cs).or (branchDigits? cs) := by
  rw [branchComponent?.eq_def]
  split
  · rw [branchDigits?]
    dsimp only
    split <;> rfl
  · rename_i hother
    rw [branchDigits?, Option.none_or]
    intro after _ hcs
    exact hother after hcs

theorem branchDigits?_cons_of_ne {c : Char} (hc : c ≠ '.') (cs : List Char) :
    branchDigits? (c :: cs) = branchDigits? cs := by
  rw [branchDigits?]
  intro after heq
  exact absurd heq hc

theorem branchDigits?_append {component : List Char} (h : '.' ∉ component) (rest : List Char) :
    branchDigits? (component ++ rest) = branchDigits? rest := by
  induction component with
  | nil => rfl
  | cons c component ih =>
      rw [List.mem_cons, not_or] at h
      rw [List.cons_append, branchDigits?_cons_of_ne (Ne.symm h.1), ih h.2]

theorem isDecimalDigit_dot : Text.isDecimalDigit '.' = false := by decide

theorem takeWhile_digits_append (component : List Char) (rest : List (List Char)) :
    (component ++ rest.flatMap ('.' :: ·)).takeWhile Text.isDecimalDigit =
      component.takeWhile Text.isDecimalDigit := by
  induction component with
  | nil =>
      cases rest with
      | nil => rfl
      | cons next rest => simp [isDecimalDigit_dot]
  | cons c component ih => simp only [List.cons_append, List.takeWhile_cons, ih]

/-- A name does not go on past a dot. -/
theorem branchComponent?_append (component : List Char) (rest : List (List Char)) :
    branchComponent? (component ++ rest.flatMap ('.' :: ·)) = branchComponent? component := by
  cases component with
  | nil => cases rest <;> rfl
  | cons c component =>
      cases component with
      | nil => cases rest <;> simp [branchComponent?]
      | cons d after =>
          by_cases hname : c = 'c' ∧ d = '-'
          · obtain ⟨rfl, rfl⟩ := hname
            simp only [List.cons_append, branchComponent?, takeWhile_digits_append]
          · have hother : ∀ cs, branchComponent? (c :: d :: cs) = none := by
              intro cs
              rw [branchComponent?]
              intro after hcs
              simp_all
            rw [List.cons_append, List.cons_append, hother, hother]

/-- The first component after the first one that begins with a branch's name decides. -/
theorem branchDigits?_dotted {first : List Char} {rest : List (List Char)}
    (h : ∀ component ∈ first :: rest, '.' ∉ component) :
    branchDigits? (dotted first rest) = rest.findSome? branchComponent? := by
  rw [dotted, branchDigits?_append (h first (.head rest))]
  induction rest generalizing first with
  | nil => rfl
  | cons component rest ih =>
      have hrest : ∀ c ∈ component :: rest, '.' ∉ c := fun c hc => h c (.tail first hc)
      rw [List.flatMap_cons, List.cons_append, branchDigits?_dot, branchComponent?_append,
        branchDigits?_append (hrest component (.head rest)), ih hrest, List.findSome?_cons]
      cases branchComponent? component <;> rfl

theorem branchComponent?_branch {digits : List Char} (hne : digits ≠ [])
    (hdigits : ∀ d ∈ digits, Text.isDecimalDigit d = true) :
    branchComponent? ('c' :: '-' :: digits) = some digits := by
  have htake : digits.takeWhile Text.isDecimalDigit = digits :=
    List.takeWhile_eq_self_iff.mpr hdigits
  have hsome : digits.isEmpty = false := List.isEmpty_eq_false_iff.mpr hne
  simp only [branchComponent?, htake, hsome, Bool.false_eq_true, if_false]

/-- Whether a value is an object with an array under `key`. -/
def HasArray (v : Value) (key : String) : Prop :=
  ∃ members xs, v = .object members ∧ OrderedMap.find? members key = some (.list xs)

/-- The array under `key` in the first object of `holder` that has one. -/
def Holds (holder : Place) (key : String) (branch : Place) : Prop :=
  ∃ before members after xs, holder.items = before ++ .object members :: after ∧
    (∀ v ∈ before, ¬ HasArray v key) ∧ OrderedMap.find? members key = some (.list xs) ∧
    branch = ⟨.member before.length ((OrderedMap.keys members).idxOf key) :: holder.path, xs⟩

/-- The array under `key` in the innermost of some arrays, the innermost first, that has one. -/
def Nearest (stack : List Place) (key : String) (branch : Place) : Prop :=
  ∃ inner holder outer, stack = inner ++ holder :: outer ∧ Holds holder key branch ∧
    ∀ place ∈ inner, ∀ v ∈ place.items, ¬ HasArray v key

theorem find?_zipIdx_key (members : List (String × Value)) (key : String) (n : Nat) :
    (members.zipIdx n).find? (·.1.1 = key) =
      (OrderedMap.find? members key).map fun v =>
        ((key, v), n + (OrderedMap.keys members).idxOf key) := by
  induction members generalizing n with
  | nil => rfl
  | cons entry members ih =>
      obtain ⟨k, v⟩ := entry
      rw [List.zipIdx_cons, List.find?_cons, OrderedMap.find?_cons]
      by_cases hk : k = key
      · subst hk
        simp [OrderedMap.keys]
      · simp only [hk, decide_false, Ne.symm hk, if_false, ih, OrderedMap.keys, List.map_cons]
        rw [List.idxOf_cons_ne _ hk]
        simp only [Nat.succ_eq_add_one, Nat.add_assoc, Nat.add_comm 1]

theorem memberPlace?_eq_some_iff {path : Path} {i : Nat} {members : List (String × Value)}
    {key : String} {branch : Place} :
    memberPlace? path i members key = some branch ↔
      ∃ xs, OrderedMap.find? members key = some (.list xs) ∧
        branch = ⟨.member i ((OrderedMap.keys members).idxOf key) :: path, xs⟩ := by
  rw [memberPlace?, find?_zipIdx_key]
  cases OrderedMap.find? members key with
  | none => simp
  | some v =>
      cases v with
      | list xs => simp [eq_comm]
      | null | bool _ | int _ | float _ | str _ | object _ => simp

/-- The array under `key` in an object that stands at an index among the items of `path`. -/
def entryPlace? (path : Path) (key : String) : Value × Nat → Option Place
  | (.object members, i) => memberPlace? path i members key
  | _ => none

theorem branchIn?_eq_findSome? (holder : Place) (key : String) :
    branchIn? holder key = holder.items.zipIdx.findSome? (entryPlace? holder.path key) := by
  rw [branchIn?]
  congr 1
  funext entry
  obtain ⟨v, i⟩ := entry
  cases v <;> rfl

theorem entryPlace?_eq_some_iff {path : Path} {key : String} {v : Value} {i : Nat}
    {branch : Place} :
    entryPlace? path key (v, i) = some branch ↔
      ∃ members xs, v = .object members ∧ OrderedMap.find? members key = some (.list xs) ∧
        branch = ⟨.member i ((OrderedMap.keys members).idxOf key) :: path, xs⟩ := by
  cases v with
  | object members => simp [entryPlace?, memberPlace?_eq_some_iff]
  | null | bool _ | int _ | float _ | str _ | list _ => simp [entryPlace?]

theorem entryPlace?_eq_none_iff {path : Path} {key : String} {v : Value} {i : Nat} :
    entryPlace? path key (v, i) = none ↔ ¬ HasArray v key := by
  rw [Option.eq_none_iff_forall_ne_some]
  constructor
  · rintro hnone ⟨members, xs, hv, hxs⟩
    exact hnone _ (entryPlace?_eq_some_iff.mpr ⟨members, xs, hv, hxs, rfl⟩)
  · intro hnot branch hbranch
    obtain ⟨members, xs, hv, hxs, -⟩ := entryPlace?_eq_some_iff.mp hbranch
    exact hnot ⟨members, xs, hv, hxs⟩

theorem entryPlace?_none_of_zipIdx {path : Path} {key : String} {items : List Value} :
    (∀ entry ∈ items.zipIdx, entryPlace? path key entry = none) ↔
      ∀ v ∈ items, ¬ HasArray v key := by
  constructor
  · intro h v hv
    obtain ⟨i, hi⟩ := List.mem_iff_getElem?.mp hv
    exact entryPlace?_eq_none_iff.mp (h (v, i) (List.mem_zipIdx_iff_getElem?.mpr hi))
  · intro h entry hentry
    exact entryPlace?_eq_none_iff.mpr (h _ (List.fst_mem_of_mem_zipIdx hentry))

theorem branchIn?_eq_some_iff {holder branch : Place} {key : String} :
    branchIn? holder key = some branch ↔ Holds holder key branch := by
  rw [branchIn?_eq_findSome?, List.findSome?_eq_some_iff]
  constructor
  · rintro ⟨earlier, ⟨v, i⟩, later, hsplit, hv, hnone⟩
    obtain ⟨before, rest, hitems, rfl, hrest⟩ := List.zipIdx_eq_append_iff.mp hsplit
    obtain ⟨_, after, rfl, hentry, -⟩ := List.zipIdx_eq_cons_iff.mp hrest.symm
    cases hentry
    obtain ⟨members, xs, rfl, hxs, rfl⟩ := entryPlace?_eq_some_iff.mp hv
    rw [Nat.zero_add]
    exact ⟨before, members, after, xs, hitems, entryPlace?_none_of_zipIdx.mp hnone, hxs, rfl⟩
  · rintro ⟨before, members, after, xs, hitems, hnot, hxs, rfl⟩
    refine ⟨before.zipIdx, (.object members, before.length), after.zipIdx (before.length + 1), ?_,
      entryPlace?_eq_some_iff.mpr ⟨members, xs, rfl, hxs, rfl⟩, entryPlace?_none_of_zipIdx.mpr hnot⟩
    rw [hitems, List.zipIdx_append, List.zipIdx_cons, Nat.zero_add]

theorem branchIn?_eq_none_iff {holder : Place} {key : String} :
    branchIn? holder key = none ↔ ∀ v ∈ holder.items, ¬ HasArray v key := by
  rw [branchIn?_eq_findSome?, List.findSome?_eq_none_iff]
  exact entryPlace?_none_of_zipIdx

theorem findBranch?_eq_some_iff {stack : List Place} {key : String} {branch : Place} :
    findBranch? stack key = some branch ↔ Nearest stack key branch := by
  rw [findBranch?, List.findSome?_eq_some_iff]
  simp only [branchIn?_eq_some_iff, branchIn?_eq_none_iff, Nearest]

theorem findBranch?_eq_none_iff {stack : List Place} {key : String} :
    findBranch? stack key = none ↔ ∀ place ∈ stack, ∀ v ∈ place.items, ¬ HasArray v key := by
  rw [findBranch?, List.findSome?_eq_none_iff]
  simp only [branchIn?_eq_none_iff]

section Reference

variable {members : List (String × Value)} {reference : String} {first : List Char}
  {middle : List (List Char)} {digits : List Char}
  (href : OrderedMap.find? members "*" = some (.str reference))
  (hpath : reference.toList = dotted first (middle ++ ['c' :: '-' :: digits]))
  (hdots : ∀ component ∈ first :: middle, '.' ∉ component)
  (hne : digits ≠ []) (hdigits : ∀ d ∈ digits, Text.isDecimalDigit d = true)
include href hpath hdots hne hdigits

theorem branchKey?_of_reference : branchKey? members = some (foundName middle digits) := by
  have hlast : '.' ∉ 'c' :: '-' :: digits := by
    simp only [List.mem_cons, not_or]
    refine ⟨by decide, by decide, fun hdot => ?_⟩
    have hdigit := hdigits '.' hdot
    rw [isDecimalDigit_dot] at hdigit
    cases hdigit
  have hall : ∀ component ∈ first :: (middle ++ ['c' :: '-' :: digits]), '.' ∉ component := by
    intro component hmem
    rw [← List.cons_append, List.mem_append, List.mem_singleton] at hmem
    cases hmem with
    | inl hmem => exact hdots component hmem
    | inr heq => rwa [heq]
  have hbranch : branchDigits? reference.toList =
      some ((middle.findSome? branchComponent?).getD digits) := by
    rw [hpath, branchDigits?_dotted hall, List.findSome?_append, List.findSome?_singleton,
      branchComponent?_branch hne hdigits]
    cases middle.findSome? branchComponent? <;> rfl
  rw [branchKey?, href]
  simp only [hbranch, Option.map_some, foundName, branchName]

/-- A choice point whose reference ends in the name of a branch leads to the branch of that name
exactly if no component between the first and the last one begins with another branch's name; else
to the branch of the first such component. The walk goes into the array under the name in the
innermost enclosing array that has one, as part of a choice, and into none if no array has one. -/
theorem reference_leads :
    branchKey? members = some (foundName middle digits) ∧
    (foundName middle digits = branchName digits ↔
      ∀ other, middle.findSome? branchComponent? = some other → other = digits) ∧
    ∀ {ρ : Type} (keep : ρ → Meeting → ρ) (depth : Nat) (stack : List Place) (inChoice : Bool)
      (t : Tour ρ),
      (∀ branch, Nearest stack (foundName middle digits) branch →
        visitObject keep (walkArray keep depth stack true) stack inChoice members t =
          walkArray keep depth stack true branch
            (t.note keep (.choice (foundName middle digits) stack (some branch)))) ∧
      ((∀ place ∈ stack, ∀ v ∈ place.items, ¬ HasArray v (foundName middle digits)) →
        visitObject keep (walkArray keep depth stack true) stack inChoice members t =
          .ok (t.note keep (.choice (foundName middle digits) stack none))) := by
  have hkey := branchKey?_of_reference href hpath hdots hne hdigits
  refine ⟨hkey, ?_, ?_⟩
  · cases hmiddle : middle.findSome? branchComponent? with
    | none => simp [foundName, hmiddle]
    | some other => simp [foundName, hmiddle, branchName, String.ofList_inj]
  · intro ρ keep depth stack inChoice t
    constructor
    · intro branch hnearest
      simp only [visitObject, hkey, findBranch?_eq_some_iff.mpr hnearest]
    · intro hnone
      simp only [visitObject, hkey, findBranch?_eq_none_iff.mpr hnone]

end Reference

/-- An array of choices below another one that holds their branches. -/
def lowerPlace : Place := ⟨[.item 0], [.object [("*", .str ".^.^.c-1")]]⟩

def upperPlace : Place :=
  ⟨[], [.list lowerPlace.items, .object [("c-0", .list [.str "^Left"]), ("c-1", .list [])]]⟩

def namedPlace : Place := ⟨[.member 1 1], []⟩

theorem relative_reference_leads :
    branchKey? [("*", .str ".^.^.c-1")] = some "c-1" ∧
    ∀ t : Tour (List Meeting),
      visitObject tracing (walkArray tracing 2 [lowerPlace, upperPlace] true)
          [lowerPlace, upperPlace] false [("*", .str ".^.^.c-1")] t =
        walkArray tracing 2 [lowerPlace, upperPlace] true namedPlace
          (t.note tracing (.choice "c-1" [lowerPlace, upperPlace] (some namedPlace))) := by
  have href : OrderedMap.find? [("*", Value.str ".^.^.c-1")] "*" = some (.str ".^.^.c-1") := rfl
  have hpath : ".^.^.c-1".toList =
      dotted [] ([['^'], ['^']] ++ ['c' :: '-' :: ['1']]) := by decide
  have hdigits : ∀ d ∈ ['1'], Text.isDecimalDigit d = true :=
    List.forall_mem_singleton.mpr (by decide)
  obtain ⟨hkey, -, hvisit⟩ := reference_leads href hpath (by decide) (by decide) hdigits
  refine ⟨hkey, fun t => ?_⟩
  have hnearest : Nearest [lowerPlace, upperPlace] "c-1" namedPlace :=
    findBranch?_eq_some_iff.mp rfl
  exact (hvisit tracing 2 [lowerPlace, upperPlace] false t).1 namedPlace hnearest

/-- A choice in the branch of another choice, with a reference that goes through that branch. -/
def nestedBody : List Value :=
  [.str "^Pick", .object [("*", .str "A.0.c-0")],
    .object [("c-0", .list [.str "^Again", .object [("*", .str "A.0.c-0.c-1")],
      .object [("c-1", .list [.str "^Deep", .object [("->", .str "B")]])]])]]

def nestedBranch : Place :=
  ⟨[.member 2 0], [.str "^Again", .object [("*", .str "A.0.c-0.c-1")],
    .object [("c-1", .list [.str "^Deep", .object [("->", .str "B")]])]]⟩

/-- The inner choice leads back into the branch around it instead of the one it names. -/
theorem nestedBody_leads_back :
    findBranch? [nestedBranch, bodyPlace nestedBody] "c-1" =
      some ⟨[.member 2 0, .member 2 0], [.str "^Deep", .object [("->", .str "B")]]⟩ ∧
    branchKey? [("*", .str "A.0.c-0.c-1")] = some "c-0" ∧
    findBranch? [nestedBranch, bodyPlace nestedBody] "c-0" = some nestedBranch ∧
    (extract ["A", "B"] "A" nestedBody).cutOff = true := by
  have houter : branchKey? [("*", .str "A.0.c-0")] = some "c-0" := by decide
  have hinner : branchKey? [("*", .str "A.0.c-0.c-1")] = some "c-0" := by decide
  have hbody : nestedBody = ["^Pick"].map .str ++ .object [("*", .str "A.0.c-0")] :: _ := rfl
  have hbranch : nestedBranch.items =
      ["^Again"].map .str ++ .object [("*", .str "A.0.c-0.c-1")] :: _ := rfl
  have hcut : (extract ["A", "B"] "A" nestedBody).cutOff = true :=
    cutOff_of_loop hbody houter rfl hbranch hinner rfl _ _
  exact ⟨rfl, hinner, rfl, hcut⟩

end KnotAtlas.Story
