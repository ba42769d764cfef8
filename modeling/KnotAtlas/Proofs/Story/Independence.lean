import KnotAtlas.Proofs.Story.WellFormed
import Mathlib.Data.List.Nodup

/-!
Knots do not interfere. What is extracted of a knot depends on its own body and on which names are
known, and on nothing else in the document: not on the order of the knots, and not on the bodies of
the others, however their walks end.
-/

namespace KnotAtlas.Story

section Known

variable {known other : List String} (h : ∀ name, name ∈ known ↔ name ∈ other)
include h

end Known

theorem keys_bodies_sublist (named : OrderedMap String Value) :
    (bodies named).keys.Sublist named.keys := by
  induction named with
  | nil => exact .slnil
  | cons entry rest ih =>
      obtain ⟨name, value⟩ := entry
      cases value with
      | list items => exact ih.cons_cons name
      | null | bool _ | int _ | float _ | str _ | object _ => exact ih.cons name

theorem nodup_knots_build {source : Source} {built : Built} (hkeys : source.DistinctKeys)
    (hbuild : source.build.value = .ok built) : built.graph.knots.Nodup := by
  have hfaulty : ∀ {fault : Fault}, (buildFaulty fault).value = .ok built →
      built.graph.knots.Nodup := by
    rintro fault ⟨⟩
    exact List.nodup_nil
  rw [Source.build] at hbuild
  split at hbuild
  · rename_i document hload
    rw [buildDecoded] at hbuild
    split at hbuild
    · rename_i named hcontent
      rw [buildNamed] at hbuild
      split at hbuild
      · cases hbuild
      · cases hbuild
        have hnodup := nodup_keys_namedContent (load_distinctKeys hkeys hload) hcontent
        exact hnodup.sublist (keys_bodies_sublist named)
    · exact hfaulty hbuild
  · exact hfaulty hbuild
  · cases hbuild

section Own

variable {named : OrderedMap String Value} (hnodup : named.keys.Nodup) {knot : String}
  {body : List Value} (hbody : (knot, body) ∈ bodies named)
include hnodup hbody

end Own

section Loop

variable {ρ : Type} (keep : ρ → Meeting → ρ) {front : List String}
  {members : List (String × Value)} {rest : List Value} {key : String} {branch place : Place}

/-- Texts let a walk go on. -/
theorem exists_visitTexts (descend : Bool → Place → Leg ρ) (stack : List Place) (path : Path)
    (inChoice : Bool) (n : Nat) (t : Tour ρ) :
    ∃ t', ((front.map Value.str).zipIdx n).foldlM
      (visitItem keep descend stack path inChoice) t = .ok t' := by
  induction front generalizing n t with
  | nil => exact ⟨t, rfl⟩
  | cons s front ih =>
      have hfirst : ∃ t', visitItem keep descend stack path inChoice t (.str s, n) = .ok t' := by
        rw [visitItem]
        split
        · exact ⟨_, rfl⟩
        · exact ⟨_, rfl⟩
      obtain ⟨t', hfirst⟩ := hfirst
      obtain ⟨t'', hothers⟩ := ih (n + 1) t'
      refine ⟨t'', ?_⟩
      rw [List.map_cons, List.zipIdx_cons, List.foldlM_cons, hfirst]
      exact hothers

/-- A walk is cut off where a choice point, behind texts at most, leads into a branch in which it
is cut off. -/
theorem walkArray_cutOff {depth : Nat} {stack : List Place}
    (hitems : place.items = front.map .str ++ .object members :: rest)
    (hkey : branchKey? members = some key) (hfind : findBranch? (place :: stack) key = some branch)
    (hbranch : ∀ t, ∃ t', walkArray keep depth (place :: stack) true branch t = .error t')
    (inChoice : Bool) (t : Tour ρ) :
    ∃ t', walkArray keep (depth + 1) stack inChoice place t = .error t' := by
  rw [walkArray, hitems, List.zipIdx_append]
  dsimp only
  rw [List.foldlM_append]
  obtain ⟨before, hbefore⟩ := exists_visitTexts keep (walkArray keep depth (place :: stack))
    (place :: stack) place.path inChoice 0 (t.enter keep stack place inChoice)
  obtain ⟨t', ht'⟩ := hbranch (before.note keep (.choice key (place :: stack) (some branch)))
  have hchoice : visitItem keep (walkArray keep depth (place :: stack)) (place :: stack) place.path
      inChoice before (.object members, 0 + (front.map Value.str).length) = .error t' := by
    simp only [visitItem, visitObject, hkey, hfind, ht']
    rfl
  refine ⟨t', Except.bind_eq_error_iff.mpr (.inr ⟨before, hbefore, ?_⟩)⟩
  rw [List.zipIdx_cons, List.foldlM_cons]
  exact Except.bind_eq_error_iff.mpr (.inl hchoice)

/-- A branch with a choice point that leads back into it is walked to any depth. -/
theorem walkArray_loop (hitems : branch.items = front.map .str ++ .object members :: rest)
    (hkey : branchKey? members = some key) (hown : branchIn? branch key = none) (depth : Nat)
    {stack : List Place} (hfind : findBranch? stack key = some branch) (t : Tour ρ) :
    ∃ t', walkArray keep depth stack true branch t = .error t' := by
  induction depth generalizing stack t with
  | zero => exact ⟨t, rfl⟩
  | succ depth ih =>
      have hagain : findBranch? (branch :: stack) key = some branch := by
        rw [findBranch?, List.findSome?_cons, hown]
        exact hfind
      exact walkArray_cutOff keep hitems hkey hagain (ih hagain) true t

/-- A knot is cut off if a choice point of it leads into a branch that leads back into itself. -/
theorem cutOff_of_loop {body : List Value} {frontOfBranch : List String}
    {inner : List (String × Value)} {restOfBranch : List Value}
    (hbody : body = front.map .str ++ .object members :: rest)
    (hkey : branchKey? members = some key)
    (hfind : findBranch? [bodyPlace body] key = some branch)
    (hitems : branch.items = frontOfBranch.map .str ++ .object inner :: restOfBranch)
    (hinner : branchKey? inner = some key) (hown : branchIn? branch key = none)
    (known : List String) (name : String) :
    (extract known name body).cutOff = true := by
  have hwalk : ∃ t, walkArray (Recording.meet known name) (999 + 1) [] false (bodyPlace body)
      ⟨{}, []⟩ = .error t :=
    walkArray_cutOff _ hbody hkey hfind (walkArray_loop _ hitems hinner hown 999 hfind) false _
  obtain ⟨t, ht⟩ := hwalk
  rw [extract, extractWithin, walkBody, walkLimit, ht]

end Loop

/-- A choice whose branch makes the same choice again. -/
def endlessBody : List Value :=
  [.object [("*", .str ".c-0")], .object [("c-0", .list [.object [("*", .str ".c-0")]])]]

def twoKnots (one : String) (ones : List Value) (two : String) (twos : List Value) : Value :=
  .object [("root", .list [.object [(one, .list ones), (two, .list twos)]])]

section

variable {one two : String} (hone : isKnotKey one = true) (htwo : isKnotKey two = true)
  (ones twos : List Value)
include hone htwo

end

end KnotAtlas.Story
