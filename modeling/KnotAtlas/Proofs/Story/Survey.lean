import KnotAtlas.Proofs.Story.Places

/-!
The walk told with the arrays in which its meetings happen. A survey is the same walk; it keeps with
each meeting the arrays that are being walked. What a completed survey does is put together from few
kinds of steps, and what every step keeps, the survey keeps.
-/

namespace KnotAtlas.Story

/-- A meeting with the arrays that are walked at that time, the innermost first. An array that is
entered is walked already. -/
structure Sighting where
  stack : List Place
  meeting : Meeting

/-- A walk that keeps sightings. -/
abbrev Survey := Tour (List Sighting)

abbrev sighting (stack : List Place) : List Sighting → Meeting → List Sighting :=
  fun seen m => seen ++ [⟨stack, m⟩]

/-- Walks an array below the arrays `above`, as `walkArray` does. -/
def surveyArray : (depth : Nat) → (above : List Place) → (inChoice : Bool) → Place →
    Leg (List Sighting)
  | 0, _, _, _ => fun t => .error t
  | depth + 1, above, inChoice, place => fun t =>
    place.items.zipIdx.foldlM
      (visitItem (sighting (place :: above)) (surveyArray depth (place :: above)) (place :: above)
        place.path inChoice)
      (t.enter (sighting (place :: above)) above place inChoice)

theorem surveyArray_meetings (depth : Nat) (above : List Place) (inChoice : Bool) (place : Place) :
    Follows (List.map Sighting.meeting) (surveyArray depth above inChoice place)
      (walkArray tracing depth above inChoice place) := by
  induction depth generalizing above inChoice place with
  | zero => intro t; rfl
  | succ depth ih =>
      intro t
      have hmeeting : ∀ (seen : List Sighting) (m : Meeting),
          tracing (seen.map (·.meeting)) m =
            (sighting (place :: above) seen m).map (·.meeting) := by
        intro seen m
        rw [List.map_append, List.map_singleton]
      simp only [walkArray, surveyArray]
      rw [Tour.enter_map hmeeting]
      exact foldlM_eitherEnd
        (visitItem_map hmeeting (ih (place :: above)) (place :: above) place.path inChoice) _ _

/-- What a walk through a body meets, in order, with the arrays that are walked each time. -/
def sightings (limit : Nat) (body : List Value) : Except (List Sighting) (List Sighting) :=
  eitherEnd (·.kept) (surveyArray limit [] false (bodyPlace body) ⟨[], []⟩)

theorem meetings_eq_sightings (limit : Nat) (body : List Value) :
    meetings limit body = eitherEnd (List.map (·.meeting)) (sightings limit body) := by
  have h := surveyArray_meetings limit [] false (bodyPlace body) ⟨[], []⟩
  change walkBody tracing [] limit body = _ at h
  rw [meetings, h, sightings]
  cases surveyArray limit [] false (bodyPlace body) ⟨[], []⟩ <;> rfl

theorem meetings_of_sightings {limit : Nat} {body : List Value} {ss : List Sighting}
    (h : sightings limit body = .ok ss) : meetings limit body = .ok (ss.map (·.meeting)) := by
  rw [meetings_eq_sightings, h]
  rfl

/-- How a walk comes from an array to another one: down to an item, down to a member that is not
claimed, or by way of a choice point to its branch. -/
inductive Opens (place : Place) (above : List Place) (inChoice : Bool) (t : Survey) :
    Place → Bool → Survey → Prop
  | item {i : Nat} {xs : List Value} :
      place.items[i]? = some (.list xs) →
      Opens place above inChoice t ⟨.item i :: place.path, xs⟩ inChoice t
  | member {i j : Nat} {members : List (String × Value)} {key : String} {xs : List Value} :
      place.items[i]? = some (.object members) → members[j]? = some (key, .list xs) →
      .member i j :: place.path ∉ t.claimed →
      Opens place above inChoice t ⟨.member i j :: place.path, xs⟩ inChoice t
  | branch {members : List (String × Value)} {key : String} {branch : Place} :
      .object members ∈ place.items → branchKey? members = some key →
      findBranch? (place :: above) key = some branch →
      Opens place above inChoice t branch true
        (t.note (sighting (place :: above)) (.choice key (place :: above) (some branch)))

/-- What happens, step by step, while an array is walked below others. -/
inductive Proceeds : Place → List Place → Bool → Survey → Survey → Prop
  | here {place : Place} {above : List Place} {inChoice : Bool} {t : Survey} :
      Proceeds place above inChoice t t
  | text {place : Place} {above : List Place} {inChoice : Bool} {t u : Survey} (fragment : String) :
      Proceeds place above inChoice t u →
      Proceeds place above inChoice t (u.note (sighting (place :: above)) (.text fragment))
  | divert {place : Place} {above : List Place} {inChoice : Bool} {t u : Survey}
      {members : List (String × Value)} {target : String} :
      Proceeds place above inChoice t u → .object members ∈ place.items →
      divertTarget? members = some target →
      Proceeds place above inChoice t (u.note (sighting (place :: above)) (.divert target inChoice))
  | unresolved {place : Place} {above : List Place} {inChoice : Bool} {t u : Survey}
      (key : String) :
      Proceeds place above inChoice t u →
      Proceeds place above inChoice t
        (u.note (sighting (place :: above)) (.choice key (place :: above) none))
  | array {place inner : Place} {above : List Place} {inChoice inside : Bool}
      {t u v w : Survey} :
      Proceeds place above inChoice t u → Opens place above inChoice u inner inside v →
      Proceeds inner (place :: above) inside
        (v.enter (sighting (inner :: place :: above)) (place :: above) inner inside) w →
      Proceeds place above inChoice t w

theorem Proceeds.trans {place : Place} {above : List Place} {inChoice : Bool} {t u v : Survey}
    (h : Proceeds place above inChoice t u) (k : Proceeds place above inChoice u v) :
    Proceeds place above inChoice t v := by
  induction k with
  | here => exact h
  | text fragment _ ih => exact .text fragment (ih h)
  | divert _ hm ht ih => exact .divert (ih h) hm ht
  | unresolved key _ ih => exact .unresolved key (ih h)
  | array _ hopens hinner ih _ => exact .array (ih h) hopens hinner

section Completed

variable {place : Place} {above : List Place} {inChoice : Bool}

/-- A leg that walks arrays below `stack`, step by step. -/
def Walks (descend : Bool → Place → Leg (List Sighting)) (stack : List Place) : Prop :=
  ∀ inChoice inner t t', descend inChoice inner t = .ok t' →
    Proceeds inner stack inChoice (t.enter (sighting (inner :: stack)) stack inner inChoice) t'

variable {descend : Bool → Place → Leg (List Sighting)} (hd : Walks descend (place :: above))
include hd

theorem walkMember_proceeds {i : Nat} {members : List (String × Value)}
    (hi : place.items[i]? = some (.object members)) {entry : (String × Value) × Nat}
    (he : entry ∈ members.zipIdx) {t t' : Survey}
    (h : walkMember (descend inChoice) place.path i t entry = .ok t') :
    Proceeds place above inChoice t t' := by
  obtain ⟨⟨key, value⟩, j⟩ := entry
  cases value with
  | list xs =>
      simp only [walkMember] at h
      split at h
      · cases h
        exact .here
      · rename_i hclaimed
        have hj := List.mem_zipIdx_iff_getElem?.mp he
        exact .array .here (.member hi hj hclaimed) (hd inChoice _ t t' h)
  | null | bool _ | int _ | float _ | str _ | object _ =>
      cases h
      exact .here

theorem visitObject_proceeds {members : List (String × Value)}
    (hm : .object members ∈ place.items) {t t' : Survey}
    (h : visitObject (sighting (place :: above)) (descend true) (place :: above) inChoice members
      t = .ok t') :
    Proceeds place above inChoice t t' := by
  rw [visitObject] at h
  cases hk : branchKey? members with
  | some key =>
      cases hb : findBranch? (place :: above) key with
      | some branch =>
          simp only [hk, hb] at h
          exact .array .here (.branch hm hk hb) (hd true branch _ t' h)
      | none =>
          simp only [hk, hb] at h
          cases h
          exact .unresolved key .here
  | none =>
      cases ht : divertTarget? members with
      | some target =>
          simp only [hk, ht] at h
          cases h
          exact .divert .here hm ht
      | none =>
          simp only [hk, ht] at h
          cases h
          exact .here

theorem visitItem_proceeds {entry : Value × Nat} (he : entry ∈ place.items.zipIdx) {t t' : Survey}
    (h : visitItem (sighting (place :: above)) descend (place :: above) place.path inChoice t
      entry = .ok t') :
    Proceeds place above inChoice t t' := by
  obtain ⟨value, i⟩ := entry
  have hi := List.mem_zipIdx_iff_getElem?.mp he
  cases value with
  | list xs => exact .array .here (.item hi) (hd inChoice _ t t' h)
  | str s =>
      simp only [visitItem] at h
      split at h
      · cases h
        exact .text _ .here
      · cases h
        exact .here
  | object members =>
      simp only [visitItem] at h
      cases hv : visitObject (sighting (place :: above)) (descend true) (place :: above) inChoice
        members t with
      | error e => simp [hv, bind, Except.bind] at h
      | ok u =>
          rw [hv] at h
          have hobject := visitObject_proceeds hd (List.mem_of_getElem? hi) hv
          have hmembers : Proceeds place above inChoice u t' :=
            foldlM_related (fun _ => .here) Proceeds.trans
              (fun _ he _ _ hstep => walkMember_proceeds hd hi he hstep) h
          exact hobject.trans hmembers
  | null | bool _ | int _ | float _ =>
      cases h
      exact .here

end Completed

theorem surveyArray_walks (depth : Nat) (above : List Place) :
    Walks (surveyArray depth above) above := by
  induction depth generalizing above with
  | zero =>
      intro inChoice place t t' h
      cases h
  | succ depth ih =>
      intro inChoice place t t' h
      simp only [surveyArray] at h
      exact foldlM_related (fun _ => .here) Proceeds.trans
        (fun _ he _ _ hstep => visitItem_proceeds (ih (place :: above)) he hstep) h

end KnotAtlas.Story
