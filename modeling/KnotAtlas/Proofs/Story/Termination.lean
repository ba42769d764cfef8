import KnotAtlas.Proofs.Story.Nesting
import KnotAtlas.Proofs.Story.Survey

/-!
When a walk ends by itself. A walk in which no choice point leads back into an array that is being
walked goes along chains of arrays only. So its nesting has room in every limit that is not below
the number of arrays, and the limit makes no difference to what the walk meets.
-/

namespace KnotAtlas.Story

/-- Whether a choice point leads into an array that is being walked. -/
def Sighting.Reenters (s : Sighting) : Prop :=
  ∃ key stack branch, s.meeting = .choice key stack (some branch) ∧ branch ∈ s.stack

/-- What a walk comes to, whether it was completed or cut off. -/
def ending {α : Type} : Except α α → α
  | .ok a => a
  | .error a => a

theorem ending_eitherEnd {α β : Type} (f : α → β) (x : Except α α) :
    ending (eitherEnd f x) = f (ending x) := by
  cases x <;> rfl

/-- Two ways on from a tour. The first one adds to what was kept; and if the start is right and
nothing that it adds reenters, it is completed, no deeper than the body has arrays, and the second
way is the same. -/
def Settled (body : List Value) (start : Prop) (t : Survey) (x y : Except Survey Survey) : Prop :=
  ∃ more, (ending x).kept = t.kept ++ more ∧
    (start → (∀ s ∈ more, ¬ s.Reenters) →
      (∃ t', x = .ok t') ∧ y = x ∧ ∀ s ∈ more, s.stack.length ≤ arrayCount body)

namespace Settled

variable {body : List Value} {start : Prop} {t : Survey} {x y z : Except Survey Survey}

theorem here : Settled body start t (.ok t) (.ok t) := by
  refine ⟨[], (List.append_nil _).symm, fun _ _ => ⟨⟨t, rfl⟩, rfl, ?_⟩⟩
  intro s hs
  cases hs

theorem of_imp {start' : Prop} (himp : start → start') (h : Settled body start' t x y) :
    Settled body start t x y := by
  obtain ⟨more, hkept, hsame⟩ := h
  exact ⟨more, hkept, fun hstart => hsame (himp hstart)⟩

theorem of_not (hnot : ¬ start) (h : Settled body start t x z) : Settled body start t x y := by
  obtain ⟨more, hkept, -⟩ := h
  exact ⟨more, hkept, fun hstart => absurd hstart hnot⟩

theorem after {claimed : List Path} (s : Sighting)
    (hdepth : start → s.stack.length ≤ arrayCount body)
    (h : Settled body (start ∧ ¬ s.Reenters) ⟨t.kept ++ [s], claimed⟩ x y) :
    Settled body start t x y := by
  obtain ⟨more, hkept, hsame⟩ := h
  refine ⟨s :: more, hkept.trans (List.append_cons ..).symm, fun hstart hnone => ?_⟩
  rw [List.forall_mem_cons] at hnone ⊢
  obtain ⟨hok, heq, hmore⟩ := hsame ⟨hstart, hnone.1⟩ hnone.2
  exact ⟨hok, heq, hdepth hstart, hmore⟩

theorem bind {k l : Survey → Except Survey Survey} (h : Settled body start t x y)
    (hk : ∀ u, Settled body start u (k u) (l u)) : Settled body start t (x >>= k) (y >>= l) := by
  obtain ⟨more, hkept, hsame⟩ := h
  cases x with
  | error u =>
      refine ⟨more, hkept, fun hstart hnone => ?_⟩
      obtain ⟨⟨_, hok⟩, -, -⟩ := hsame hstart hnone
      cases hok
  | ok u =>
      obtain ⟨more', hkept', hsame'⟩ := hk u
      refine ⟨more ++ more', ?_, fun hstart hnone => ?_⟩
      · rw [← List.append_assoc]
        exact hkept'.trans (congrArg (· ++ more') hkept)
      · rw [List.forall_mem_append] at hnone ⊢
        obtain ⟨-, rfl, hdepth⟩ := hsame hstart hnone.1
        obtain ⟨hok, heq, hdepth'⟩ := hsame' hstart hnone.2
        exact ⟨hok, heq, hdepth, hdepth'⟩

theorem foldlM {γ : Type} {step step' : Survey → γ → Except Survey Survey} {cs : List γ}
    (h : ∀ c ∈ cs, ∀ t, Settled body start t (step t c) (step' t c)) :
    Settled body start t (cs.foldlM step t) (cs.foldlM step' t) := by
  induction cs generalizing t with
  | nil => exact here
  | cons c cs ih =>
      rw [List.foldlM_cons, List.foldlM_cons]
      exact (h c (.head cs) t).bind fun u => ih fun c hc => h c (.tail _ hc)

end Settled

section Walk

variable {body : List Value} {place : Place} {above : List Place}
  {descend descend' : Bool → Place → Leg (List Sighting)}
variable (hd : ∀ inChoice inner t, Settled body (Chain body (inner :: place :: above)) t
  (descend inChoice inner t) (descend' inChoice inner t))
include hd

theorem walkMember_settled {i : Nat} {inChoice : Bool} {members : List (String × Value)}
    (hi : place.items[i]? = some (.object members)) {entry : (String × Value) × Nat}
    (he : entry ∈ members.zipIdx) (t : Survey) :
    Settled body (Chain body (place :: above)) t
      (walkMember (descend inChoice) place.path i t entry)
      (walkMember (descend' inChoice) place.path i t entry) := by
  obtain ⟨⟨key, value⟩, j⟩ := entry
  cases value with
  | list xs =>
      simp only [walkMember]
      split
      · exact .here
      · have hj := List.mem_zipIdx_iff_getElem?.mp he
        exact (hd inChoice _ t).of_imp fun h => h.descend (.member hi hj)
  | null | bool _ | int _ | float _ | str _ | object _ => exact .here

theorem visitObject_settled (inChoice : Bool) (members : List (String × Value)) (t : Survey) :
    Settled body (Chain body (place :: above)) t
      (visitObject (sighting (place :: above)) (descend true) (place :: above) inChoice members t)
      (visitObject (sighting (place :: above)) (descend' true) (place :: above) inChoice members
        t) := by
  cases hk : branchKey? members with
  | some key =>
      cases hb : findBranch? (place :: above) key with
      | some branch =>
          simp only [visitObject, hk, hb]
          -- The branch is new on the chain because the choice point does not reenter.
          refine .after ⟨_, .choice key _ (some branch)⟩ Chain.length_le
            ((hd true branch _).of_imp ?_)
          rintro ⟨hchain, hnot⟩
          exact hchain.jump hb fun hmem => hnot ⟨key, _, branch, rfl, hmem⟩
      | none =>
          simp only [visitObject, hk, hb]
          exact .after ⟨_, .choice key _ none⟩ Chain.length_le .here
  | none =>
      cases hdivert : divertTarget? members with
      | some target =>
          simp only [visitObject, hk, hdivert]
          exact .after ⟨_, .divert target inChoice⟩ Chain.length_le .here
      | none =>
          simp only [visitObject, hk, hdivert]
          exact .here

theorem visitItem_settled (inChoice : Bool) {entry : Value × Nat}
    (he : entry ∈ place.items.zipIdx) (t : Survey) :
    Settled body (Chain body (place :: above)) t
      (visitItem (sighting (place :: above)) descend (place :: above) place.path inChoice t entry)
      (visitItem (sighting (place :: above)) descend' (place :: above) place.path inChoice t
        entry) := by
  obtain ⟨value, i⟩ := entry
  have hi := List.mem_zipIdx_iff_getElem?.mp he
  cases value with
  | list xs => exact (hd inChoice _ t).of_imp fun h => h.descend (.item hi)
  | str s =>
      simp only [visitItem]
      split
      · rename_i fragment _
        exact .after ⟨_, .text fragment⟩ Chain.length_le .here
      · exact .here
  | object members =>
      simp only [visitItem]
      refine (visitObject_settled hd inChoice members t).bind fun u => .foldlM ?_
      intro entry hentry u
      exact walkMember_settled hd hi hentry u
  | null | bool _ | int _ | float _ => exact .here

end Walk

/-- Where the nesting has room in two limits, a walk settles to the same in both. -/
theorem surveyArray_settled {body : List Value} (depth depth' : Nat) {above : List Place}
    (hroom : arrayCount body ≤ above.length + depth)
    (hroom' : arrayCount body ≤ above.length + depth') (inChoice : Bool) (place : Place)
    (t : Survey) :
    Settled body (Chain body (place :: above)) t (surveyArray depth above inChoice place t)
      (surveyArray depth' above inChoice place t) := by
  induction depth generalizing depth' above inChoice place t with
  | zero =>
      refine ⟨[], (List.append_nil _).symm, fun hchain _ => ?_⟩
      have hlength := hchain.room
      omega
  | succ depth ih =>
      -- The walk of the array, with arrays below it walked in two ways that settle.
      have hstep : ∀ depth', arrayCount body ≤ above.length + (depth' + 1) →
          Settled body (Chain body (place :: above)) t
            (surveyArray (depth + 1) above inChoice place t)
            (surveyArray (depth' + 1) above inChoice place t) := by
        intro depth' hroom'
        simp only [surveyArray]
        refine .after ⟨_, .enter place inChoice⟩ Chain.length_le (.of_imp And.left (.foldlM ?_))
        intro entry hentry u
        refine visitItem_settled (fun inChoice inner t => ?_) inChoice hentry u
        exact ih depth' (by rw [List.length_cons]; omega) (by rw [List.length_cons]; omega)
          inChoice inner t
      cases depth' with
      | zero =>
          -- No chain is that long; what the first way keeps is still needed.
          refine .of_not (fun hchain => ?_) (hstep depth hroom)
          have hlength := hchain.room
          omega
      | succ depth' => exact hstep depth' hroom'

/-- If no choice point of a walk leads into an array that is being walked, the walk is completed,
nested no deeper than the body has arrays, and the same in every limit that is not below their
number; so the knot is not passed over, with the same links and the same dangling diverts. -/
theorem walk_terminates {limit : Nat} {body : List Value} (hlimit : arrayCount body ≤ limit)
    (hnone : ∀ s ∈ ending (sightings limit body), ¬ s.Reenters) :
    ∃ ss, (∀ s ∈ ss, s.stack.length ≤ arrayCount body) ∧
      ∀ limit', arrayCount body ≤ limit' →
        sightings limit' body = .ok ss ∧
        ∀ known name, extractWithin limit' known name body =
          ⟨name, (Recording.ofMeetings known name (ss.map (·.meeting))).links,
            (Recording.ofMeetings known name (ss.map (·.meeting))).dangling, false⟩ := by
  have hrun : ∀ limit', arrayCount body ≤ limit' →
      sightings limit' body = .ok (ending (sightings limit body)) ∧
      ∀ s ∈ ending (sightings limit body), s.stack.length ≤ arrayCount body := by
    intro limit' hlimit'
    have hsettled : Settled body (Chain body [bodyPlace body]) ⟨[], []⟩
        (surveyArray limit [] false (bodyPlace body) ⟨[], []⟩)
        (surveyArray limit' [] false (bodyPlace body) ⟨[], []⟩) :=
      surveyArray_settled limit limit' (by simpa using hlimit) (by simpa using hlimit') ..
    obtain ⟨more, hkept, hsame⟩ := hsettled
    have hmore : ending (sightings limit body) = more := by
      rw [sightings, ending_eitherEnd, hkept, List.nil_append]
    rw [hmore] at hnone ⊢
    obtain ⟨⟨t, hok⟩, heq, hdepth⟩ := hsame .body hnone
    rw [hok] at hkept
    refine ⟨?_, hdepth⟩
    rw [sightings, heq, hok]
    exact congrArg Except.ok hkept
  refine ⟨ending (sightings limit body), (hrun limit hlimit).2, fun limit' hlimit' => ?_⟩
  obtain ⟨hss, -⟩ := hrun limit' hlimit'
  exact ⟨hss, extractWithin_of_completed (meetings_of_sightings hss)⟩

/-- Two choice points that lead to one branch. -/
def sharedBody : List Value :=
  [.object [("*", .str ".c-0")], .object [("*", .str ".c-0")],
    .object [("c-0", .list [.str "^Left", .object [("->", .str "B")]])]]

def sharedBranch : Place := ⟨[.member 2 0], [.str "^Left", .object [("->", .str "B")]]⟩

def sharedSightings : List Sighting :=
  let body := bodyPlace sharedBody
  let visit : List Sighting :=
    [⟨[body], .choice "c-0" [body] (some sharedBranch)⟩,
      ⟨[sharedBranch, body], .enter sharedBranch true⟩, ⟨[sharedBranch, body], .text "Left"⟩,
      ⟨[sharedBranch, body], .divert "B" true⟩]
  ⟨[body], .enter body false⟩ :: (visit ++ visit)

theorem sharedBody_terminates :
    sightings 2 sharedBody = .ok sharedSightings ∧ (∀ s ∈ sharedSightings, ¬ s.Reenters) ∧
    ∀ limit, 2 ≤ limit →
      extractWithin limit ["A", "B"] "A" sharedBody =
        ⟨"A", [⟨"A", "B", "Left", true⟩, ⟨"A", "B", "Left", true⟩], [], false⟩ := by
  have hss : sightings 2 sharedBody = .ok sharedSightings := rfl
  have hnone : ∀ s ∈ sharedSightings, ¬ s.Reenters := by
    intro s hs hreenters
    obtain ⟨key, stack, branch, hmeeting, hmem⟩ := hreenters
    have hs' : s = ⟨[bodyPlace sharedBody],
        .choice "c-0" [bodyPlace sharedBody] (some sharedBranch)⟩ := by
      simp only [sharedSightings, List.mem_cons, List.mem_append, List.not_mem_nil, or_false,
        or_self] at hs
      rcases hs with rfl | rfl | rfl | rfl | rfl
      · cases hmeeting
      · rfl
      all_goals cases hmeeting
    subst hs'
    cases hmeeting
    cases List.mem_singleton.mp hmem
  have hcount : arrayCount sharedBody ≤ 2 := by decide
  obtain ⟨ss, -, hall⟩ := walk_terminates hcount (by rwa [hss])
  refine ⟨hss, hnone, fun limit hlimit => ?_⟩
  have hsame : ss = sharedSightings := by
    have hsurvey := (hall 2 hcount).1
    rw [hss] at hsurvey
    exact (Except.ok.inj hsurvey).symm
  obtain ⟨-, hextract⟩ := hall limit (Nat.le_trans hcount hlimit)
  rw [hextract, hsame]
  rfl

end KnotAtlas.Story
