import KnotAtlas.Proofs.Story.Coverage

/-!
No transition of a knot is lost. A completed walk enters every array of the body: those inside a
branch that a choice point led to as parts of a choice, the others as parts of the main line. So a
plain divert to a known knot gives a link in a choice, or the main line has its link.
-/

namespace KnotAtlas.Story

/-- Whether a choice point that was met led to `branch`. -/
def Resolved (ms : List Meeting) (branch : Place) : Prop :=
  ∃ key stack, .choice key stack (some branch) ∈ ms

/-- Whether an array lies in a branch that a choice point led to, at any depth. -/
def InBranch (ms : List Meeting) (place : Place) : Prop :=
  ∃ branch, Resolved ms branch ∧ Inside branch place

/-- A divert that is no choice point and does not depend on a variable. -/
structure PlainDivert (members : List (String × Value)) (target : String) : Prop where
  target_eq : OrderedMap.find? members "->" = some (.str target)
  variable_falsy : ((OrderedMap.find? members "var").getD .null).isTruthy = false
  no_choice : branchKey? members = none

theorem PlainDivert.divertTarget?_eq {members : List (String × Value)} {target : String}
    (h : PlainDivert members target) : divertTarget? members = some target := by
  simp [divertTarget?, h.target_eq, h.variable_falsy]

/-- What holds when a walk through a whole body is completed. -/
structure Completed (body : List Value) (ms : List Meeting) (claimed : List Path) : Prop where
  starts : .enter (bodyPlace body) false ∈ ms
  placed : ∀ m ∈ ms, m.Placed (bodyPlace body)
  settled : ∀ debt, ¬ Owes ⟨ms, claimed⟩ debt

theorem completed_of_meetings {limit : Nat} {body : List Value} {ms : List Meeting}
    (h : meetings limit body = .ok ms) : ∃ claimed, Completed body ms claimed := by
  obtain ⟨t, ht, rfl⟩ := eitherEnd_eq_ok h
  obtain ⟨hp, hstart⟩ := walkArray_covers limit [] false (bodyPlace body) _ t ht
  refine ⟨t.claimed, hstart, ?_, ?_⟩
  · have hplaces : Places (bodyPlace body) (walkArray tracing limit [] false (bodyPlace body)) :=
      walkArray_places limit (fun _ h => absurd h List.not_mem_nil) .here
    exact hplaces _ t ht fun _ h => absurd h List.not_mem_nil
  · intro debt hd
    cases debt with
    | reach path => exact List.not_mem_nil (hp.debts _ hd).1
    | follow branch =>
        obtain ⟨⟨_, _, hc⟩, -⟩ := hp.debts _ hd
        exact List.not_mem_nil hc
    | explore place inChoice => exact List.not_mem_nil (hp.debts _ hd).1

namespace Completed

variable {body : List Value} {ms : List Meeting} {claimed : List Path}

theorem explored (h : Completed body ms claimed) {place : Place} {inChoice : Bool}
    (he : .enter place inChoice ∈ ms) : Explored place inChoice ⟨ms, claimed⟩ := by
  by_contra hx
  exact h.settled (.explore place inChoice) ⟨he, hx⟩

theorem followed (h : Completed body ms claimed) {branch : Place} (hb : Resolved ms branch) :
    .enter branch true ∈ ms := by
  by_contra he
  exact h.settled (.follow branch) ⟨hb, he⟩

/-- What was claimed was claimed by a choice point that was met in the end. -/
theorem resolved_of_claimed (h : Completed body ms claimed) {place : Place}
    (hp : Inside (bodyPlace body) place) (hc : place.path ∈ claimed) : Resolved ms place := by
  by_contra hr
  apply h.settled (.reach place.path)
  refine ⟨hc, ?_⟩
  intro key stack branch hm hpath
  have hb : Inside (bodyPlace body) branch := (h.placed _ hm).branch_inside
  cases hb.eq_of_path_eq hp hpath
  exact hr ⟨key, stack, hm⟩

/-- Everything inside an array that was entered in a choice was. -/
theorem enter_choice (h : Completed body ms claimed) {outer place : Place}
    (ho : Inside (bodyPlace body) outer) (he : .enter outer true ∈ ms)
    (hp : Inside outer place) : .enter place true ∈ ms := by
  induction hp with
  | here => exact he
  | item _ hi ih => exact (h.explored ih).items _ _ hi
  | member hq hi hj ih =>
      cases (h.explored ih).members _ _ _ _ _ hi hj with
      | inl hm => exact hm
      | inr hc => exact h.followed (h.resolved_of_claimed (ho.trans (.member hq hi hj)) hc)

/-- Everything outside the branches was entered in the main line. -/
theorem enter_main (h : Completed body ms claimed) {place : Place}
    (hp : Inside (bodyPlace body) place) (hout : ¬ InBranch ms place) :
    .enter place false ∈ ms := by
  induction hp with
  | here => exact h.starts
  | @item p i xs hq hi ih =>
      have hparent : .enter p false ∈ ms := by
        apply ih
        rintro ⟨branch, hb, hin⟩
        exact hout ⟨branch, hb, .item hin hi⟩
      exact (h.explored hparent).items _ _ hi
  | @member p i j members key xs hq hi hj ih =>
      have hparent : .enter p false ∈ ms := by
        apply ih
        rintro ⟨branch, hb, hin⟩
        exact hout ⟨branch, hb, .member hin hi hj⟩
      cases (h.explored hparent).members _ _ _ _ _ hi hj with
      | inl hm => exact hm
      | inr hc =>
          exact absurd ⟨_, h.resolved_of_claimed (.member hq hi hj) hc, .here⟩ hout

theorem enter_inBranch (h : Completed body ms claimed) {place : Place} (hin : InBranch ms place) :
    .enter place true ∈ ms := by
  obtain ⟨branch, hb, hplace⟩ := hin
  obtain ⟨key, stack, hm⟩ := hb
  have hbranch : Inside (bodyPlace body) branch := (h.placed _ hm).branch_inside
  exact h.enter_choice hbranch (h.followed ⟨key, stack, hm⟩) hplace

theorem divert_met (h : Completed body ms claimed) {place : Place} {inChoice : Bool}
    {members : List (String × Value)} {target : String} (he : .enter place inChoice ∈ ms)
    (hm : .object members ∈ place.items) (hd : PlainDivert members target) :
    .divert target inChoice ∈ events ms :=
  List.mem_filterMap.mpr
    ⟨_, (h.explored he).diverts members target hm hd.no_choice hd.divertTarget?_eq, rfl⟩

end Completed

namespace Event

variable {known : List String} {target : String} {es : List Event}

theorem mem_withPast {e : Event} (h : e ∈ es) : ∃ past, (past, e) ∈ withPast es := by
  obtain ⟨i, hi⟩ := List.mem_iff_getElem?.mp h
  have hz : (e, i) ∈ es.zipIdx := List.mem_zipIdx_iff_getElem?.mpr hi
  exact ⟨es.take i, List.mem_map.mpr ⟨(e, i), hz, rfl⟩⟩

/-- A divert in a choice to a known knot always gives a link. -/
theorem exists_choice_link (source : String) (hk : target ∈ known)
    (h : .divert target true ∈ es) :
    ∃ l ∈ links known source es, l.source = source ∧ l.target = target ∧ l.isChoice = true := by
  obtain ⟨past, hpast⟩ := mem_withPast h
  have hl : link? known source past (.divert target true) =
      some ⟨source, target, labelAfter past, true⟩ := by simp [link?, hk]
  exact ⟨_, List.mem_filterMap.mpr ⟨_, hpast, hl⟩, rfl, rfl, rfl⟩

/-- A divert outside choices to a known knot gives the main line its one link. -/
theorem mainLine_length (source : String) (hk : target ∈ known)
    (h : .divert target false ∈ es) :
    ((links known source es).filter (!·.isChoice)).length = 1 := by
  have hm : target ∈ mainTargets known es :=
    List.mem_filterMap.mpr ⟨_, h, by simp [mainTarget?, hk]⟩
  have hlen := congrArg List.length (mainLine_links known source es)
  rw [List.length_map] at hlen
  rw [hlen]
  cases ht : mainTargets known es with
  | nil =>
      rw [ht] at hm
      cases hm
  | cons first rest => rfl

end Event

/-- Every array of a body is walked, those that choice points claimed included. A plain divert to a
known knot gives a choice link if it lies in a branch that a choice point led to, whatever other
links there are; if it lies outside all of them, the knot has exactly one link that is no choice. -/
theorem no_transition_lost {limit : Nat} {body : List Value} {ms : List Meeting}
    (h : meetings limit body = .ok ms) (known : List String) (name : String) :
    let x := extractWithin limit known name body
    (∀ place, Inside (bodyPlace body) place → ∃ inChoice, .enter place inChoice ∈ ms) ∧
    ∀ place members target, Inside (bodyPlace body) place → .object members ∈ place.items →
      PlainDivert members target → target ∈ known →
      (InBranch ms place →
        ∃ l ∈ x.links, l.source = name ∧ l.target = target ∧ l.isChoice = true) ∧
      (¬ InBranch ms place → (x.links.filter (!·.isChoice)).length = 1) := by
  intro x
  have hx : x.links = Event.links known name (events ms) := by
    have he : x = _ := extractWithin_of_completed h known name
    rw [he]
    exact (Recording.sums_events known name ms).links_eq
  obtain ⟨claimed, hc⟩ := completed_of_meetings h
  refine ⟨?_, ?_⟩
  · intro place hp
    by_cases hin : InBranch ms place
    · exact ⟨true, hc.enter_inBranch hin⟩
    · exact ⟨false, hc.enter_main hp hin⟩
  · intro place members target hp hm hd hk
    rw [hx]
    refine ⟨?_, ?_⟩
    · intro hin
      exact Event.exists_choice_link name hk (hc.divert_met (hc.enter_inBranch hin) hm hd)
    · intro hout
      exact Event.mainLine_length name hk (hc.divert_met (hc.enter_main hp hout) hm hd)

/-- A body that diverts to one knot in the main line and to another in a branch. -/
def forkBody : List Value :=
  [.object [("->", .str "B")], .object [("*", .str ".^.c-0")],
    .object [("c-0", .list [.object [("->", .str "C")]])]]

def forkBranch : Place := ⟨[.member 2 0], [.object [("->", .str "C")]]⟩

def forkMeetings : List Meeting :=
  [.enter (bodyPlace forkBody) false, .divert "B" false,
    .choice "c-0" [bodyPlace forkBody] (some forkBranch), .enter forkBranch true, .divert "C" true]

theorem forkBody_transitions :
    meetings 3 forkBody = .ok forkMeetings ∧ InBranch forkMeetings forkBranch ∧
    ¬ InBranch forkMeetings (bodyPlace forkBody) ∧
    (∃ l ∈ (extractWithin 3 ["B", "C"] "A" forkBody).links,
      l.source = "A" ∧ l.target = "C" ∧ l.isChoice = true) ∧
    ((extractWithin 3 ["B", "C"] "A" forkBody).links.filter (!·.isChoice)).length = 1 := by
  have hms : meetings 3 forkBody = .ok forkMeetings := rfl
  obtain ⟨-, hdiverts⟩ := no_transition_lost hms ["B", "C"] "A"
  have hin : InBranch forkMeetings forkBranch :=
    ⟨forkBranch, ⟨"c-0", [bodyPlace forkBody], .tail _ (.tail _ (.head _))⟩, .here⟩
  have hout : ¬ InBranch forkMeetings (bodyPlace forkBody) := by
    rintro ⟨branch, ⟨key, stack, hm⟩, hbody⟩
    simp [forkMeetings] at hm
    obtain ⟨-, -, rfl⟩ := hm
    change Inside forkBranch ⟨[], forkBody⟩ at hbody
    cases hbody
  have hbranch : Inside (bodyPlace forkBody) forkBranch := .member (i := 2) .here rfl rfl
  refine ⟨hms, hin, hout, ?_, ?_⟩
  · exact (hdiverts forkBranch _ "C" hbranch (.head _) ⟨rfl, rfl, rfl⟩ (by decide)).1 hin
  · exact (hdiverts _ _ "B" .here (.head _) ⟨rfl, rfl, rfl⟩ (by decide)).2 hout

end KnotAtlas.Story
