import KnotAtlas.Proofs.Story.Survey
import KnotAtlas.Proofs.Story.Transitions
import Mathlib.Data.List.Basic

/-!
How choice branches are walked. An array that has a choice point for a branch announces the branch
when it is entered. An announced branch is entered as part of a choice only, and with it all that
lies inside; but where the walk comes to the object that holds a branch before an array announces
it, the branch is first walked as part of the main line.
-/

namespace KnotAtlas.Story

/-- The places of the branches that an array announces when it is entered. -/
def Sighting.announced : Sighting → List Path
  | ⟨stack, .enter place _⟩ => claims stack place.items
  | ⟨_, .choice _ _ _⟩ | ⟨_, .text _⟩ | ⟨_, .divert _ _⟩ => []

/-- Whether an array is entered in the main line. -/
def Sighting.Plain (s : Sighting) (place : Place) : Prop :=
  s.meeting = .enter place false

/-- What a sighting rests on among the earlier ones. The array in which it happens was entered, and
an array that is entered in the main line lies in one that was. -/
def Sighting.Rests (body : List Value) (earlier : List Sighting) : Sighting → Prop
  | ⟨stack, .enter place inChoice⟩ =>
      inChoice = false → place = bodyPlace body ∨
        ∃ outer above step, stack = place :: outer :: above ∧ place.path = step :: outer.path ∧
          ⟨outer :: above, .enter outer false⟩ ∈ earlier
  | ⟨stack, .divert target inChoice⟩ =>
      ∃ place above members, stack = place :: above ∧ .object members ∈ place.items ∧
        divertTarget? members = some target ∧ ⟨stack, .enter place inChoice⟩ ∈ earlier
  | ⟨stack, .choice key _ (some branch)⟩ =>
      ∃ place above members inChoice, stack = place :: above ∧ .object members ∈ place.items ∧
        branchKey? members = some key ∧ findBranch? stack key = some branch ∧
        ⟨stack, .enter place inChoice⟩ ∈ earlier
  | ⟨_, .choice _ _ none⟩ | ⟨_, .text _⟩ => True

/-- Whether an earlier sighting lets a later one happen: an announced branch is not entered in the
main line. -/
def Sighting.Lets (s later : Sighting) : Prop :=
  ∀ place, later.Plain place → place.path ∉ s.announced

/-- What a survey under way knows of its sightings. -/
structure Sound (body : List Value) (t : Survey) : Prop where
  inside : ∀ s ∈ t.kept, ∀ place ∈ s.stack, Inside (bodyPlace body) place
  rests : ∀ before s after, t.kept = before ++ s :: after → s.Rests body before
  claimed : ∀ path, path ∈ t.claimed ↔ ∃ s ∈ t.kept, path ∈ s.announced
  lets : t.kept.Pairwise Sighting.Lets

theorem path_of_branchIn? {place branch : Place} {key : String}
    (h : branchIn? place key = some branch) : ∃ i j, branch.path = .member i j :: place.path := by
  obtain ⟨i, j, -, -, -, hpath⟩ := branchIn?_eq_some h
  exact ⟨i, j, hpath⟩

theorem claims_of_choice {stack : List Place} {items : List Value}
    {members : List (String × Value)} {key : String} {branch : Place}
    (hm : .object members ∈ items) (hk : branchKey? members = some key)
    (hb : findBranch? stack key = some branch) : branch.path ∈ claims stack items :=
  List.mem_filterMap.mpr ⟨_, hm, by simp [hk, hb]⟩

/-- One more sighting is the last one or leaves the place of another as it was. -/
theorem split_concat {α : Type} {xs before after : List α} {x y : α}
    (h : xs ++ [x] = before ++ y :: after) :
    before = xs ∧ y = x ∨ ∃ after', xs = before ++ y :: after' := by
  rcases List.eq_nil_or_concat' after with rfl | ⟨after', z, rfl⟩
  · obtain ⟨hxs, hx⟩ := List.append_inj' h rfl
    exact .inl ⟨hxs.symm, (List.singleton_inj.mp hx).symm⟩
  · rw [← List.cons_append, ← List.append_assoc] at h
    exact .inr ⟨after', (List.append_inj' h rfl).1⟩

namespace Sound

variable {body : List Value} {place : Place} {above : List Place} {inChoice : Bool} {t u : Survey}

theorem concat (h : Sound body t) {s : Sighting} {claimed : List Path}
    (hinside : ∀ place ∈ s.stack, Inside (bodyPlace body) place) (hrests : s.Rests body t.kept)
    (hclaimed : claimed = s.announced ++ t.claimed)
    (hlets : ∀ place, s.Plain place → place.path ∉ t.claimed) :
    Sound body ⟨t.kept ++ [s], claimed⟩ where
  inside s' hs' := by
    rcases List.mem_append.mp hs' with hold | hnew
    · exact h.inside s' hold
    · cases List.mem_singleton.mp hnew
      exact hinside
  rests before s' after hsplit := by
    rcases split_concat hsplit with ⟨rfl, rfl⟩ | ⟨after', hold⟩
    · exact hrests
    · exact h.rests before s' after' hold
  claimed path := by
    rw [hclaimed, List.mem_append, h.claimed]
    constructor
    · rintro (hnew | ⟨s', hs', hpath⟩)
      · exact ⟨s, List.mem_append_right _ (.head []), hnew⟩
      · exact ⟨s', List.mem_append_left _ hs', hpath⟩
    · rintro ⟨s', hs', hpath⟩
      rcases List.mem_append.mp hs' with hold | hnew
      · exact .inr ⟨s', hold, hpath⟩
      · cases List.mem_singleton.mp hnew
        exact .inl hpath
  lets := by
    refine List.pairwise_append.mpr ⟨h.lets, List.pairwise_singleton _ s, ?_⟩
    intro earlier hearlier s' hs' place hplain hannounced
    cases List.mem_singleton.mp hs'
    exact hlets place hplain ((h.claimed _).mpr ⟨earlier, hearlier, hannounced⟩)

/-- Only members are announced, never items. -/
theorem item_not_claimed (h : Sound body t) (i : Nat) (path : Path) :
    Step.item i :: path ∉ t.claimed := by
  intro hmem
  obtain ⟨⟨stack, meeting⟩, -, hannounced⟩ := (h.claimed _).mp hmem
  cases meeting with
  | enter _ _ =>
      obtain ⟨-, -, key, branch, -, -, hb, hpath⟩ := mem_claims hannounced
      obtain ⟨holder, -, hholder⟩ := List.exists_of_findSome?_eq_some hb
      obtain ⟨_, _, hmember⟩ := path_of_branchIn? hholder
      rw [hmember] at hpath
      cases hpath
  | choice _ _ _ | text _ | divert _ _ => cases hannounced

theorem start (body : List Value) :
    Sound body
      ((⟨[], []⟩ : Survey).enter (sighting [bodyPlace body]) [] (bodyPlace body) false) := by
  have hempty : Sound body ⟨[], []⟩ :=
    ⟨fun _ h => absurd h List.not_mem_nil, fun _ _ _ h => absurd h.symm (by simp), by simp, .nil⟩
  refine hempty.concat ?_ (fun _ => .inl rfl) rfl fun _ _ => List.not_mem_nil
  intro place hplace
  cases List.mem_singleton.mp hplace
  exact .here

variable (hstack : ∀ p ∈ place :: above, Inside (bodyPlace body) p)
include hstack

theorem note (h : Sound body t) {m : Meeting} (hm : ∀ place inChoice, m ≠ .enter place inChoice)
    (hrests : Sighting.Rests body t.kept ⟨place :: above, m⟩) :
    Sound body (t.note (sighting (place :: above)) m) := by
  refine h.concat hstack hrests ?_ ?_
  · cases m with
    | enter inner inside => exact absurd rfl (hm inner inside)
    | choice _ _ _ | text _ | divert _ _ => rfl
  · intro inner hplain
    exact absurd hplain (hm inner false)

variable (hentered : ⟨place :: above, .enter place inChoice⟩ ∈ t.kept)
include hentered

theorem opens (h : Sound body t) {inner : Place} {inside : Bool} {v : Survey}
    (hopens : Opens place above inChoice t inner inside v) :
    (∀ s ∈ t.kept, s ∈ v.kept) ∧ (∀ p ∈ inner :: place :: above, Inside (bodyPlace body) p) ∧
      Sound body (v.enter (sighting (inner :: place :: above)) (place :: above) inner inside) := by
  have houter : Inside (bodyPlace body) place := hstack place (.head above)
  have hinner : Inside (bodyPlace body) inner := by
    cases hopens with
    | item hi => exact .item houter hi
    | member hi hj _ => exact .member houter hi hj
    | branch _ _ hb =>
        obtain ⟨p, hp, hbranch⟩ := findBranch?_inside hb
        exact (hstack p hp).trans hbranch
  have hstack' : ∀ p ∈ inner :: place :: above, Inside (bodyPlace body) p := by
    intro p hp
    cases hp with
    | head => exact hinner
    | tail _ hp => exact hstack p hp
  cases hopens with
  | item hi =>
      refine ⟨fun _ hs => hs, hstack', h.concat hstack' ?_ rfl ?_⟩
      · rintro rfl
        exact .inr ⟨place, above, _, rfl, rfl, hentered⟩
      · intro p hplain
        cases hplain
        exact h.item_not_claimed _ _
  | member hi hj hclaimed =>
      refine ⟨fun _ hs => hs, hstack', h.concat hstack' ?_ rfl ?_⟩
      · rintro rfl
        exact .inr ⟨place, above, _, rfl, rfl, hentered⟩
      · intro p hplain
        cases hplain
        exact hclaimed
  | @branch members key _ hm hk hb =>
      have hrests : Sighting.Rests body t.kept
          ⟨place :: above, .choice key (place :: above) (some inner)⟩ :=
        ⟨place, above, members, inChoice, rfl, hm, hk, hb, hentered⟩
      have hv := h.note hstack (by simp) hrests
      refine ⟨fun _ hs => List.mem_append_left _ hs, hstack', hv.concat hstack' ?_ rfl ?_⟩
      · intro hfalse
        cases hfalse
      · intro p hplain
        cases hplain

/-- What a survey knows, it knows after every step. -/
theorem proceeds (h : Sound body t) (hp : Proceeds place above inChoice t u) :
    (∀ s ∈ t.kept, s ∈ u.kept) ∧ Sound body u := by
  induction hp with
  | here => exact ⟨fun _ hs => hs, h⟩
  | text fragment _ ih =>
      obtain ⟨hkept, hu⟩ := ih hstack hentered h
      exact ⟨fun s hs => List.mem_append_left _ (hkept s hs), hu.note hstack (by simp) trivial⟩
  | divert _ hm ht ih =>
      obtain ⟨hkept, hu⟩ := ih hstack hentered h
      exact ⟨fun s hs => List.mem_append_left _ (hkept s hs),
        hu.note hstack (by simp) ⟨_, _, _, rfl, hm, ht, hkept _ hentered⟩⟩
  | unresolved key _ ih =>
      obtain ⟨hkept, hu⟩ := ih hstack hentered h
      exact ⟨fun s hs => List.mem_append_left _ (hkept s hs), hu.note hstack (by simp) trivial⟩
  | array _ hopens _ ih ihinner =>
      obtain ⟨hkept, hu⟩ := ih hstack hentered h
      obtain ⟨hopened, hstack', hv⟩ := hu.opens hstack (hkept _ hentered) hopens
      obtain ⟨hkept', hw⟩ := ihinner hstack' (List.mem_append_right _ (.head [])) hv
      exact ⟨fun s hs => hkept' s (List.mem_append_left _ (hopened s (hkept s hs))), hw⟩

end Sound

theorem sound_of_sightings {limit : Nat} {body : List Value} {ss : List Sighting}
    (h : sightings limit body = .ok ss) : ∃ t : Survey, t.kept = ss ∧ Sound body t := by
  obtain ⟨t, ht, rfl⟩ := eitherEnd_eq_ok h
  refine ⟨t, rfl, ((Sound.start body).proceeds ?_ (.head []) ?_).2⟩
  · intro place hplace
    cases List.mem_singleton.mp hplace
    exact .here
  · exact surveyArray_walks limit [] false (bodyPlace body) _ t ht

/-- Whether a sighting happens in an array inside `outer`. -/
def Sighting.Within (s : Sighting) (outer : Place) : Prop :=
  ∃ place above, s.stack = place :: above ∧ Inside outer place

/-- The link that a sighting after `past` makes. -/
def Sighting.link? (known : List String) (source : String) (past : List Sighting) (s : Sighting) :
    Option Link :=
  s.meeting.event?.bind (Event.link? known source (events (past.map (·.meeting))))

/-- The links that sightings after `past` make, each with the sighting that makes it. -/
def linksAfter (known : List String) (source : String) :
    (past : List Sighting) → List Sighting → List (Sighting × Link)
  | _, [] => []
  | past, s :: rest =>
    ((s.link? known source past).map (s, ·)).toList ++ linksAfter known source (past ++ [s]) rest

/-- The links of a survey with the sightings that make them. -/
def placedLinks (known : List String) (source : String) (ss : List Sighting) :
    List (Sighting × Link) :=
  linksAfter known source [] ss

section Links

variable (known : List String) (source : String)

theorem linksAfter_concat (past ss : List Sighting) (s : Sighting) :
    linksAfter known source past (ss ++ [s]) =
      linksAfter known source past ss ++
        ((s.link? known source (past ++ ss)).map (s, ·)).toList := by
  induction ss generalizing past with
  | nil => simp [linksAfter]
  | cons first rest ih =>
      rw [List.cons_append, linksAfter, ih, linksAfter, List.append_assoc, List.append_assoc,
        List.singleton_append]

theorem map_placedLinks (ss : List Sighting) :
    (placedLinks known source ss).map (·.2) =
      Event.links known source (events (ss.map (·.meeting))) := by
  induction ss using List.reverseRecOn with
  | nil => rfl
  | append_singleton ss s ih =>
      rw [placedLinks] at ih ⊢
      rw [linksAfter_concat, List.map_append, ih, List.map_append, List.map_singleton,
        events_concat, List.nil_append]
      cases he : s.meeting.event? with
      | none => simp [Sighting.link?, he]
      | some e =>
          simp only [Sighting.link?, he, Option.bind_some, Option.toList_some, Event.links_concat]
          cases e.link? known source (events (ss.map (·.meeting))) <;> rfl

theorem divert_of_link? {past : List Sighting} {s : Sighting} {l : Link}
    (h : s.link? known source past = some l) : s.meeting = .divert l.target l.isChoice := by
  obtain ⟨stack, meeting⟩ := s
  cases meeting with
  | divert target inChoice =>
      obtain ⟨-, hl⟩ := Option.ite_none_right_eq_some.mp h
      cases hl
      rfl
  | text _ | enter _ _ | choice _ _ _ => cases h

theorem divert_of_mem_linksAfter {past ss : List Sighting} {s : Sighting} {l : Link}
    (h : (s, l) ∈ linksAfter known source past ss) :
    s ∈ ss ∧ s.meeting = .divert l.target l.isChoice := by
  induction ss generalizing past with
  | nil => cases h
  | cons first rest ih =>
      rw [linksAfter, List.mem_append] at h
      rcases h with hfirst | hrest
      · obtain ⟨l', hl, heq⟩ := Option.map_eq_some_iff.mp (Option.mem_toList.mp hfirst)
        cases heq
        exact ⟨.head rest, divert_of_link? known source hl⟩
      · exact ⟨.tail _ (ih hrest).1, (ih hrest).2⟩

end Links

namespace Sound

variable {body : List Value} {t : Survey}

/-- An array that is entered in the main line lies in one that was entered so before. -/
theorem plain_outer (h : Sound body t) {before after : List Sighting} {s : Sighting}
    {place outer : Place} {step : Step} (hsplit : t.kept = before ++ s :: after)
    (hplain : s.Plain place) (hpath : place.path = step :: outer.path)
    (houter : Inside (bodyPlace body) outer) :
    ∃ above, ⟨outer :: above, .enter outer false⟩ ∈ before := by
  have hs : s ∈ t.kept := hsplit ▸ List.mem_append_right _ (.head after)
  have hrests := h.rests before s after hsplit
  obtain ⟨stack, meeting⟩ := s
  cases hplain
  rcases hrests rfl with rfl | ⟨other, above, step', rfl, hpath', hmem⟩
  · cases hpath
  · have hother : Inside (bodyPlace body) other := h.inside _ hs other (.tail _ (.head above))
    rw [hpath] at hpath'
    cases hother.eq_of_path_eq houter (List.cons.inj hpath').2.symm
    exact ⟨above, hmem⟩

/-- Nothing inside an array is walked in the main line unless the array is. -/
theorem not_plain_inside (h : Sound body t) {branch place : Place}
    (hb : Inside (bodyPlace body) branch) (hnot : ∀ s ∈ t.kept, ¬ s.Plain branch)
    (hplace : Inside branch place) : ∀ s ∈ t.kept, ¬ s.Plain place := by
  induction hplace with
  | here => exact hnot
  | item hp _ ih | member hp _ _ ih =>
      intro s hs hplain
      obtain ⟨before, after, hsplit⟩ := List.append_of_mem hs
      obtain ⟨above, hmem⟩ := h.plain_outer hsplit hplain rfl (hb.trans hp)
      exact ih ⟨_ :: above, .enter _ false⟩ (hsplit ▸ List.mem_append_left _ hmem) rfl

/-- A branch with a choice point in the array that holds it is announced in time. -/
theorem not_plain_of_beside (h : Sound body t) {holder branch : Place}
    {members : List (String × Value)} {key : String} (hholder : Inside (bodyPlace body) holder)
    (hm : .object members ∈ holder.items) (hk : branchKey? members = some key)
    (hb : branchIn? holder key = some branch) : ∀ s ∈ t.kept, ¬ s.Plain branch := by
  intro s hs hplain
  obtain ⟨before, after, hsplit⟩ := List.append_of_mem hs
  obtain ⟨i, j, hpath⟩ := path_of_branchIn? hb
  obtain ⟨above, hmem⟩ := h.plain_outer hsplit hplain hpath hholder
  have hfound : findBranch? (holder :: above) key = some branch := by
    rw [findBranch?, List.findSome?_cons, hb]
  have hlets := h.lets
  rw [hsplit, List.pairwise_append] at hlets
  exact hlets.2.2 _ hmem s (.head after) branch hplain (claims_of_choice hm hk hfound)

/-- A branch that a choice point led to was announced. -/
theorem announced_of_resolved (h : Sound body t) {s : Sighting} (hs : s ∈ t.kept) {key : String}
    {stack : List Place} {branch : Place} (hb : s.meeting = .choice key stack (some branch)) :
    Inside (bodyPlace body) branch ∧ ∃ s' ∈ t.kept, branch.path ∈ s'.announced := by
  obtain ⟨before, after, hsplit⟩ := List.append_of_mem hs
  have hrests := h.rests _ _ _ hsplit
  obtain ⟨stack', meeting⟩ := s
  cases hb
  obtain ⟨place, above, members, inChoice, rfl, hm, hk, hfound, hentered⟩ := hrests
  obtain ⟨holder, hholder, hinside⟩ := findBranch?_inside hfound
  refine ⟨(h.inside _ hs holder hholder).trans hinside,
    ⟨place :: above, .enter place inChoice⟩, ?_, claims_of_choice hm hk hfound⟩
  exact hsplit ▸ List.mem_append_left _ hentered

theorem not_plain_iff (h : Sound body t) {branch : Place}
    (hb : ∃ s ∈ t.kept, branch.path ∈ s.announced) :
    (∀ s ∈ t.kept, ¬ s.Plain branch) ↔
      ∃ before s after, t.kept = before ++ s :: after ∧ branch.path ∈ s.announced ∧
        ∀ s' ∈ before ++ [s], ¬ s'.Plain branch := by
  constructor
  · intro hnot
    obtain ⟨s, hs, hannounced⟩ := hb
    obtain ⟨before, after, hsplit⟩ := List.append_of_mem hs
    refine ⟨before, s, after, hsplit, hannounced, ?_⟩
    intro s' hs'
    apply hnot
    rw [hsplit, List.append_cons]
    exact List.mem_append_left _ hs'
  · rintro ⟨before, s, after, hsplit, hannounced, hnot⟩ s' hs' hplain
    have hlets := h.lets
    rw [hsplit, List.append_cons] at hs' hlets
    rcases List.mem_append.mp hs' with hearlier | hlater
    · exact hnot s' hearlier hplain
    · exact (List.pairwise_append.mp hlets).2.2 s (by simp) s' hlater branch hplain hannounced

theorem isChoice_of_within (h : Sound body t) {branch : Place}
    (hb : Inside (bodyPlace body) branch) (hnot : ∀ s ∈ t.kept, ¬ s.Plain branch) {s : Sighting}
    (hs : s ∈ t.kept) {target : String} {inChoice : Bool}
    (hm : s.meeting = .divert target inChoice) (hwithin : s.Within branch) : inChoice = true := by
  obtain ⟨before, after, hsplit⟩ := List.append_of_mem hs
  have hrests := h.rests _ _ _ hsplit
  obtain ⟨stack, meeting⟩ := s
  cases hm
  obtain ⟨place, above, hstack, hplace⟩ := hwithin
  obtain ⟨place', above', members, hstack', -, -, hentered⟩ := hrests
  cases hstack.symm.trans hstack'
  cases inChoice with
  | true => rfl
  | false =>
      have hmem : ⟨stack, .enter place false⟩ ∈ t.kept := hsplit ▸ List.mem_append_left _ hentered
      exact absurd rfl (h.not_plain_inside hb hnot hplace _ hmem)

end Sound

/-- A branch that a choice point leads to is walked in choices only exactly if, when it comes to be
announced, it was not yet walked in the main line. It never is where a choice point for it stands in
the very array that holds it. Every link made inside a branch that is walked in choices only is the
link of a choice. -/
theorem branch_only_in_choice {limit : Nat} {body : List Value} {ss : List Sighting}
    (h : sightings limit body = .ok ss) {key : String} {stack : List Place} {branch : Place}
    (hb : ∃ s ∈ ss, s.meeting = .choice key stack (some branch)) :
    ((∀ s ∈ ss, ¬ s.Plain branch) ↔
      ∃ before s after, ss = before ++ s :: after ∧ branch.path ∈ s.announced ∧
        ∀ s' ∈ before ++ [s], ¬ s'.Plain branch) ∧
    (∀ holder members key, Inside (bodyPlace body) holder → .object members ∈ holder.items →
      branchKey? members = some key → branchIn? holder key = some branch →
      ∀ s ∈ ss, ¬ s.Plain branch) ∧
    ∀ known name,
      (extractWithin limit known name body).links = (placedLinks known name ss).map (·.2) ∧
      ((∀ s ∈ ss, ¬ s.Plain branch) →
        ∀ s l, (s, l) ∈ placedLinks known name ss → s.Within branch → l.isChoice = true) := by
  obtain ⟨t, rfl, hsound⟩ := sound_of_sightings h
  obtain ⟨s, hs, hchoice⟩ := hb
  obtain ⟨hbranch, hannounced⟩ := hsound.announced_of_resolved hs hchoice
  refine ⟨hsound.not_plain_iff hannounced, ?_, ?_⟩
  · intro holder members key hholder hm hk hheld
    exact hsound.not_plain_of_beside hholder hm hk hheld
  · intro known name
    constructor
    · rw [extractWithin_of_completed (meetings_of_sightings h), map_placedLinks]
      exact (Recording.sums_events known name _).links_eq
    · intro hnot s l hl hwithin
      obtain ⟨hs, hm⟩ := divert_of_mem_linksAfter known name hl
      exact hsound.isChoice_of_within hbranch hnot hs hm hwithin

/-- A choice point that stands deeper than its branch, and before it. -/
def aheadBody : List Value :=
  [.list [.object [("*", .str "A.c-0")]],
    .object [("c-0", .list [.str "^Left", .object [("->", .str "B")]])], .object [("->", .str "C")]]

def aheadInner : Place := ⟨[.item 0], [.object [("*", .str "A.c-0")]]⟩

def aheadBranch : Place := ⟨[.member 1 0], [.str "^Left", .object [("->", .str "B")]]⟩

def aheadSightings : List Sighting :=
  let body := bodyPlace aheadBody
  [⟨[body], .enter body false⟩, ⟨[aheadInner, body], .enter aheadInner false⟩,
    ⟨[aheadInner, body], .choice "c-0" [aheadInner, body] (some aheadBranch)⟩,
    ⟨[aheadBranch, aheadInner, body], .enter aheadBranch true⟩,
    ⟨[aheadBranch, aheadInner, body], .text "Left"⟩,
    ⟨[aheadBranch, aheadInner, body], .divert "B" true⟩, ⟨[body], .divert "C" false⟩]

theorem aheadBody_in_choice :
    sightings 3 aheadBody = .ok aheadSightings ∧
    (∀ s ∈ aheadSightings, ¬ s.Plain aheadBranch) ∧
    (placedLinks ["B", "C"] "A" aheadSightings).map (·.2) =
      [⟨"A", "B", "Left", true⟩, ⟨"A", "C", "Left", false⟩] ∧
    ∀ s l, (s, l) ∈ placedLinks ["B", "C"] "A" aheadSightings → s.Within aheadBranch →
      l.isChoice = true := by
  have hss : sightings 3 aheadBody = .ok aheadSightings := rfl
  have hb : ∃ s ∈ aheadSightings, s.meeting =
      .choice "c-0" [aheadInner, bodyPlace aheadBody] (some aheadBranch) :=
    ⟨_, .tail _ (.tail _ (.head _)), rfl⟩
  obtain ⟨hplain, -, hlinks⟩ := branch_only_in_choice hss hb
  have hnot : ∀ s ∈ aheadSightings, ¬ s.Plain aheadBranch := by
    refine hplain.mpr ⟨[_], _, _, rfl, .head [], ?_⟩
    intro s hs hbranch
    simp only [List.singleton_append, List.mem_cons, List.not_mem_nil, or_false] at hs
    rcases hs with rfl | rfl
    · cases hbranch
    · cases hbranch
  obtain ⟨-, hwithin⟩ := hlinks ["B", "C"] "A"
  exact ⟨hss, hnot, rfl, hwithin hnot⟩

/-- A branch that is held before the array in which its choice point stands. -/
def heldBody : List Value :=
  [.object [("c-0", .list [.str "^Left", .object [("->", .str "B")]])],
    .list [.object [("*", .str "A.c-0")]], .str "^Onward", .object [("->", .str "C")]]

def heldBranch : Place := ⟨[.member 0 0], [.str "^Left", .object [("->", .str "B")]]⟩

def heldInner : Place := ⟨[.item 1], [.object [("*", .str "A.c-0")]]⟩

def heldMeetings : List Meeting :=
  [.enter (bodyPlace heldBody) false, .enter heldBranch false, .text "Left", .divert "B" false,
    .enter heldInner false, .choice "c-0" [heldInner, bodyPlace heldBody] (some heldBranch),
    .enter heldBranch true, .text "Left", .divert "B" true, .text "Onward", .divert "C" false]

/-- The branch is walked in the main line too and takes the link that should lead onward. -/
theorem heldBody_in_main_line :
    meetings 3 heldBody = .ok heldMeetings ∧
    Resolved heldMeetings heldBranch ∧ .enter heldBranch false ∈ heldMeetings ∧
    (extract ["A", "B", "C"] "A" heldBody).links =
      [⟨"A", "B", "Left", false⟩, ⟨"A", "B", "Left", true⟩] := by
  have hms : meetings 3 heldBody = .ok heldMeetings := rfl
  have hresolved : Resolved heldMeetings heldBranch :=
    ⟨_, _, .tail _ (.tail _ (.tail _ (.tail _ (.tail _ (.head _)))))⟩
  exact ⟨hms, hresolved, .tail _ (.head _), by decide +kernel⟩

end KnotAtlas.Story
