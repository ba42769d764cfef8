import KnotAtlas.Story.Recording

/-!
What a walk meets, as a sequence. A walk never looks at what is kept of its meetings, so whatever is
kept step by step is a fold over that sequence; in particular the extract of a knot is.
-/

namespace KnotAtlas.Story

variable {α β ρ ρ' : Type}

/-- Changes what a walk gives, whether it was completed or cut off. -/
def eitherEnd (f : α → β) : Except α α → Except β β
  | .ok a => .ok (f a)
  | .error a => .error (f a)

theorem eitherEnd_eq_ok {f : α → β} {x : Except α α} {b : β} (h : eitherEnd f x = .ok b) :
    ∃ a, x = .ok a ∧ f a = b := by
  cases x with
  | error a => cases h
  | ok a =>
      cases h
      exact ⟨a, rfl, rfl⟩

theorem eitherEnd_bind {f : α → β} {x : Except α α} {k : α → Except α α} {l : β → Except β β}
    (h : ∀ a, l (f a) = eitherEnd f (k a)) :
    (eitherEnd f x >>= l) = eitherEnd f (x >>= k) := by
  cases x with
  | error a => rfl
  | ok a => exact h a

theorem foldlM_eitherEnd {γ : Type} {f : α → β} {step : α → γ → Except α α}
    {step' : β → γ → Except β β} (h : ∀ a c, step' (f a) c = eitherEnd f (step a c))
    (cs : List γ) (a : α) : cs.foldlM step' (f a) = eitherEnd f (cs.foldlM step a) := by
  induction cs generalizing a with
  | nil => rfl
  | cons c cs ih =>
      rw [List.foldlM_cons, List.foldlM_cons, h]
      exact eitherEnd_bind ih

/-- A tour with something else kept. -/
def Tour.map (f : ρ → ρ') (t : Tour ρ) : Tour ρ' := ⟨f t.kept, t.claimed⟩

/-- Two legs that differ in what they keep only. -/
def Follows (f : ρ → ρ') (leg : Leg ρ) (leg' : Leg ρ') : Prop :=
  ∀ t, leg' (t.map f) = eitherEnd (Tour.map f) (leg t)

section Homomorphism

variable {keep : ρ → Meeting → ρ} {keep' : ρ' → Meeting → ρ'} {f : ρ → ρ'}
variable (hf : ∀ r m, keep' (f r) m = f (keep r m))
include hf

theorem Tour.note_map (t : Tour ρ) (m : Meeting) :
    (t.map f).note keep' m = (t.note keep m).map f := by
  simp only [Tour.note, Tour.map, hf]

theorem Tour.enter_map (t : Tour ρ) (stack : List Place) (place : Place) (inChoice : Bool) :
    (t.map f).enter keep' stack place inChoice = (t.enter keep stack place inChoice).map f := by
  simp only [Tour.enter, Tour.map, hf]

omit hf in
theorem walkMember_map {descend : Place → Leg ρ} {descend' : Place → Leg ρ'}
    (hd : ∀ place, Follows f (descend place) (descend' place)) (path : Path) (index : Nat)
    (t : Tour ρ) (entry : (String × Value) × Nat) :
    walkMember descend' path index (t.map f) entry =
      eitherEnd (Tour.map f) (walkMember descend path index t entry) := by
  obtain ⟨⟨key, value⟩, j⟩ := entry
  cases value with
  | list items =>
      by_cases hc : Step.member index j :: path ∈ t.claimed
      · simp [walkMember, Tour.map, hc, eitherEnd]
      · simpa [walkMember, Tour.map, hc] using hd _ t
  | null | bool _ | int _ | float _ | str _ | object _ => rfl

theorem visitObject_map {jump : Place → Leg ρ} {jump' : Place → Leg ρ'}
    (hj : ∀ place, Follows f (jump place) (jump' place)) (stack : List Place) (inChoice : Bool)
    (members : List (String × Value)) :
    Follows f (visitObject keep jump stack inChoice members)
      (visitObject keep' jump' stack inChoice members) := by
  intro t
  cases hk : branchKey? members with
  | some key =>
      cases hb : findBranch? stack key with
      | some place => simpa [visitObject, hk, hb, Tour.note_map hf] using hj place _
      | none => simp [visitObject, hk, hb, Tour.note_map hf, eitherEnd]
  | none =>
      cases hd : divertTarget? members with
      | some target => simp [visitObject, hk, hd, Tour.note_map hf, eitherEnd]
      | none => simp [visitObject, hk, hd, eitherEnd]

theorem visitItem_map {descend : Bool → Place → Leg ρ} {descend' : Bool → Place → Leg ρ'}
    (hd : ∀ inChoice place, Follows f (descend inChoice place) (descend' inChoice place))
    (stack : List Place) (path : Path) (inChoice : Bool) (t : Tour ρ) (entry : Value × Nat) :
    visitItem keep' descend' stack path inChoice (t.map f) entry =
      eitherEnd (Tour.map f) (visitItem keep descend stack path inChoice t entry) := by
  obtain ⟨value, i⟩ := entry
  cases value with
  | list items => exact hd inChoice _ t
  | str s =>
      cases hs : fragment? s with
      | some fragment => simp [visitItem, hs, Tour.note_map hf, eitherEnd]
      | none => simp [visitItem, hs, eitherEnd]
  | object members =>
      simp only [visitItem]
      rw [visitObject_map hf (hd true) stack inChoice members t]
      apply eitherEnd_bind
      intro u
      exact foldlM_eitherEnd (walkMember_map (hd inChoice) path i) members.zipIdx u
  | null | bool _ | int _ | float _ => rfl

/-- A change of what is kept that respects single meetings passes through a whole walk. -/
theorem walkArray_map (depth : Nat) (stack : List Place) (inChoice : Bool) (place : Place) :
    Follows f (walkArray keep depth stack inChoice place)
      (walkArray keep' depth stack inChoice place) := by
  induction depth generalizing stack inChoice place with
  | zero => intro t; rfl
  | succ depth ih =>
      intro t
      simp only [walkArray]
      rw [Tour.enter_map hf]
      exact foldlM_eitherEnd
        (visitItem_map hf (ih (place :: stack)) (place :: stack) place.path inChoice) _ _

end Homomorphism

/-- A walk that keeps all it meets, in order. -/
abbrev tracing : List Meeting → Meeting → List Meeting := fun met m => met ++ [m]

/-- What a walk through a body meets, in order: everything, or as much as came before it was cut
off. -/
def meetings (limit : Nat) (body : List Value) : Except (List Meeting) (List Meeting) :=
  eitherEnd (·.kept) (walkBody tracing [] limit body)

/-- The recording of a sequence of meetings. -/
def Recording.ofMeetings (known : List String) (source : String) (ms : List Meeting) : Recording :=
  ms.foldl (meet known source) {}

@[simp] theorem Recording.ofMeetings_nil (known : List String) (source : String) :
    ofMeetings known source [] = {} := rfl

@[simp] theorem Recording.ofMeetings_concat (known : List String) (source : String)
    (ms : List Meeting) (m : Meeting) :
    ofMeetings known source (ms ++ [m]) = meet known source (ofMeetings known source ms) m := by
  simp [ofMeetings]

theorem walkBody_recording (limit : Nat) (known : List String) (name : String)
    (body : List Value) :
    eitherEnd (·.kept) (walkBody (Recording.meet known name) {} limit body) =
      eitherEnd (Recording.ofMeetings known name) (meetings limit body) := by
  have hf : ∀ ms m, Recording.meet known name (Recording.ofMeetings known name ms) m =
      Recording.ofMeetings known name (tracing ms m) := by
    intro ms m
    exact (Recording.ofMeetings_concat known name ms m).symm
  have h := walkArray_map hf limit [] false (bodyPlace body) ⟨[], []⟩
  change walkBody (Recording.meet known name) {} limit body = _ at h
  rw [h, meetings, walkBody]
  cases walkArray tracing limit [] false (bodyPlace body) ⟨[], []⟩ <;> rfl

/-- The extract of a completed walk is recorded from all that the walk met. -/
theorem extractWithin_of_completed {limit : Nat} {body : List Value} {ms : List Meeting}
    (h : meetings limit body = .ok ms) (known : List String) (name : String) :
    extractWithin limit known name body =
      ⟨name, (Recording.ofMeetings known name ms).links,
        (Recording.ofMeetings known name ms).dangling, false⟩ := by
  have hr := walkBody_recording limit known name body
  rw [h] at hr
  simp only [extractWithin]
  cases hw : walkBody (Recording.meet known name) {} limit body with
  | ok t =>
      simp only [hw, eitherEnd, Except.ok.injEq] at hr
      simp only [hr]
  | error t => simp [hw, eitherEnd] at hr

/-- A walk that is cut off gives no links, but the dangling diverts met before. -/
theorem extractWithin_of_cutOff {limit : Nat} {body : List Value} {ms : List Meeting}
    (h : meetings limit body = .error ms) (known : List String) (name : String) :
    extractWithin limit known name body =
      ⟨name, [], (Recording.ofMeetings known name ms).dangling, true⟩ := by
  have hr := walkBody_recording limit known name body
  rw [h] at hr
  rw [extractWithin]
  cases hw : walkBody (Recording.meet known name) {} limit body with
  | ok t => simp [hw, eitherEnd] at hr
  | error t =>
      simp only [hw, eitherEnd, Except.error.injEq] at hr
      simp only [hr]

end KnotAtlas.Story
