import KnotAtlas.Proofs.Story.Trace
import Mathlib.Data.List.Induction

/-!
What the recording of a walk amounts to. The texts and diverts that the walk meets are its events;
the links and the dangling diverts of a knot are given event by event, from the event and those
before it, with no state in between.
-/

namespace KnotAtlas.Story

/-- A meeting that a recording is made of. -/
inductive Event where
  | text (fragment : String)
  | divert (target : String) (inChoice : Bool)
  deriving DecidableEq

def Meeting.event? : Meeting → Option Event
  | .text fragment => some (.text fragment)
  | .divert target inChoice => some (.divert target inChoice)
  | .enter _ _ | .choice _ _ _ => none

/-- The events among what a walk met, in order. -/
def events (ms : List Meeting) : List Event := ms.filterMap Meeting.event?

@[simp] theorem events_concat (ms : List Meeting) (m : Meeting) :
    events (ms ++ [m]) = events ms ++ m.event?.toList := by
  simp only [events, List.filterMap_append]
  cases h : m.event? <;> simp [h]

namespace Event

def fragment? : Event → Option String
  | .text fragment => some fragment
  | .divert _ _ => none

/-- The known knot that a divert outside choices leads to. -/
def mainTarget? (known : List String) : Event → Option String
  | .divert target false => if target ∈ known then some target else none
  | .divert _ true | .text _ => none

/-- The targets of the diverts outside choices that lead to known knots. -/
def mainTargets (known : List String) (es : List Event) : List String :=
  es.filterMap (mainTarget? known)

/-- The label of a link that is made after `past`: the text met last, trimmed. -/
def labelAfter (past : List Event) : String :=
  match (past.filterMap fragment?).getLast? with
  | some fragment => if Text.trim fragment = "" then blankLabel else Text.trim fragment
  | none => blankLabel

/-- The link that an event after `past` makes. -/
def link? (known : List String) (source : String) (past : List Event) : Event → Option Link
  | .divert target inChoice =>
      if target ∈ known ∧ (inChoice = true ∨ mainTargets known past = []) then
        some ⟨source, target, labelAfter past, inChoice⟩
      else none
  | .text _ => none

/-- The dangling divert that an event is. -/
def dangling? (known : List String) (source : String) : Event → Option Dangling
  | .divert target inChoice =>
      if target ∉ known ∧ ¬ ".".isPrefixOf target ∧ targetHead target ∉ known ∧
          ¬ Text.isAllDigits (targetHead target) then
        some ⟨source, target, inChoice⟩
      else none
  | .text _ => none

/-- The dangling diverts among a sequence of events. -/
def danglings (known : List String) (source : String) (es : List Event) : List Dangling :=
  es.filterMap (dangling? known source)

/-- Every event with the events before it. -/
def withPast (es : List Event) : List (List Event × Event) :=
  es.zipIdx.map fun (e, i) => (es.take i, e)

/-- The links that a sequence of events makes. -/
def links (known : List String) (source : String) (es : List Event) : List Link :=
  (withPast es).filterMap fun (past, e) => e.link? known source past

theorem withPast_concat (es : List Event) (e : Event) :
    withPast (es ++ [e]) = withPast es ++ [(es, e)] := by
  have hpast : ∀ p ∈ es.zipIdx, ((es ++ [e]).take p.2, p.1) = (es.take p.2, p.1) := by
    intro p hp
    have hlt : p.2 < es.length := by simpa using List.snd_lt_of_mem_zipIdx hp
    rw [List.take_append_of_le_length (Nat.le_of_lt hlt)]
  simp only [withPast, List.zipIdx_append, List.map_append, List.map_congr_left hpast]
  simp

@[simp] theorem links_concat (known : List String) (source : String) (es : List Event)
    (e : Event) :
    links known source (es ++ [e]) = links known source es ++ (e.link? known source es).toList := by
  simp only [links, withPast_concat, List.filterMap_append]
  cases h : e.link? known source es <;> simp [h]

@[simp] theorem danglings_concat (known : List String) (source : String) (es : List Event)
    (e : Event) :
    danglings known source (es ++ [e]) =
      danglings known source es ++ (e.dangling? known source).toList := by
  simp only [danglings, List.filterMap_append]
  cases h : e.dangling? known source <;> simp [h]

@[simp] theorem mainTargets_concat (known : List String) (es : List Event) (e : Event) :
    mainTargets known (es ++ [e]) = mainTargets known es ++ (e.mainTarget? known).toList := by
  simp only [mainTargets, List.filterMap_append]
  cases h : e.mainTarget? known <;> simp [h]

@[simp] theorem labelAfter_text (es : List Event) (fragment : String) :
    labelAfter (es ++ [.text fragment]) =
      if Text.trim fragment = "" then blankLabel else Text.trim fragment := by
  simp [labelAfter, fragment?]

@[simp] theorem labelAfter_divert (es : List Event) (target : String) (inChoice : Bool) :
    labelAfter (es ++ [.divert target inChoice]) = labelAfter es := by
  simp [labelAfter, fragment?]

/-- However many diverts there are outside choices, one link is made of them, by the first that
leads to a known knot. -/
theorem mainLine_links (known : List String) (source : String) (es : List Event) :
    ((links known source es).filter (!·.isChoice)).map (·.target) =
      (mainTargets known es).head?.toList := by
  induction es using List.reverseRecOn with
  | nil => rfl
  | append_singleton es e ih =>
      rw [links_concat, mainTargets_concat, List.filter_append, List.map_append, ih]
      cases e with
      | text fragment => simp [link?, mainTarget?]
      | divert target inChoice =>
          by_cases hk : target ∈ known
          · cases inChoice with
            | true => simp [link?, mainTarget?, hk]
            | false => cases hm : mainTargets known es <;> simp [link?, mainTarget?, hk, hm]
          · cases inChoice <;> simp [link?, mainTarget?, hk]

end Event

open Event (labelAfter mainTargets link? dangling?)

/-- A recording holds what a sequence of events makes. -/
structure Recording.Sums (known : List String) (source : String) (es : List Event)
    (r : Recording) : Prop where
  label_eq : r.label = labelAfter es
  mainLine_iff : r.mainLineUsed = false ↔ mainTargets known es = []
  links_eq : r.links = Event.links known source es
  dangling_eq : r.dangling = Event.danglings known source es

namespace Recording

variable {known : List String} {source : String} {es : List Event} {r : Recording}

theorem Sums.text (h : r.Sums known source es) (fragment : String) :
    (r.meet known source (.text fragment)).Sums known source (es ++ [.text fragment]) where
  label_eq := by rw [Event.labelAfter_text]; rfl
  mainLine_iff := by simpa [meet, Event.mainTarget?] using h.mainLine_iff
  links_eq := by simpa [meet, link?] using h.links_eq
  dangling_eq := by simpa [meet, dangling?] using h.dangling_eq

theorem Sums.choiceDivert (h : r.Sums known source es) {target : String} (hk : target ∈ known) :
    (r.divert known source target true).Sums known source (es ++ [.divert target true]) where
  label_eq := by simpa [divert, hk, label] using h.label_eq
  mainLine_iff := by simpa [divert, hk, Event.mainTarget?] using h.mainLine_iff
  links_eq := by simp [divert, hk, link?, h.links_eq, h.label_eq]
  dangling_eq := by simp [divert, hk, dangling?, h.dangling_eq]

theorem Sums.mainDivert (h : r.Sums known source es) {target : String} (hk : target ∈ known) :
    (r.divert known source target false).Sums known source (es ++ [.divert target false]) := by
  cases hu : r.mainLineUsed with
  | false =>
      have hm : mainTargets known es = [] := h.mainLine_iff.mp hu
      constructor
      · simpa [divert, hk, hu, label] using h.label_eq
      · simp [divert, hk, hu, Event.mainTarget?]
      · simp [divert, hk, hu, link?, hm, h.links_eq, h.label_eq]
      · simp [divert, hk, hu, dangling?, h.dangling_eq]
  | true =>
      have hm : mainTargets known es ≠ [] := by
        intro hm
        rw [h.mainLine_iff.mpr hm] at hu
        cases hu
      constructor
      · simpa [divert, hk, hu] using h.label_eq
      · simp [divert, hk, hu, Event.mainTarget?]
      · simp [divert, hk, hu, link?, hm, h.links_eq]
      · simp [divert, hk, hu, dangling?, h.dangling_eq]

/-- A divert to no known knot changes nothing but the dangling diverts. -/
theorem Sums.unknownDivert (h : r.Sums known source es) {target : String} (hk : target ∉ known)
    (inChoice : Bool) :
    (r.divert known source target inChoice).Sums known source
      (es ++ [.divert target inChoice]) := by
  have hmain : Event.mainTarget? known (.divert target inChoice) = none := by
    cases inChoice <;> simp [Event.mainTarget?, hk]
  by_cases hm : namesMissingKnot known target = true
  · have hd : dangling? known source (.divert target inChoice) =
        some ⟨source, target, inChoice⟩ := by
      simp only [namesMissingKnot, Bool.and_eq_true, Bool.not_eq_true', decide_eq_true_eq] at hm
      simp [dangling?, hk, hm]
    constructor
    · simpa [divert, hk, hm, label] using h.label_eq
    · simpa [divert, hk, hm, hmain] using h.mainLine_iff
    · simpa [divert, hk, hm, link?] using h.links_eq
    · simp [divert, hk, hm, hd, h.dangling_eq]
  · have hd : dangling? known source (.divert target inChoice) = none := by
      simp only [dangling?, ite_eq_right_iff, reduceCtorEq, imp_false]
      rintro ⟨-, hdot, hhead, hdigits⟩
      simp [namesMissingKnot, hdot, hhead, hdigits] at hm
    constructor
    · simpa [divert, hk, hm] using h.label_eq
    · simpa [divert, hk, hm, hmain] using h.mainLine_iff
    · simpa [divert, hk, hm, link?] using h.links_eq
    · simpa [divert, hk, hm, hd] using h.dangling_eq

theorem Sums.divert (h : r.Sums known source es) (target : String) (inChoice : Bool) :
    (r.meet known source (.divert target inChoice)).Sums known source
      (es ++ [.divert target inChoice]) := by
  by_cases hk : target ∈ known
  · cases inChoice with
    | true => exact h.choiceDivert hk
    | false => exact h.mainDivert hk
  · exact h.unknownDivert hk inChoice

/-- The recording of a walk holds what the walk's events make. -/
theorem sums_events (known : List String) (source : String) (ms : List Meeting) :
    (ofMeetings known source ms).Sums known source (events ms) := by
  induction ms using List.reverseRecOn with
  | nil => exact ⟨rfl, by simp [mainTargets, events], rfl, rfl⟩
  | append_singleton ms m ih =>
      rw [ofMeetings_concat]
      cases m with
      | text fragment => simpa [Meeting.event?] using ih.text fragment
      | divert target inChoice =>
          simpa [Meeting.event?] using ih.divert target inChoice
      | enter place inChoice => simpa [Meeting.event?, meet] using ih
      | choice key stack branch => simpa [Meeting.event?, meet] using ih

end Recording

/-- What every link of a knot has: the knot as source, a known target, and a label made of text. -/
theorem Event.mem_links {known : List String} {source : String} {es : List Event} {l : Link}
    (h : l ∈ links known source es) :
    l.source = source ∧ l.target ∈ known ∧ ∃ past, l.label = labelAfter past := by
  obtain ⟨⟨past, e⟩, -, he⟩ := List.mem_filterMap.mp h
  cases e with
  | text fragment => simp [link?] at he
  | divert target inChoice =>
      simp only [link?, Option.ite_none_right_eq_some, Option.some.injEq] at he
      obtain ⟨⟨hk, -⟩, rfl⟩ := he
      exact ⟨rfl, hk, past, rfl⟩

theorem Event.mem_danglings {known : List String} {source : String} {es : List Event}
    {d : Dangling} (h : d ∈ danglings known source es) : d.target ∉ known := by
  obtain ⟨e, -, he⟩ := List.mem_filterMap.mp h
  cases e with
  | text fragment => simp [dangling?] at he
  | divert target inChoice =>
      simp only [dangling?, Option.ite_none_right_eq_some, Option.some.injEq] at he
      obtain ⟨⟨hk, -⟩, rfl⟩ := he
      exact hk

/-- The links and the dangling diverts of a completed walk are those that its events make; the
recording made on the way leaves no other trace. -/
theorem extract_eq_events {limit : Nat} {body : List Value} {ms : List Meeting}
    (h : meetings limit body = .ok ms) (known : List String) (name : String) :
    let x := extractWithin limit known name body
    x.cutOff = false ∧
    x.links = Event.links known name (events ms) ∧
    x.dangling = Event.danglings known name (events ms) ∧
    (x.links.filter (!·.isChoice)).map (·.target) =
      (mainTargets known (events ms)).head?.toList ∧
    ∀ l ∈ x.links, ∀ d ∈ x.dangling, l.target ≠ d.target := by
  have sums := Recording.sums_events known name ms
  intro x
  have hx : x = ⟨name, (Recording.ofMeetings known name ms).links,
      (Recording.ofMeetings known name ms).dangling, false⟩ :=
    extractWithin_of_completed h known name
  have hlinks : x.links = Event.links known name (events ms) := by
    rw [hx]
    exact sums.links_eq
  have hdangling : x.dangling = Event.danglings known name (events ms) := by
    rw [hx]
    exact sums.dangling_eq
  refine ⟨by rw [hx], hlinks, hdangling, ?_, ?_⟩
  · rw [hlinks]
    exact Event.mainLine_links known name (events ms)
  · intro l hl d hd
    rw [hlinks] at hl
    rw [hdangling] at hd
    intro heq
    exact Event.mem_danglings hd (heq ▸ (Event.mem_links hl).2.1)

/-- A body with an unknown divert before the first known one, and both kinds in a choice. -/
def mixedBody : List Value :=
  [.str "^ go ", .object [("->", .str "Z")], .object [("->", .str "B")], .object [("->", .str "B")],
    .object [("*", .str ".^.c-0")],
    .object [("c-0",
      .list [.str "^ ", .object [("->", .str "B")], .object [("->", .str "0.c-1")]])]]

theorem extract_mixedBody :
    (∃ ms, meetings 5 mixedBody = .ok ms) ∧
    (extractWithin 5 ["B"] "A" mixedBody).links =
      [⟨"A", "B", "go", false⟩, ⟨"A", "B", "…", true⟩] ∧
    (extractWithin 5 ["B"] "A" mixedBody).dangling = [⟨"A", "Z", false⟩] := by
  have hevents : eitherEnd events (meetings 5 mixedBody) =
      .ok [.text " go ", .divert "Z" false, .divert "B" false, .divert "B" false, .text " ",
        .divert "B" true, .divert "0.c-1" true] := by decide +kernel
  obtain ⟨ms, hm, he⟩ := eitherEnd_eq_ok hevents
  obtain ⟨-, hlinks, hdangling, -⟩ := extract_eq_events hm ["B"] "A"
  rw [he] at hlinks hdangling
  exact ⟨⟨ms, hm⟩, hlinks.trans (by decide), hdangling.trans (by decide +kernel)⟩

end KnotAtlas.Story
