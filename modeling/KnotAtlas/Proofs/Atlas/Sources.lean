import KnotAtlas.Proofs.Atlas.Acceptance
import KnotAtlas.Proofs.Source.History

/-!
What an atlas knows of source files. Its cache answers only to additions, removals and clearings,
and without a fresh story its knots are those that the latest contents of the files declare, as far
as they are fresh: each once, in order.
-/

namespace KnotAtlas

open Source (Cache)
open Source.Cache (Latest ToldApart contents)

namespace Atlas

theorem nodup_eraseDups (names : List String) : names.eraseDups.Nodup := by
  cases names with
  | nil => exact .nil
  | cons name rest =>
      rw [List.eraseDups_cons]
      refine List.nodup_cons.mpr ⟨?_, nodup_eraseDups (rest.filter fun other => !other == name)⟩
      rw [List.mem_eraseDups]
      simp
termination_by names.length
decreasing_by exact Nat.lt_succ_of_le (List.length_filter_le _ _)

theorem mem_sortedNames_iff {names : List String} {name : String} :
    name ∈ sortedNames names ↔ name ∈ names := by
  rw [sortedNames, List.mem_mergeSort, List.mem_eraseDups]

/-- Each name stands once, after all that are smaller. -/
theorem pairwise_sortedNames (names : List String) : (sortedNames names).Pairwise (· < ·) := by
  have hsorted : (sortedNames names).Pairwise (· ≤ ·) := by
    have htrans : ∀ a b c : String, decide (a ≤ b) = true → decide (b ≤ c) = true →
        decide (a ≤ c) = true := fun a b c hab hbc =>
      decide_eq_true (String.le_trans (of_decide_eq_true hab) (of_decide_eq_true hbc))
    have htotal : ∀ a b : String, (decide (a ≤ b) || decide (b ≤ a)) = true := by
      intro a b
      simpa using String.le_total a b
    exact (List.pairwise_mergeSort htrans htotal names.eraseDups).imp of_decide_eq_true
  have hnodup : (sortedNames names).Nodup :=
    (List.mergeSort_perm _ _).nodup_iff.mpr (nodup_eraseDups names)
  refine (hsorted.and hnodup).imp fun {a b} ⟨hle, hne⟩ => ?_
  exact Decidable.byContradiction fun hlt => hne (String.le_antisymm hle hlt)

section Times

variable {τ : Type} [Sub τ] [LT τ] [DecidableLT τ] [LE τ] [DecidableLE τ]

theorem allKnots_of_none {a : Atlas τ} {now : τ} (h : a.freshStory? now = none) :
    a.allKnots now = sortedNames ((a.freshSources now).flatMap (·.knots)) := by
  rw [allKnots, h]

/-- Without a fresh story, the knots are those of the latest contents that are young enough. -/
theorem mem_allKnots_iff {a : Atlas τ} {now : τ} {requests : List (τ × Cache.Request)}
    (htells : a.sources.Tells requests) (hon : a.sources.enabled = true)
    (h : a.freshStory? now = none) (knot : String) :
    knot ∈ a.allKnots now ↔
      ∃ path content since, Latest requests path content since ∧
        now - since < a.sources.ttl ∧ knot ∈ Source.knots content := by
  rw [allKnots_of_none h, mem_sortedNames_iff, List.mem_flatMap, freshSources]
  simp only [htells.mem_served_iff, htells.get?_iff hon]
  constructor
  · rintro ⟨s, ⟨path, content, since, hlatest, hyoung, rfl⟩, hknot⟩
    exact ⟨path, content, since, hlatest, hyoung, hknot⟩
  · rintro ⟨path, content, since, hlatest, hyoung, hknot⟩
    exact ⟨_, ⟨path, content, since, hlatest, hyoung, rfl⟩, hknot⟩

end Times

/-- What a request asks of the cache of sources. -/
def Request.toCache? {ε : Type} : Request ε → Option Cache.Request
  | .addSource path content => some (.add path content)
  | .removeSource path => some (.remove path)
  | .clear => some .clear
  | _ => none

/-- The requests that concern sources. -/
def sourceRequests {ε : Type} (requests : List (Seconds × Request ε)) :
    List (Seconds × Cache.Request) :=
  requests.filterMap fun request => request.2.toCache?.map (request.1, ·)

theorem afterStory_sources (a : Atlas Seconds) (now later : Seconds) (source : Story.Source) :
    (a.afterStory now later source).sources = a.sources := by
  obtain ⟨-, -, hafter⟩ | ⟨built, -, hfull, -, -, hafter⟩ := a.handed_cases now later source
  · rw [hafter]
  · rw [hafter]
    exact (a.accept_frame now later hfull).2.1

end Atlas

namespace Session

open Atlas (Request sourceRequests)

variable {ε σ : Type} [StoryEngine ε σ]

theorem step_sources (s : Session) (now : Seconds) (request : Request ε) :
    (s.step now request).atlas.sources =
      request.toCache?.elim s.atlas.sources (s.atlas.sources.step now) := by
  cases request with
  | addSource path content => rfl
  | removeSource path => rfl
  | setStory source later =>
      rw [step, setStory_eq]
      exact s.atlas.afterStory_sources now later source
  | clear => rfl
  | currentKnot e =>
      obtain ⟨last, hlast⟩ := s.atlas.tryCurrentKnot_atlas now e
      rw [step, hlast]
      rfl
  | afterChoice e knot index verified =>
      obtain ⟨last, hlast⟩ := s.atlas.tryAfterChoice_atlas now e knot index verified
      rw [step, hlast]
      rfl
  | record e =>
      obtain ⟨last, trail, hlast⟩ := s.atlas.tryRecord_atlas now e
      rw [step, hlast]
      rfl

/-- The cache of a session is what its additions, removals and clearings made of it. -/
theorem run_sources (s : Session) (requests : List (Seconds × Request ε)) :
    (s.run requests).atlas.sources = s.atlas.sources.run (sourceRequests requests) := by
  induction requests generalizing s with
  | nil => rfl
  | cons request rest ih =>
      refine (ih (s.step request.1 request.2)).trans ?_
      rw [step_sources]
      cases hasked : request.2.toCache? with
      | none =>
          have hrest : sourceRequests (request :: rest) = sourceRequests rest :=
            List.filterMap_cons_none (by rw [hasked]; rfl)
          rw [hrest]
          rfl
      | some asked =>
          have hrest : sourceRequests (request :: rest) =
              (request.1, asked) :: sourceRequests rest :=
            List.filterMap_cons_some (by rw [hasked]; rfl)
          rw [hrest]
          rfl

/-- The cache of an atlas keeps the history of its files, for any type of times. While it is on, it
serves a file exactly if the file's latest content was added less than its lifetime ago, as the scan
of that content at that time; every addition gave such a scan, and an atlas without a fresh story
lists the knots of just these contents, as long as contents are told apart by their digests. While
it is off, it holds nothing. -/
theorem sources_by_history {τ : Type} [Sub τ] [LT τ] [DecidableLT τ] [LE τ] [DecidableLE τ]
    (ttl : τ) (requests : List (τ × Cache.Request)) :
    let on := ({ ttl } : Cache τ).run requests
    let off := ({ ttl, enabled := false } : Cache τ).run requests
    (ToldApart (contents requests) →
      (∀ now path scan, on.get? now path = some scan ↔
        ∃ content since, Latest requests path content since ∧ now - since < ttl ∧
          scan = Source.scan path content since) ∧
      (∀ before after now path content,
        requests = before ++ (now, .add path content) :: after →
          ((({ ttl } : Cache τ).run before).add now path content).value.scan =
            Source.scan path content now) ∧
      ∀ (a : Atlas τ) now, a.sources = on → a.freshStory? now = none →
        (a.allKnots now).Pairwise (· < ·) ∧
        ∀ knot, knot ∈ a.allKnots now ↔
          ∃ path content since, Latest requests path content since ∧ now - since < ttl ∧
            knot ∈ Source.knots content) ∧
    (off.entries = [] ∧ ∀ now path, off.get? now path = none ∧
      ∀ content, (off.add now path content).value.scan = Source.scan path content now) ∧
    ∀ (settings : Settings) (asked : List (Seconds × Request ε)),
      (run ⟨Atlas.create settings, none⟩ asked).atlas.sources =
        ({ ttl := settings.sourceTtl.span, enabled := settings.sourceCache.isOn } :
          Cache Seconds).run (sourceRequests asked) := by
  intro on off
  have hon : on.enabled = true := Cache.run_enabled _ requests
  have httl : on.ttl = ttl := Cache.run_ttl _ requests
  have hoff : off = { ttl, enabled := false } := Cache.run_of_off rfl rfl requests
  refine ⟨fun hapart => ?_, ?_, fun settings asked => run_sources _ asked⟩
  · have htells : on.Tells requests := Cache.run_tells ttl hapart
    refine ⟨?_, ?_, ?_⟩
    · intro now path scan
      rw [htells.get?_iff hon, httl]
    · rintro before after now path content rfl
      exact Cache.scan_of_add ttl hapart
    · intro a now hsources hnone
      rw [← hsources] at htells hon httl
      refine ⟨?_, fun knot => ?_⟩
      · rw [Atlas.allKnots_of_none hnone]
        exact Atlas.pairwise_sortedNames _
      · rw [Atlas.mem_allKnots_iff htells hon hnone, httl]
  · rw [hoff]
    exact ⟨rfl, fun now path => ⟨rfl, fun content => rfl⟩⟩

/-- Two files, one added twice with the same content and the other one dropped. -/
def rescanned : List (Int × Cache.Request) :=
  [(0, .add "a.ink" "== one"), (10, .add "b.ink" "== two"), (20, .add "a.ink" "== one"),
    (30, .remove "b.ink")]

/-- An atlas that knows these files and no story. -/
def rescanning : Atlas Int where
  settings := {}
  layer := { detector := Detector.create [] false false none, ttl := 300 }
  sources := ({ ttl := 15 } : Cache Int).run rescanned
  compiledTtl := 600

/-- The file that was added again is as fresh as its second addition. -/
theorem rescanned_served :
    ToldApart (contents rescanned) ∧ rescanning.freshStory? 34 = none ∧
    rescanning.sources.get? 34 "a.ink" = some (Source.scan "a.ink" "== one" 20) ∧
    ((({ ttl := 15 } : Cache Int).run (rescanned.take 2)).add 20 "a.ink" "== one").value.scan =
      Source.scan "a.ink" "== one" 20 ∧
    "one" ∈ rescanning.allKnots 34 := by
  have hapart : ToldApart (contents rescanned) := by
    rw [ToldApart]
    decide +kernel
  have hlatest : Latest rescanned "a.ink" "== one" 20 := by
    refine ⟨rescanned.take 2, rescanned.drop 3, rfl, ?_⟩
    simp [rescanned, Cache.Request.Decides]
  obtain ⟨htold, -⟩ := sources_by_history (ε := Engine) 15 rescanned
  obtain ⟨hserved, hadded, hknots⟩ := htold hapart
  refine ⟨hapart, rfl, ?_, ?_, ?_⟩
  · exact (hserved 34 "a.ink" _).mpr ⟨"== one", 20, hlatest, by decide, rfl⟩
  · exact hadded _ (rescanned.drop 3) 20 "a.ink" "== one" rfl
  · refine ((hknots rescanning 34 rfl rfl).2 "one").mpr ?_
    exact ⟨"a.ink", "== one", 20, hlatest, by decide, by decide +kernel⟩

end Session
end KnotAtlas
