import KnotAtlas.Proofs.Atlas.Sources
import KnotAtlas.Proofs.Source.Placement

/-!
Where an atlas says that a knot is declared. Every scan that it keeps is the scan of its own
content, so the file that is named lists the knot; the line is looked for in that content, and is
that of the first declaration if the content has no line ends but line feeds.
-/

namespace KnotAtlas

namespace Source

variable {τ : Type}

/-- Whether a scan is what its content gives. -/
def Scan.Genuine (s : Scan τ) : Prop :=
  s = scan s.path s.content s.scannedAt

theorem Scan.Genuine.knots_eq {s : Scan τ} (h : s.Genuine) : s.knots = Source.knots s.content := by
  rw [h]
  rfl

theorem genuine_scan (path content : String) (now : τ) : (scan path content now).Genuine := rfl

/-- Whether all that a cache holds are scans of their contents. -/
def Cache.Genuine (c : Cache τ) : Prop :=
  ∀ entry ∈ c.entries, entry.2.Genuine

namespace Cache

variable {c : Cache τ}

theorem Genuine.put (h : c.Genuine) {s : Scan τ} (hs : s.Genuine) (path : String) :
    (c.put path s).Genuine := by
  intro entry hentry
  obtain hold | rfl := OrderedMap.mem_insert hentry
  · exact h entry hold
  · exact hs

theorem Genuine.step (h : c.Genuine) (now : τ) (request : Request) :
    (c.step now request).Genuine := by
  cases request with
  | add path content =>
      rw [Cache.step, add]
      split
      · -- content that is there already keeps its scan, as of now
        rename_i previous hprevious
        obtain ⟨hfind, -⟩ := Option.filter_eq_some_iff.mp hprevious
        have hgenuine : previous.Genuine := h _ (OrderedMap.mem_of_find? hfind)
        refine h.put ?_ path
        rw [hgenuine]
        exact genuine_scan ..
      · dsimp only
        split
        · exact h.put (genuine_scan ..) path
        · exact h
  | remove path => exact fun entry hentry => h entry (List.mem_filter.mp hentry).1
  | clear => exact fun _ hentry => absurd hentry List.not_mem_nil

theorem Genuine.of_served [Sub τ] [LT τ] [DecidableRel (fun a b : τ => a < b)] (h : c.Genuine)
    {now : τ} {s : Scan τ} (hs : s ∈ c.served now) : s.Genuine := by
  obtain ⟨hmem, -⟩ := List.mem_filter.mp hs
  obtain ⟨entry, hentry, rfl⟩ := List.mem_map.mp hmem
  exact h entry hentry

end Cache
end Source

namespace Atlas

variable {a : Atlas Seconds} {now : Seconds} {knot : String}

theorem knotInfo_of_unlisted (h : ∀ scan ∈ a.freshSources now, knot ∉ scan.knots) :
    (a.knotInfo now knot).filePath = none ∧ (a.knotInfo now knot).lineNumber = none := by
  have hnone : a.declaration? now knot = none :=
    List.find?_eq_none.mpr fun scan hscan => by simpa using h scan hscan
  simp only [knotInfo, hnone, Option.map_none, Option.bind_none, and_self]

/-- The first fresh file that lists a knot is where it is declared. -/
theorem knotInfo_of_listed {earlier later : List (Source.Scan Seconds)}
    {scan : Source.Scan Seconds} (hfresh : a.freshSources now = earlier ++ scan :: later)
    (hearlier : ∀ other ∈ earlier, knot ∉ other.knots) (hscan : knot ∈ scan.knots) :
    (a.knotInfo now knot).filePath = some scan.path ∧
      (a.knotInfo now knot).lineNumber = Source.knotLine? scan.content knot := by
  have hsome : a.declaration? now knot = some scan := by
    refine List.find?_eq_some_iff_append.mpr ⟨decide_eq_true hscan, earlier, later, hfresh, ?_⟩
    intro other hother
    simpa using hearlier other hother
  simp only [knotInfo, hsome, Option.map_some, Option.bind_some, and_self]

end Atlas

namespace Session

open Source (FirstDeclaration knotLine?)
open Text (FeedsOnly feedEnds lineFeeds)

variable {ε σ : Type} [StoryEngine ε σ] {settings : Settings} {s : Session}
  {readings : List Seconds}

theorem Reached.genuine (h : Reached ε settings readings s) : s.atlas.sources.Genuine := by
  induction h with
  | start => exact fun _ hentry => absurd hentry List.not_mem_nil
  | step now request _ ih =>
      rw [step_sources]
      cases request.toCache? with
      | none => exact ih
      | some asked => exact ih.step now asked

/-- The line that is told of a knot is that of its first declaration once every line end of the text
is a line feed. So in a text with no other line ends, a knot has a line exactly if it is listed, and
that is the line of the first declaration; an atlas then tells it of the first fresh file that lists
the knot, and tells no line of a knot that no file lists. -/
theorem line_of_declaration :
    (∀ content knot : String,
      (knot ∈ Source.knots content ↔
        ∃ before line after, FirstDeclaration content.toList knot before line after) ∧
      (∀ n, knotLine? content knot = some n ↔
        ∃ before line after, FirstDeclaration (feedEnds content.toList) knot before line after ∧
          n = 1 + lineFeeds before) ∧
      (FeedsOnly content.toList →
        ((knotLine? content knot).isSome ↔ knot ∈ Source.knots content) ∧
        ∀ before line after, FirstDeclaration content.toList knot before line after →
          knotLine? content knot = some (1 + lineFeeds before))) ∧
    ∀ {settings : Settings} {readings : List Seconds} {s : Session},
      Reached ε settings readings s → ∀ now knot,
      let info := s.atlas.knotInfo now knot
      (settings.Numeric → (∀ since ∈ readings, now.agree since = true) →
        s.atlas.infoMisfit? now = none) ∧
      ((∀ scan ∈ s.atlas.freshSources now, knot ∉ scan.knots) →
        info.filePath = none ∧ info.lineNumber = none) ∧
      ∀ earlier scan later, s.atlas.freshSources now = earlier ++ scan :: later →
        (∀ other ∈ earlier, knot ∉ other.knots) → knot ∈ scan.knots →
        info.filePath = some scan.path ∧ info.lineNumber = knotLine? scan.content knot ∧
        (FeedsOnly scan.content.toList →
          ∃ before line after, FirstDeclaration scan.content.toList knot before line after ∧
            info.lineNumber = some (1 + lineFeeds before)) := by
  constructor
  · intro content knot
    refine ⟨Source.mem_knots_iff_first, fun n => Source.knotLine?_eq_some_iff, fun hfeeds => ?_⟩
    refine ⟨Source.isSome_knotLine?_iff hfeeds, fun before line after hfirst => ?_⟩
    exact hfirst.knotLine?_eq hfeeds
  · intro settings readings s h now knot info
    refine ⟨?_, ?_, ?_⟩
    · intro hnumeric hnow
      have hfits : s.atlas.settings.Numeric := h.coherent.settings_eq ▸ hnumeric
      exact (Option.or_eq_none_iff.mp (h.stamped.misfits_eq_none hnow hfits)).2
    · exact Atlas.knotInfo_of_unlisted
    · intro earlier scan later hfresh hearlier hscan
      obtain ⟨hpath, hline⟩ := Atlas.knotInfo_of_listed hfresh hearlier hscan
      refine ⟨hpath, hline, fun hfeeds => ?_⟩
      have hserved : scan ∈ s.atlas.sources.served now := by
        rw [show s.atlas.sources.served now = _ from hfresh]
        exact List.mem_append_right earlier (.head later)
      rw [(h.genuine.of_served hserved).knots_eq] at hscan
      obtain ⟨before, line, after, hfirst⟩ := Source.mem_knots_iff_first.mp hscan
      exact ⟨before, line, after, hfirst, hline.trans (hfirst.knotLine?_eq hfeeds)⟩

/-- A text whose lines end with a carriage return and a line feed. -/
def returnedLines : String :=
  "one\r\n== B(x) == // two\r\n== A ==\r\n"

/-- A file with this text is added. -/
def placement : List (Seconds × Atlas.Request Engine) :=
  [(.whole 10, .addSource "a.ink" returnedLines)]

/-- The session that this leads to. -/
def placing : Session :=
  (⟨Atlas.create {}, none⟩ : Session).run placement

/-- The second knot of the file is told where its first declaration stands. -/
theorem placing_lines :
    Reached Engine {} [.whole 10] placing ∧ FeedsOnly returnedLines.toList ∧
    (placing.atlas.knotInfo (.whole 20) "A").filePath = some "a.ink" ∧
    (placing.atlas.knotInfo (.whole 20) "A").lineNumber = some 3 ∧
    (placing.atlas.knotInfo (.whole 20) "A").lineNumber =
      some (1 + lineFeeds "one\r\n== B(x) == // two\r\n".toList) := by
  have hreached : Reached Engine {} [.whole 10] placing := Reached.start.run placement
  have hfeeds : FeedsOnly returnedLines.toList := by decide
  obtain ⟨scan, hfresh, hscan⟩ : ∃ scan, placing.atlas.freshSources (.whole 20) = [scan] ∧
      (scan.path, scan.content, scan.knots) = ("a.ink", returnedLines, ["B", "A"]) :=
    List.map_eq_singleton_iff.mp (by decide)
  obtain ⟨hpath, hcontent, hknots⟩ : scan.path = _ ∧ scan.content = _ ∧ scan.knots = _ := by
    simpa only [Prod.mk.injEq] using hscan
  obtain ⟨hcontents, hsessions⟩ := line_of_declaration (ε := Engine)
  obtain ⟨-, -, hlisted⟩ := hsessions hreached (.whole 20) "A"
  obtain ⟨hfile, hline, -⟩ := hlisted [] scan [] hfresh (by simp) (by simp [hknots])
  have hfirst : Source.FirstDeclaration returnedLines.toList "A"
      "one\r\n== B(x) == // two\r\n".toList "== A ==\r".toList "\n".toList := by
    refine ⟨⟨by decide, by decide, by decide, by decide⟩, ?_, ?_⟩
    · exact Source.nameOnLine?_eq_some_iff.mp (by decide)
    · decide
  have hplace := ((hcontents returnedLines "A").2.2 hfeeds).2 _ _ _ hfirst
  rw [hcontent, hplace] at hline
  exact ⟨hreached, hfeeds, hpath ▸ hfile, hline.trans (by decide), hline⟩

/-- A text with line separators, one of them between parentheses. -/
def strayEnds : String :=
  "one\u2028== B ==\n== A ==\n== C(x\u2028y) =="

/-- Another line end moves a knot to a later line, hides a declaration that it stands in, and shows
one that no line declares. -/
theorem strayEnds_misplaced :
    Source.knots strayEnds = ["A", "C"] ∧
    (∃ before line after, FirstDeclaration strayEnds.toList "A" before line after ∧
      knotLine? strayEnds "A" ≠ some (1 + lineFeeds before)) ∧
    knotLine? strayEnds "C" = none ∧ knotLine? strayEnds "B" = some 2 := by
  refine ⟨by decide, ?_, by decide, by decide⟩
  refine ⟨"one\u2028== B ==\n".toList, "== A ==".toList, "\n== C(x\u2028y) ==".toList, ?_, ?_⟩
  · refine ⟨⟨by decide, by decide, by decide, by decide⟩, ?_, ?_⟩
    · exact Source.nameOnLine?_eq_some_iff.mp (by decide)
    · decide
  · decide

end Session
end KnotAtlas
