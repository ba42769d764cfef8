import KnotAtlas.Proofs.Atlas.Sources
import KnotAtlas.Proofs.Seconds
import KnotAtlas.Proofs.Settings.Lifetimes

/-!
When the caches of an atlas take what they hold for fresh. Scans and the graph that detection is
checked against are fresh while their age is below a lifetime, the compiled story is until a
lifetime is at or below its age; with lifetimes that were read these are the same, as long as each
is a number.
-/

namespace KnotAtlas

namespace Session

open Atlas (Request)

variable {ε σ : Type} [StoryEngine ε σ] {settings : Settings} {s t : Session} {now : Seconds}
  {readings : List Seconds}

/-- The caches of a session have the lifetimes of its settings. -/
structure Lasting (settings : Settings) (s : Session) : Prop where
  graph : s.atlas.layer.ttl = settings.staticTtl.span
  scans : s.atlas.sources.ttl = settings.sourceTtl.span
  story : s.atlas.compiledTtl = settings.compiledTtl.span

theorem Change.lifetimes_eq (h : Change s readings t) :
    t.atlas.layer.ttl = s.atlas.layer.ttl ∧ t.atlas.compiledTtl = s.atlas.compiledTtl := by
  cases h with
  | idle | scanned _ _ | noticed _ _ | cleared => exact ⟨rfl, rfl⟩
  | accepted now later _ _ source built _ hfull =>
      rw [Atlas.accept_value s.atlas now later hfull, Atlas.hold_eq]
      exact ⟨rfl, rfl⟩

theorem Lasting.step (h : Lasting settings s) (now : Seconds) (request : Request ε) :
    Lasting settings (s.step now request) := by
  obtain ⟨hgraph, hstory⟩ := (s.step_change now request).lifetimes_eq
  refine ⟨hgraph.trans h.graph, ?_, hstory.trans h.story⟩
  rw [step_sources]
  cases request.toCache? with
  | none => exact h.scans
  | some asked => exact (Source.Cache.run_ttl s.atlas.sources [(now, asked)]).trans h.scans

theorem Reached.lasting (h : Reached ε settings readings s) : Lasting settings s := by
  induction h with
  | start => exact ⟨rfl, rfl, rfl⟩
  | step now request _ ih => exact ih.step now request

theorem Reached.misfits_eq_none (h : Reached ε settings readings s) {p : Float → Prop}
    (htimed : settings.Timed p) (hnow : ∀ since ∈ readings, now.agree since = true) :
    (s.atlas.knotsMisfit? now).or (s.atlas.infoMisfit? now) = none ∧
      s.atlas.layer.checkFault? s.atlas.wrongStatic? now = none := by
  have hnumeric : s.atlas.settings.Numeric := by
    obtain ⟨⟨_, hgraph, -⟩, ⟨_, hscans, -⟩, ⟨_, hstory, -⟩⟩ := htimed
    rw [h.coherent.settings_eq]
    exact ⟨hgraph ▸ rfl, hscans ▸ rfl, hstory ▸ rfl⟩
  exact ⟨h.stamped.misfits_eq_none hnow hnumeric, h.stamped.checkFault?_eq_none hnow hnumeric⟩

/-- Something is fresh exactly while its age is below a lifetime, in both ways of asking. -/
structure FreshBelow (ttl age : Seconds) (fresh : Prop) : Prop where
  below : fresh ↔ age < ttl
  unreached : fresh ↔ ¬ttl ≤ age

theorem FreshBelow.of_lt {ttl age : Seconds} (hage : age.isNumber = true)
    (httl : ttl.isNumber = true) {fresh : Prop} (h : fresh ↔ age < ttl) :
    FreshBelow ttl age fresh :=
  ⟨h, h.trans (Seconds.lt_iff_not_le hage httl)⟩

theorem FreshBelow.of_not_le {ttl age : Seconds} (hage : age.isNumber = true)
    (httl : ttl.isNumber = true) {fresh : Prop} (h : fresh ↔ ¬ttl ≤ age) :
    FreshBelow ttl age fresh :=
  ⟨h.trans (Seconds.lt_iff_not_le hage httl).symm, h⟩

/-- What a cache of each kind holds is fresh exactly while its age is below the cache's lifetime. -/
structure FreshAlike (settings : Settings) (s : Session) (now : Seconds) : Prop where
  graph : ∀ kept since, s.atlas.layer.cached = some (kept, since) →
    (now - since).isNumber = true →
    FreshBelow settings.staticTtl.span (now - since) (s.atlas.layer.fresh? now = some kept)
  scans : ∀ path scan, s.atlas.sources.enabled = true →
    s.atlas.sources.entries.find? path = some scan → (now - scan.scannedAt).isNumber = true →
    FreshBelow settings.sourceTtl.span (now - scan.scannedAt)
      (s.atlas.sources.get? now path = some scan)
  story : ∀ compiled, s.atlas.compiled = some compiled →
    (now - compiled.compiledAt).isNumber = true →
    FreshBelow settings.compiledTtl.span (now - compiled.compiledAt)
      (s.atlas.freshStory? now = some compiled)

theorem Lasting.freshAlike (h : Lasting settings s)
    (hnumbers : ∀ ttl ∈ settings.lifetimes, ttl.span.isNumber = true) (now : Seconds) :
    FreshAlike settings s now := by
  simp only [Settings.lifetimes, List.forall_mem_cons] at hnumbers
  obtain ⟨hgraph, hscans, hstory, -⟩ := hnumbers
  refine ⟨?_, ?_, ?_⟩
  · intro kept since hcached hage
    refine .of_lt hage hgraph ?_
    rw [Validated.fresh?, hcached, h.graph]
    simp
  · intro path scan hon hfind hage
    refine .of_lt hage hscans ?_
    rw [Source.Cache.get?_eq_some_iff, hfind, h.scans]
    simp [hon]
  · intro compiled hcompiled hage
    refine .of_not_le hage hstory ?_
    rw [Atlas.freshStory?, hcompiled, h.story]
    simp

open Settings (Origin Environment readNumber)

/-- No lifetime that is read is below zero, and each can be compared with the ages of a session. It
is at least zero exactly if it is a number, and that it is unless a value that was given is read as
none; exactly then both ways of asking whether an age, itself a number, is below it say the same. So
if no value is read as none, what the caches hold is fresh in one sense for all of them. -/
theorem fresh_alike [Datum.ShowLimit] {φ : Type} {origin : Origin φ} {env : Environment}
    (h : origin.Gives env settings) :
    (∀ {readings : List Seconds} {s : Session}, Reached ε settings readings s → ∀ now : Seconds,
      (∀ since ∈ readings, now.agree since = true) →
        (s.atlas.knotsMisfit? now).or (s.atlas.infoMisfit? now) = none ∧
          s.atlas.layer.checkFault? s.atlas.wrongStatic? now = none) ∧
    (∀ ttl ∈ settings.lifetimes, ∃ x, ttl = .own x ∧ ¬x < 0 ∧ (0 ≤ x ↔ x.isNaN = false) ∧
      (x.isNaN = true → ∃ v ∈ origin.values env, ∃ name, readNumber name v = .ok x) ∧
      ∀ age : Seconds, age.isNumber = true → ((age < ttl.span ↔ ¬ttl.span ≤ age) ↔ 0 ≤ x)) ∧
    ((∀ v ∈ origin.values env, ∀ name x, readNumber name v = .ok x → x.isNaN = false) →
      (∀ ttl ∈ settings.lifetimes, ∃ x, ttl = .own x ∧ 0 ≤ x) ∧
      ∀ {readings : List Seconds} {s : Session}, Reached ε settings readings s →
        ∀ now, FreshAlike settings s now) := by
  have htimed := h.timed.forall_lifetimes
  refine ⟨fun hreached now hnow => hreached.misfits_eq_none h.timed hnow, fun ttl httl => ?_,
    fun hnumbers => ?_⟩
  · obtain ⟨x, rfl, hnonneg, hgiven⟩ := htimed ttl httl
    have hnumber : 0 ≤ x ↔ x.isNaN = false := Decimal.nonneg_iff hnonneg
    refine ⟨x, rfl, hnonneg, hnumber, hgiven, fun age hage => ?_⟩
    rw [hnumber, Seconds.lt_iff_not_le_iff hage]
    exact Iff.of_eq (Bool.not_eq_true' x.isNaN)
  · have hnan : ∀ ttl ∈ settings.lifetimes, ∃ x, ttl = .own x ∧ ¬x < 0 ∧ x.isNaN = false := by
      intro ttl httl
      obtain ⟨x, rfl, hnonneg, hgiven⟩ := htimed ttl httl
      refine ⟨x, rfl, hnonneg, Bool.eq_false_iff.mpr fun hnone => ?_⟩
      obtain ⟨v, hv, name, hread⟩ := hgiven hnone
      exact Bool.false_ne_true ((hnumbers v hv name x hread).symm.trans hnone)
    constructor
    · intro ttl httl
      obtain ⟨x, rfl, hnonneg, hnumber⟩ := hnan ttl httl
      exact ⟨x, rfl, (Decimal.nonneg_iff hnonneg).mpr hnumber⟩
    · intro readings s hreached now
      refine hreached.lasting.freshAlike (fun ttl httl => ?_) now
      obtain ⟨x, rfl, -, hnumber⟩ := hnan ttl httl
      exact congrArg not hnumber

/-- Lifetimes as a truth value and as texts. -/
def spelled : Origin Yaml.Fault :=
  .data [(.str "compiled_cache_ttl", .bool true), (.str "source_cache_ttl", .str " 1_0 ")]

/-- A lifetime without end. -/
def endless : Environment :=
  [("INKSCOPE_STATIC_CACHE_TTL", "+inf")]

/-- Lifetimes that are read as numbers make all caches of a new atlas alike. -/
theorem spelled_alike :
    ∃ settings, spelled.Gives endless settings ∧
      (∀ ttl ∈ settings.lifetimes, ∃ x, ttl = .own x ∧ 0 ≤ x) ∧
      ∀ now, FreshAlike settings ⟨Atlas.create settings, none⟩ now := by
  have hvalues : spelled.values endless = [.bool true, .str " 1_0 ", .str "+inf"] := rfl
  have htexts : ∀ text ∈ [" 1_0 ", "+inf"],
      (Decimal.ofText? text).any (·.isNaN) = false := by decide
  have hnumbers : ∀ v ∈ spelled.values endless, ∀ name x, readNumber name v = .ok x →
      x.isNaN = false := by
    have htext : ∀ text ∈ [" 1_0 ", "+inf"], ∀ name x, readNumber name (.str text) = .ok x →
        x.isNaN = false := by
      intro text hmem name x hread
      have hany := htexts text hmem
      rw [Settings.ofText?_of_readNumber hread] at hany
      exact hany
    simp only [hvalues, List.forall_mem_cons]
    refine ⟨?_, htext _ (by decide), htext _ (by decide), fun _ hnone => (by cases hnone)⟩
    rintro name x ⟨⟩
    decide
  refine ⟨_, rfl, ?_⟩
  obtain ⟨-, -, hread⟩ := fresh_alike (ε := Engine) (show spelled.Gives endless _ from rfl)
  obtain ⟨hnonneg, halike⟩ := hread hnumbers
  exact ⟨hnonneg, halike .start⟩

/-- A lifetime that is no number. -/
def unmeasured : Origin Yaml.Fault :=
  .data [(.str "compiled_cache_ttl", .str "nan")]

theorem unmeasured_lifetime :
    ∃ settings x, unmeasured.Gives [] settings ∧ settings.compiledTtl = .own x ∧ ¬0 ≤ x ∧
      ∀ age : Seconds, ¬age < settings.compiledTtl.span ∧ ¬settings.compiledTtl.span ≤ age := by
  refine ⟨_, _, rfl, rfl, by decide, fun age => Seconds.incomparable ?_⟩
  decide

end Session
end KnotAtlas
