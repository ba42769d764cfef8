import KnotAtlas.Proofs.Atlas.Sources
import KnotAtlas.Proofs.Integrity.Verdict
import KnotAtlas.Proofs.Story.Independence
import KnotAtlas.Proofs.Text.Lowercase

/-!
What a search finds. The knots that match a query are among the known ones and stand in one order
that the query and their names determine: those that are the query, those that start with it, and
the others, letters of either case being alike. So nothing hangs on the order in which files were
added or in which a story lists its knots.
-/

namespace KnotAtlas

namespace Atlas

section Ranks

variable {query name : String}

/-- Whether a name holds a query, letters of either case being alike. -/
def Matches (query name : String) : Prop :=
  (Text.lower query).toList <:+: (Text.lower name).toList

theorem matchRank_of_eq (h : Text.lower name = query) : matchRank query name = 0 :=
  if_pos h

theorem matchRank_of_start (hne : Text.lower name ≠ query)
    (h : query.toList <+: (Text.lower name).toList) : matchRank query name = 1 :=
  (if_neg hne).trans (if_pos (String.startsWith_string_iff.mpr h))

theorem matchRank_of_not_start (h : ¬query.toList <+: (Text.lower name).toList) :
    matchRank query name = 2 := by
  have hne : Text.lower name ≠ query := by
    rintro rfl
    exact h (List.prefix_refl _)
  exact (if_neg hne).trans (if_neg (mt String.startsWith_string_iff.mp h))

theorem matchRank_cases (query name : String) :
    (matchRank query name = 0 ∧ Text.lower name = query) ∨
    (matchRank query name = 1 ∧ Text.lower name ≠ query ∧
      query.toList <+: (Text.lower name).toList) ∨
    (matchRank query name = 2 ∧ ¬query.toList <+: (Text.lower name).toList) := by
  by_cases heq : Text.lower name = query
  · exact .inl ⟨matchRank_of_eq heq, heq⟩
  · by_cases hstart : query.toList <+: (Text.lower name).toList
    · exact .inr (.inl ⟨matchRank_of_start heq hstart, heq, hstart⟩)
    · exact .inr (.inr ⟨matchRank_of_not_start hstart, hstart⟩)

end Ranks

/-- The names among the known ones that match a query: those that are the query, those that start
with it, and the others, each group in order of characters. -/
structure Ranked (known : List String) (query : String) (names : List String) : Prop where
  mem_iff : ∀ name, name ∈ names ↔ name ∈ known ∧ Matches query name
  groups : ∃ whole starting others, names = whole ++ starting ++ others ∧
    (∀ name ∈ whole, Text.lower name = Text.lower query) ∧
    (∀ name ∈ starting, Text.lower name ≠ Text.lower query ∧
      (Text.lower query).toList <+: (Text.lower name).toList) ∧
    (∀ name ∈ others, ¬(Text.lower query).toList <+: (Text.lower name).toList) ∧
    whole.Pairwise (· < ·) ∧ starting.Pairwise (· < ·) ∧ others.Pairwise (· < ·)

/-- A name comes before another in the answer to a query. -/
def Outranks (query a b : String) : Prop :=
  matchRank query a < matchRank query b ∨ matchRank query a = matchRank query b ∧ a < b

theorem Outranks.asymm {query a b : String} (h : Outranks query a b) : ¬Outranks query b a := by
  rintro (hlt | ⟨heq, hlt⟩)
  · obtain hlt' | ⟨heq', -⟩ := h
    · omega
    · omega
  · obtain hlt' | ⟨-, hlt'⟩ := h
    · omega
    · exact String.lt_asymm hlt hlt'

section Sorting

variable {known names : List String} {query : String}

theorem mem_searchNames_iff {name : String} :
    name ∈ searchNames known query ↔ name ∈ known ∧ Matches query name := by
  rw [searchNames, List.mem_mergeSort, List.mem_filter, Integrity.occursIn_eq_true_iff]
  rfl

theorem nodup_searchNames (h : known.Nodup) : (searchNames known query).Nodup :=
  List.nodup_mergeSort.mpr (h.filter _)

theorem matchBefore_iff {a b : String} :
    matchBefore query a b = true ↔
      matchRank query a < matchRank query b ∨ matchRank query a = matchRank query b ∧ a ≤ b := by
  simp [matchBefore]

theorem pairwise_matchBefore (query : String) (names : List String) :
    (names.mergeSort (matchBefore query)).Pairwise fun a b => matchBefore query a b = true := by
  apply List.pairwise_mergeSort
  · intro a b c hab hbc
    rw [matchBefore_iff] at hab hbc ⊢
    obtain hab | ⟨hab, hle⟩ := hab
    · omega
    · obtain hbc | ⟨hbc, hle'⟩ := hbc
      · omega
      · exact .inr ⟨hab.trans hbc, String.le_trans hle hle'⟩
  · intro a b
    rw [Bool.or_eq_true, matchBefore_iff, matchBefore_iff]
    obtain hlt | heq | hlt := Nat.lt_trichotomy (matchRank query a) (matchRank query b)
    · exact .inl (.inl hlt)
    · exact (String.le_total a b).imp (fun hle => .inr ⟨heq, hle⟩) fun hle => .inr ⟨heq.symm, hle⟩
    · exact .inr (.inl hlt)

/-- Names that stand once are sorted strictly. -/
theorem pairwise_searchNames (h : known.Nodup) (query : String) :
    (searchNames known query).Pairwise (Outranks (Text.lower query)) := by
  have hsorted := pairwise_matchBefore (Text.lower query) (known.filter fun name =>
    Integrity.occursIn (Text.lower query).toList (Text.lower name).toList)
  refine (hsorted.and (nodup_searchNames h)).imp fun {a b} ⟨hbefore, hne⟩ => ?_
  obtain hlt | ⟨heq, hle⟩ := matchBefore_iff.mp hbefore
  · exact .inl hlt
  · exact .inr ⟨heq, Decidable.byContradiction fun hlt => hne (String.le_antisymm hle hlt)⟩

end Sorting

/-- A list in order of ranks is cut where a rank is reached. -/
theorem cut_at_rank {α : Type} {rank : α → Nat} {items : List α}
    (h : items.Pairwise fun a b => rank a ≤ rank b) (n : Nat) :
    ∃ low high, items = low ++ high ∧ (∀ a ∈ low, rank a < n) ∧ ∀ a ∈ high, n ≤ rank a := by
  induction items with
  | nil => exact ⟨[], [], rfl, by simp, by simp⟩
  | cons a rest ih =>
      obtain ⟨ha, hrest⟩ := List.pairwise_cons.mp h
      by_cases hlow : rank a < n
      · obtain ⟨low, high, rfl, hless, hmore⟩ := ih hrest
        exact ⟨a :: low, high, rfl, List.forall_mem_cons.mpr ⟨hlow, hless⟩, hmore⟩
      · have hreached : n ≤ rank a := Nat.le_of_not_lt hlow
        refine ⟨[], a :: rest, rfl, by simp, List.forall_mem_cons.mpr ⟨hreached, fun b hb => ?_⟩⟩
        exact Nat.le_trans hreached (ha b hb)

section Ranked

variable {known other names names' : List String} {query : String}

theorem searchNames_ranked (h : known.Nodup) (query : String) :
    Ranked known query (searchNames known query) := by
  have hcases := matchRank_cases (Text.lower query)
  have hstrict := pairwise_searchNames h query
  have hranks : (searchNames known query).Pairwise fun a b =>
      matchRank (Text.lower query) a ≤ matchRank (Text.lower query) b :=
    hstrict.imp fun hab => hab.elim Nat.le_of_lt fun heq => Nat.le_of_eq heq.1
  have hgroup : ∀ {group : List String} {r : Nat}, group.Sublist (searchNames known query) →
      (∀ name ∈ group, matchRank (Text.lower query) name = r) → group.Pairwise (· < ·) := by
    intro group r hgroup hr
    refine (hstrict.sublist hgroup).imp_of_mem fun {a b} ha hb hab => ?_
    obtain hlt | ⟨-, hlt⟩ := hab
    · exact absurd ((hr a ha).trans (hr b hb).symm) (Nat.ne_of_lt hlt)
    · exact hlt
  -- First the names of rank 2 are cut off, then those of rank 1.
  obtain ⟨low, others, hnames, hlow, hothers⟩ := cut_at_rank hranks 2
  have hlowest : low.Sublist (searchNames known query) := hnames ▸ List.sublist_append_left ..
  obtain ⟨whole, starting, rfl, hwhole, hstarting⟩ := cut_at_rank (hranks.sublist hlowest) 1
  have hzero : ∀ name ∈ whole, matchRank (Text.lower query) name = 0 ∧
      Text.lower name = Text.lower query := by
    intro name hname
    have hlt := hwhole name hname
    obtain hfound | ⟨hrank, -⟩ | ⟨hrank, -⟩ := hcases name
    · exact hfound
    · omega
    · omega
  have hone : ∀ name ∈ starting, matchRank (Text.lower query) name = 1 ∧
      Text.lower name ≠ Text.lower query ∧
      (Text.lower query).toList <+: (Text.lower name).toList := by
    intro name hname
    have hle := hstarting name hname
    have hlt := hlow name (List.mem_append_right _ hname)
    obtain ⟨hrank, -⟩ | hfound | ⟨hrank, -⟩ := hcases name
    · omega
    · exact hfound
    · omega
  have htwo : ∀ name ∈ others, matchRank (Text.lower query) name = 2 ∧
      ¬(Text.lower query).toList <+: (Text.lower name).toList := by
    intro name hname
    have hle := hothers name hname
    obtain ⟨hrank, -⟩ | ⟨hrank, -⟩ | hfound := hcases name
    · omega
    · omega
    · exact hfound
  refine ⟨fun name => mem_searchNames_iff, whole, starting, others, hnames, ?_, ?_, ?_, ?_, ?_, ?_⟩
  · exact fun name hname => (hzero name hname).2
  · exact fun name hname => (hone name hname).2
  · exact fun name hname => (htwo name hname).2
  · exact hgroup ((List.sublist_append_left ..).trans hlowest) fun name hname => (hzero name hname).1
  · exact hgroup ((List.sublist_append_right ..).trans hlowest) fun name hname => (hone name hname).1
  · exact hgroup (hnames ▸ List.sublist_append_right ..) fun name hname => (htwo name hname).1

theorem Ranked.pairwise (h : Ranked known query names) :
    names.Pairwise (Outranks (Text.lower query)) := by
  obtain ⟨whole, starting, others, rfl, hwhole, hstarting, hothers, hw, hs, ho⟩ := h.groups
  have hzero := fun name hname => matchRank_of_eq (hwhole name hname)
  have hone := fun name hname =>
    matchRank_of_start (hstarting name hname).1 (hstarting name hname).2
  have htwo := fun name hname => matchRank_of_not_start (hothers name hname)
  have hgroup : ∀ {group : List String} {r : Nat},
      (∀ name ∈ group, matchRank (Text.lower query) name = r) → group.Pairwise (· < ·) →
        group.Pairwise (Outranks (Text.lower query)) := fun hr hsorted =>
    hsorted.imp_of_mem fun ha hb hlt => .inr ⟨(hr _ ha).trans (hr _ hb).symm, hlt⟩
  have hbetween : ∀ {earlier later : List String} {i j : Nat}, i < j →
      (∀ name ∈ earlier, matchRank (Text.lower query) name = i) →
      (∀ name ∈ later, matchRank (Text.lower query) name = j) →
        ∀ a ∈ earlier, ∀ b ∈ later, Outranks (Text.lower query) a b := fun hij hi hj a ha b hb =>
    .inl (by rwa [hi a ha, hj b hb])
  refine List.pairwise_append.mpr ⟨List.pairwise_append.mpr ⟨?_, ?_, ?_⟩, ?_, ?_⟩
  · exact hgroup hzero hw
  · exact hgroup hone hs
  · exact hbetween (by decide) hzero hone
  · exact hgroup htwo ho
  · rw [List.forall_mem_append]
    exact ⟨hbetween (by decide) hzero htwo, hbetween (by decide) hone htwo⟩

theorem Ranked.nodup (h : Ranked known query names) : names.Nodup :=
  h.pairwise.imp fun hab heq => by
    subst heq
    exact hab.asymm hab

/-- Which names are known determines the answer, whatever their order. -/
theorem Ranked.eq (h : Ranked known query names) (h' : Ranked other query names')
    (hsame : ∀ name, name ∈ known ↔ name ∈ other) : names = names' := by
  have hperm : names.Perm names' := by
    refine (List.perm_ext_iff_of_nodup h.nodup h'.nodup).mpr fun name => ?_
    rw [h.mem_iff, h'.mem_iff, hsame]
  exact hperm.eq_of_pairwise (fun _ _ _ _ hab hba => absurd hba hab.asymm) h.pairwise h'.pairwise

end Ranked

/-! ### Which knots are known -/

/-- Where one item at most is looked for, the order of the items does not count. -/
theorem find?_eq_of_perm {α : Type} {p : α → Bool} {items others : List α}
    (h : others.Perm items) (hone : ∀ a ∈ items, ∀ b ∈ items, p a = true → p b = true → a = b) :
    others.find? p = items.find? p := by
  cases hfound : items.find? p with
  | none =>
      rw [List.find?_eq_none] at hfound ⊢
      exact fun a ha => hfound a (h.mem_iff.mp ha)
  | some a =>
      have ha := List.mem_of_find?_eq_some hfound
      have hp := List.find?_some hfound
      have hsome : (others.find? p).isSome := List.find?_isSome.mpr ⟨a, h.mem_iff.mpr ha, hp⟩
      obtain ⟨b, hb⟩ := Option.isSome_iff_exists.mp hsome
      have hmem := h.mem_iff.mp (List.mem_of_find?_eq_some hb)
      rw [hb, hone b hmem a ha (List.find?_some hb) hp]

variable {ε σ : Type} [StoryEngine ε σ]

/-- A story that is handed over decoded is a tree of objects without repeated keys. -/
def Request.DistinctKeys : Request ε → Prop
  | .setStory source _ => source.DistinctKeys
  | .addSource _ _ | .removeSource _ | .clear | .currentKnot _ | .afterChoice _ _ _ _
  | .record _ => True

section Known

variable {a b : Atlas Seconds} {now later : Seconds}

/-- The story that is held after one was handed over was held before, or is the one handed over. -/
theorem compiled_afterStory {source : Story.Source} {story : CompiledStory Seconds}
    (h : (a.afterStory now later source).compiled = some story) :
    a.compiled = some story ∨
      ∃ built, source.build.value = .ok built ∧ story = CompiledStory.ofBuilt now built := by
  obtain ⟨-, -, hafter⟩ | ⟨built, hbuild, hfull, -, -, hafter⟩ := a.handed_cases now later source
  · exact .inl (hafter ▸ h)
  · rw [hafter, accept_value a now later hfull] at h
    change (a.hold _).compiled = some story at h
    rw [compiled_hold] at h
    split at h
    · cases h
      exact .inr ⟨built, hbuild, rfl⟩
    · exact .inl h

theorem nodup_allKnots (h : ∀ story, a.compiled = some story → story.knots.Nodup) :
    (a.allKnots now).Nodup := by
  rw [allKnots]
  split
  · rename_i story hfresh
    exact h story (Option.filter_eq_some_iff.mp hfresh).1
  · refine List.Pairwise.imp (fun {a b} hlt => ?_) (pairwise_sortedNames _)
    rintro rfl
    exact String.lt_irrefl a hlt

theorem names_search (a : Atlas Seconds) (now : Seconds) (query : String) :
    (a.search now query).map (·.name) = searchNames (a.allKnots now) query := by
  rw [search, List.map_map]
  exact List.map_id _

/-- With the same story, the same files in another order tell the same of a knot that one of them
at most declares. -/
theorem knotInfo_eq_of_perm {knot : String} (hstory : b.freshStory? now = a.freshStory? now)
    (hfiles : (b.freshSources now).Perm (a.freshSources now))
    (hone : ∀ one ∈ a.freshSources now, ∀ other ∈ a.freshSources now,
      knot ∈ one.knots → knot ∈ other.knots → one = other) :
    b.knotInfo now knot = a.knotInfo now knot := by
  have hsame : b.declaration? now knot = a.declaration? now knot := by
    refine find?_eq_of_perm hfiles fun one hone' other hother h h' => ?_
    exact hone one hone' other hother (of_decide_eq_true h) (of_decide_eq_true h')
  simp only [knotInfo, hsame, hstory]

theorem mem_allKnots_of_perm {knot : String} (hstory : b.freshStory? now = a.freshStory? now)
    (hfiles : (b.freshSources now).Perm (a.freshSources now)) :
    knot ∈ b.allKnots now ↔ knot ∈ a.allKnots now := by
  rw [allKnots, allKnots, hstory]
  split
  · rfl
  · rw [mem_sortedNames_iff, mem_sortedNames_iff]
    exact (hfiles.flatMap_right _).mem_iff

end Known

end Atlas

namespace Session

open Atlas (Request Ranked)

variable {ε σ : Type} [StoryEngine ε σ] {settings : Settings} {s : Session}
  {readings : List Seconds}

/-- The sessions that requests lead to if no object in a story repeats a key. -/
inductive ReachedByTrees (ε : Type) {σ : Type} [StoryEngine ε σ] (settings : Settings) :
    List Seconds → Session → Prop where
  | start : ReachedByTrees ε settings [] ⟨Atlas.create settings, none⟩
  | step {readings : List Seconds} {s : Session} (now : Seconds) (request : Request ε)
      (hkeys : request.DistinctKeys) (h : ReachedByTrees ε settings readings s) :
      ReachedByTrees ε settings (request.readings now ++ readings) (s.step now request)

theorem ReachedByTrees.reached (h : ReachedByTrees ε settings readings s) :
    Reached ε settings readings s := by
  induction h with
  | start => exact .start
  | step now request _ _ ih => exact ih.step now request

theorem ReachedByTrees.run (h : ReachedByTrees ε settings readings s)
    {requests : List (Seconds × Request ε)}
    (hkeys : ∀ request ∈ requests, request.2.DistinctKeys) :
    ReachedByTrees ε settings
      (requests.foldl (fun before request => request.2.readings request.1 ++ before) readings)
      (s.run requests) := by
  induction requests generalizing readings s with
  | nil => exact h
  | cons request rest ih =>
      obtain ⟨hfirst, hrest⟩ := List.forall_mem_cons.mp hkeys
      exact ih (h.step request.1 request.2 hfirst) hrest

/-- The story that a session holds after a request was held before, or was handed over just now. -/
theorem compiled_step {now : Seconds} {request : Request ε} {story : CompiledStory Seconds}
    (h : (s.step now request).atlas.compiled = some story) :
    s.atlas.compiled = some story ∨ ∃ source later built, request = .setStory source later ∧
      source.build.value = .ok built ∧ story = CompiledStory.ofBuilt now built := by
  cases request with
  | addSource path content => exact .inl h
  | removeSource path => exact .inl h
  | clear => cases h
  | setStory source later =>
      rw [step, setStory_eq] at h
      obtain hold | ⟨built, hbuild, rfl⟩ := Atlas.compiled_afterStory h
      · exact .inl hold
      · exact .inr ⟨source, later, built, rfl, hbuild, rfl⟩
  | currentKnot e =>
      obtain ⟨last, hlast⟩ := s.atlas.tryCurrentKnot_atlas now e
      rw [step, hlast] at h
      exact .inl h
  | afterChoice e knot index verified =>
      obtain ⟨last, hlast⟩ := s.atlas.tryAfterChoice_atlas now e knot index verified
      rw [step, hlast] at h
      exact .inl h
  | record e =>
      obtain ⟨last, trail, hlast⟩ := s.atlas.tryRecord_atlas now e
      rw [step, hlast] at h
      exact .inl h

theorem ReachedByTrees.nodup_compiled (h : ReachedByTrees ε settings readings s) :
    ∀ story, s.atlas.compiled = some story → story.knots.Nodup := by
  induction h with
  | start => exact fun _ hnone => by cases hnone
  | step now request hkeys _ ih =>
      intro story hstory
      obtain hold | ⟨source, later, built, rfl, hbuild, rfl⟩ := compiled_step hstory
      · exact ih story hold
      · exact Story.nodup_knots_build hkeys hbuild

theorem Reached.searchMisfit?_eq_none (h : Reached ε settings readings s)
    (hnumeric : settings.Numeric) {now : Seconds}
    (hnow : ∀ since ∈ readings, now.agree since = true) (query : String) :
    s.atlas.searchMisfit? now query = none := by
  have hfits : s.atlas.settings.Numeric := h.coherent.settings_eq ▸ hnumeric
  have hmisfits := h.stamped.misfits_eq_none hnow hfits
  obtain ⟨hknots, hinfo⟩ := Option.or_eq_none_iff.mp hmisfits
  rw [Atlas.searchMisfit?, hknots, hinfo, ite_self]
  rfl

/-- In every session, a search gives each known knot once whose name holds the query, and no other,
with what is known of it: first the names that are the query, then those that start with it, then
the others, each group in order of characters. Two sessions that know the same knots find the same
ones in the same order, wherever they know them from; and what is told of them is the same too if
the story is the same, the fresh files are the same in some order, and no two of them declare a knot
that is found. -/
theorem search_ranked (h : ReachedByTrees ε settings readings s) (now : Seconds) (query : String) :
    let found := s.atlas.search now query
    let names := found.map (·.name)
    (settings.Numeric → (∀ since ∈ readings, now.agree since = true) →
      s.atlas.searchMisfit? now query = none) ∧
    found = names.map (s.atlas.knotInfo now) ∧ names.Nodup ∧
    Ranked (s.atlas.allKnots now) query names ∧
    ∀ {others : Settings} {later : List Seconds} {t : Session},
      ReachedByTrees ε others later t →
      (∀ sometime, (∀ knot, knot ∈ t.atlas.allKnots sometime ↔ knot ∈ s.atlas.allKnots now) →
        (t.atlas.search sometime query).map (·.name) = names) ∧
      (t.atlas.freshStory? now = s.atlas.freshStory? now →
        (t.atlas.freshSources now).Perm (s.atlas.freshSources now) →
        (∀ knot ∈ names, ∀ one ∈ s.atlas.freshSources now, ∀ other ∈ s.atlas.freshSources now,
          knot ∈ one.knots → knot ∈ other.knots → one = other) →
        t.atlas.search now query = found) := by
  have hranked : ∀ {others : Settings} {later : List Seconds} {t : Session},
      ReachedByTrees ε others later t → ∀ now,
        Ranked (t.atlas.allKnots now) query (Atlas.searchNames (t.atlas.allKnots now) query) :=
    fun ht now => Atlas.searchNames_ranked (Atlas.nodup_allKnots ht.nodup_compiled) query
  intro found names
  have hfound : names = Atlas.searchNames (s.atlas.allKnots now) query := Atlas.names_search ..
  refine ⟨?_, ?_, ?_, ?_, fun {others later t} ht => ?_⟩
  · exact fun hnumeric hnow => h.reached.searchMisfit?_eq_none hnumeric hnow query
  · rw [hfound]
    rfl
  · rw [hfound]
    exact (hranked h now).nodup
  · rw [hfound]
    exact hranked h now
  · have hsame : ∀ sometime,
        (∀ knot, knot ∈ t.atlas.allKnots sometime ↔ knot ∈ s.atlas.allKnots now) →
          Atlas.searchNames (t.atlas.allKnots sometime) query = names := fun sometime hknown =>
      ((hranked ht sometime).eq (hranked h now) hknown).trans hfound.symm
    refine ⟨fun sometime hknown => Atlas.names_search .. |>.trans (hsame sometime hknown), ?_⟩
    intro hstory hfiles hone
    have hknown := hsame now fun knot => Atlas.mem_allKnots_of_perm hstory hfiles
    rw [show found = names.map (s.atlas.knotInfo now) from hfound ▸ rfl, Atlas.search, hknown]
    exact List.map_congr_left fun knot hknot =>
      Atlas.knotInfo_eq_of_perm hstory hfiles (hone knot hknot)

/-- A story whose knots match the word for an ending in different ways, or do not match it. -/
def endings : Value :=
  .object [("root", .list [.object [("the_end", .list []), ("cave", .list []),
    ("ending", .list []), ("End", .list []), ("END", .list [])]])]

/-- The two files that declare the same knots. -/
def scripts : List (Seconds × Request Engine) :=
  [(.whole 10, .addSource "a.ink" "== END\n== cave"),
    (.whole 10, .addSource "b.ink" "== ending\n== the_end\n== End")]

/-- The session in which the story was handed over. -/
def narrated : Session :=
  (⟨Atlas.create detour, none⟩ : Session).step (.whole 10)
    (.setStory (.decoded endings) (.whole 11) : Request Engine)

/-- The session in which the files were added. -/
def scripted : Session :=
  (⟨Atlas.create detour, none⟩ : Session).run scripts

/-- The session in which the files were added the other way round. -/
def rescripted : Session :=
  (⟨Atlas.create detour, none⟩ : Session).run scripts.reverse

theorem endings_distinctKeys : endings.DistinctKeys := by
  refine .object_single (.list (List.forall_mem_singleton.mpr (.object (by decide) ?_)))
  intro entry hentry
  have hbody : entry.2 = .list [] := by
    simp only [List.mem_cons, List.not_mem_nil, or_false] at hentry
    obtain rfl | rfl | rfl | rfl | rfl := hentry <;> rfl
  rw [hbody]
  exact .list_nil

/-- The story and the files give the same knots in the same order, and the files do so with the same
infos whichever was added first. -/
theorem narrated_search :
    ReachedByTrees Engine detour [.whole 10, .whole 11] narrated ∧
    (narrated.atlas.search (.whole 20) "eND").map (·.name) = ["END", "End", "ending", "the_end"] ∧
    (scripted.atlas.search (.whole 20) "eND").map (·.name) =
      ["END", "End", "ending", "the_end"] ∧
    rescripted.atlas.search (.whole 20) "eND" = scripted.atlas.search (.whole 20) "eND" := by
  have hstart : ReachedByTrees Engine detour [] ⟨Atlas.create detour, none⟩ := .start
  have hnarrated : ReachedByTrees Engine detour [.whole 10, .whole 11] narrated :=
    hstart.step (.whole 10) (.setStory (.decoded endings) (.whole 11)) endings_distinctKeys
  have hkeys : ∀ request ∈ scripts, request.2.DistinctKeys := by
    rintro _ (_ | ⟨_, _ | ⟨_, ⟨⟩⟩⟩)
    · trivial
    · trivial
  have hscripted := hstart.run hkeys
  have hrescripted := hstart.run fun request hrequest =>
    hkeys request (List.mem_reverse.mp hrequest)
  have hknown : narrated.atlas.allKnots (.whole 20) =
      ["the_end", "cave", "ending", "End", "END"] := by decide +kernel
  have hlists : (scripted.atlas.freshSources (.whole 20)).flatMap (·.knots) =
      ["END", "cave", "ending", "the_end", "End"] := by decide
  have hranked : Ranked ["the_end", "cave", "ending", "End", "END"] "eND"
      ["END", "End", "ending", "the_end"] := by
    have hsubset : ∀ name ∈ ["END", "End", "ending", "the_end"],
        name ∈ ["the_end", "cave", "ending", "End", "END"] := by decide
    have hmatch : ∀ name ∈ ["the_end", "cave", "ending", "End", "END"],
        name ∈ ["END", "End", "ending", "the_end"] ↔
          (Text.lower "eND").toList <:+: (Text.lower name).toList := by decide +kernel
    refine ⟨fun name => ⟨fun h => ?_, fun h => (hmatch name h.1).mpr h.2⟩,
      ["END", "End"], ["ending"], ["the_end"], rfl, ?_⟩
    · exact ⟨hsubset name h, (hmatch name (hsubset name h)).mp h⟩
    · decide
  obtain ⟨-, -, -, hsearch, hothers⟩ := search_ranked hnarrated (.whole 20) "eND"
  have hnames := (hknown ▸ hsearch).eq hranked fun _ => Iff.rfl
  obtain ⟨-, -, -, -, hfiles⟩ := search_ranked hscripted (.whole 20) "eND"
  refine ⟨hnarrated, hnames, ?_, ?_⟩
  · refine ((hothers hscripted).1 (.whole 20) fun knot => ?_).trans hnames
    have hperm : ["END", "cave", "ending", "the_end", "End"].Perm
        ["the_end", "cave", "ending", "End", "END"] := by decide
    rw [hknown, ← hperm.mem_iff, ← hlists]
    exact Atlas.mem_sortedNames_iff
  · have hapart : ∀ knot ∈ Source.knots "== END\n== cave",
        knot ∉ Source.knots "== ending\n== the_end\n== End" := by decide
    refine (hfiles hrescripted).2 rfl (List.Perm.swap _ _ _) ?_
    rintro knot - _ (_ | ⟨_, _ | ⟨_, ⟨⟩⟩⟩) _ (_ | ⟨_, _ | ⟨_, ⟨⟩⟩⟩) hone hother
    · rfl
    · exact absurd hother (hapart knot hone)
    · exact absurd hone (hapart knot hother)
    · rfl

/-! ### What is literally there -/

open Text (KeepsSigmas lowerBetween)

/-- In every session, a known knot is found exactly if its name holds the query once both are in
lower case. So each part of its name finds it whose capital sigmas take the same small form in the
name as alone, in particular each part without any. What the name holds in the place of a part is
the query in lower case in just these cases. -/
theorem found_by_part (h : Reached ε settings readings s) (now : Seconds) (query : String) :
    let names := (s.atlas.search now query).map (·.name)
    (settings.Numeric → (∀ since ∈ readings, now.agree since = true) →
      s.atlas.searchMisfit? now query = none) ∧
    ∀ knot ∈ s.atlas.allKnots now,
      (knot ∈ names ↔ (Text.lower query).toList <:+: (Text.lower knot).toList) ∧
      ∀ before after, knot.toList = before ++ query.toList ++ after →
        (KeepsSigmas before query.toList after → knot ∈ names) ∧
        (Text.capitalSigma ∉ query.toList → knot ∈ names) ∧
        ∃ front back, (Text.lower knot).toList =
            front ++ lowerBetween before.reverse query.toList after ++ back ∧
          (lowerBetween before.reverse query.toList after = (Text.lower query).toList ↔
            KeepsSigmas before query.toList after) := by
  intro names
  refine ⟨fun hnumeric hnow => h.searchMisfit?_eq_none hnumeric hnow query, ?_⟩
  intro knot hknown
  have hfound : knot ∈ names ↔ (Text.lower query).toList <:+: (Text.lower knot).toList := by
    rw [show names = _ from Atlas.names_search .., Atlas.mem_searchNames_iff]
    exact and_iff_right hknown
  refine ⟨hfound, fun before after hpart => ?_⟩
  obtain ⟨front, back, hlower⟩ := Text.lower_eq_append hpart
  have hkept : KeepsSigmas before query.toList after → knot ∈ names := by
    intro hkeeps
    rw [Text.lowerBetween_eq_lower_iff.mpr hkeeps] at hlower
    exact hfound.mpr ⟨front, back, hlower.symm⟩
  refine ⟨hkept, fun hnone => hkept (Text.keepsSigmas_of_not_mem hnone), front, back, hlower, ?_⟩
  exact Text.lowerBetween_eq_lower_iff

/-- A file that declares a knot with a capital sigma inside of its name is added. -/
def greek : List (Seconds × Request Engine) :=
  [(.whole 10, .addSource "a.ink" "== a\u03a3b")]

/-- The session that this leads to. -/
def grecized : Session :=
  (⟨Atlas.create detour, none⟩ : Session).run greek

theorem grecized_known : "a\u03a3b" ∈ grecized.atlas.allKnots (.whole 20) :=
  Atlas.mem_sortedNames_iff.mpr (by decide)

/-- Both the part in front of the sigma and that from the sigma on find the knot. -/
theorem grecized_found :
    Reached Engine detour [.whole 10] grecized ∧
    "a\u03a3b" ∈ (grecized.atlas.search (.whole 20) "a").map (·.name) ∧
    "a\u03a3b" ∈ (grecized.atlas.search (.whole 20) "\u03a3b").map (·.name) := by
  have hreached : Reached Engine detour [.whole 10] grecized := Reached.start.run greek
  obtain ⟨-, hletter⟩ := found_by_part hreached (.whole 20) "a"
  obtain ⟨-, hsigma⟩ := found_by_part hreached (.whole 20) "\u03a3b"
  refine ⟨hreached, ?_, ?_⟩
  · refine ((hletter _ grecized_known).2 [] "\u03a3b".toList (by decide)).2.1 ?_
    decide
  · refine ((hsigma _ grecized_known).2 ['a'] [] (by decide)).1 ?_
    exact Text.lowerBetween_eq_lower_iff.mp (by decide +kernel)

/-- The part that ends with the sigma does not find the knot: alone, the sigma is the last letter of
its word. -/
theorem grecized_missed :
    "a\u03a3b" ∈ grecized.atlas.allKnots (.whole 20) ∧
    "a\u03a3".toList <:+: "a\u03a3b".toList ∧
    grecized.atlas.searchMisfit? (.whole 20) "a\u03a3" = none ∧
    "a\u03a3b" ∉ (grecized.atlas.search (.whole 20) "a\u03a3").map (·.name) := by
  have hmissed : ¬(Text.lower "a\u03a3").toList <:+: (Text.lower "a\u03a3b").toList := by
    decide +kernel
  have hreached : Reached Engine detour [.whole 10] grecized := Reached.start.run greek
  have hnow : ∀ since ∈ [Seconds.whole 10], (Seconds.whole 20).agree since = true := by
    simp [Seconds.agree]
  refine ⟨grecized_known, by decide, ?_, ?_⟩
  · exact hreached.searchMisfit?_eq_none ⟨rfl, rfl, rfl⟩ hnow _
  · rw [Atlas.names_search, Atlas.mem_searchNames_iff]
    exact fun hfound => hmissed hfound.2

end Session
end KnotAtlas
