import KnotAtlas.Proofs.Json.DistinctKeys
import KnotAtlas.Proofs.Story.Ledger
import KnotAtlas.Story.Build
import Mathlib.Data.List.Basic

/-!
The graph of a story is well formed. Its knots are the keys of the document's trailing object that
have a body; every link joins two of them, comes in their order and has a label of text; no knot has
more than one link that is no choice.
-/

namespace KnotAtlas

/-- A text that is not empty and has no blank at either end. -/
structure Text.Trimmed (s : String) : Prop where
  ne_empty : s ≠ ""
  head : ∀ c, s.toList.head? = some c → isBlank c = false
  last : ∀ c, s.toList.getLast? = some c → isBlank c = false

/-- What every graph of a story keeps to. -/
structure Graph.WellFormed (g : Graph) : Prop where
  knots_nodup : g.knots.Nodup
  ends_known : ∀ l ∈ g.links, l.source ∈ g.knots ∧ l.target ∈ g.knots
  main_line : ∀ knot,
    (g.links.filter fun l => decide (l.source = knot) && !l.isChoice).length ≤ 1
  labels : ∀ l ∈ g.links, Text.Trimmed l.label
  grouped : g.links = g.knots.flatMap fun knot => g.links.filter (·.source = knot)

namespace Story

theorem trimmed_blankLabel : Text.Trimmed blankLabel where
  ne_empty := by decide
  head c h := by
    cases h
    decide
  last c h := by
    cases h
    decide

theorem trimmed_labelAfter (past : List Event) : Text.Trimmed (Event.labelAfter past) := by
  rw [Event.labelAfter]
  split
  · rename_i fragment _
    split
    · exact trimmed_blankLabel
    · rename_i hne
      exact ⟨hne, Text.trimBy_head Text.isBlank fragment, Text.trimBy_last Text.isBlank fragment⟩
  · exact trimmed_blankLabel

/-- What the links of one knot keep to. -/
structure Extract.Sound (known : List String) (x : Extract) : Prop where
  links : ∀ l ∈ x.links, l.source = x.name ∧ l.target ∈ known ∧ Text.Trimmed l.label
  main_line : (x.links.filter (!·.isChoice)).length ≤ 1

theorem extractWithin_sound (limit : Nat) (known : List String) (name : String)
    (body : List Value) : (extractWithin limit known name body).Sound known := by
  cases h : meetings limit body with
  | error ms =>
      rw [extractWithin_of_cutOff h]
      exact ⟨fun _ hl => absurd hl List.not_mem_nil, Nat.zero_le 1⟩
  | ok ms =>
      rw [extractWithin_of_completed h, (Recording.sums_events known name ms).links_eq]
      constructor
      · intro l hl
        obtain ⟨hsource, htarget, past, hlabel⟩ := Event.mem_links hl
        refine ⟨hsource, htarget, ?_⟩
        rw [hlabel]
        exact trimmed_labelAfter past
      · have hlen := congrArg List.length (Event.mainLine_links known name (events ms))
        rw [List.length_map] at hlen
        dsimp only
        rw [hlen]
        cases (Event.mainTargets known (events ms)).head? with
        | none => exact Nat.zero_le 1
        | some target => exact Nat.le_refl 1

@[simp] theorem name_extract (known : List String) (name : String) (body : List Value) :
    (extract known name body).name = name := by
  rw [extract, extractWithin]
  split <;> rfl

/-- The extract of every knot, among all of them. -/
theorem mem_extracts {bs : OrderedMap String (List Value)} {x : Extract} (h : x ∈ extracts bs) :
    x.name ∈ bs.keys ∧ x.Sound bs.keys := by
  obtain ⟨⟨name, body⟩, hmem, rfl⟩ := List.mem_map.mp h
  refine ⟨?_, extractWithin_sound walkLimit bs.keys name body⟩
  rw [name_extract]
  exact List.mem_map.mpr ⟨(name, body), hmem, rfl⟩

theorem names_extracts (bs : OrderedMap String (List Value)) :
    (extracts bs).map (·.name) = bs.keys := by
  rw [extracts, List.map_map]
  apply List.map_congr_left
  rintro ⟨name, body⟩ -
  exact name_extract bs.keys name body

section Grouping

variable {known : List String} {xs : List Extract}

/-- What belongs to one knot among what belongs to all knots. -/
theorem filter_flatMap_own {β : Type} {parts : Extract → List β} {source : β → String}
    (hs : ∀ x ∈ xs, ∀ b ∈ parts x, source b = x.name) (hn : (xs.map (·.name)).Nodup)
    {x : Extract} (hx : x ∈ xs) : (xs.flatMap parts).filter (source · = x.name) = parts x := by
  induction xs with
  | nil => cases hx
  | cons y ys ih =>
      obtain ⟨hy, hys⟩ := List.nodup_cons.mp hn
      rw [List.flatMap_cons, List.filter_append]
      cases hx with
      | head =>
          have hrest : (ys.flatMap parts).filter (source · = x.name) = [] := by
            rw [List.filter_eq_nil_iff]
            intro b hb hsource
            obtain ⟨z, hz, hbz⟩ := List.mem_flatMap.mp hb
            have hname := hs z (.tail _ hz) b hbz
            rw [decide_eq_true_eq.mp hsource] at hname
            exact hy (List.mem_map.mpr ⟨z, hz, hname.symm⟩)
          have hown : (parts x).filter (source · = x.name) = parts x := by
            rw [List.filter_eq_self]
            intro b hb
            exact decide_eq_true (hs x (.head _) b hb)
          rw [hrest, hown, List.append_nil]
      | tail _ hx =>
          have hother : (parts y).filter (source · = x.name) = [] := by
            rw [List.filter_eq_nil_iff]
            intro b hb hsource
            have hname := hs y (.head _) b hb
            rw [decide_eq_true_eq.mp hsource] at hname
            exact hy (List.mem_map.mpr ⟨x, hx, hname⟩)
          rw [hother, List.nil_append]
          exact ih (fun z hz => hs z (.tail _ hz)) hys hx

/-- The links of one knot among the links of all knots. -/
theorem filter_flatMap_links (hs : ∀ x ∈ xs, x.Sound known) (hn : (xs.map (·.name)).Nodup)
    {x : Extract} (hx : x ∈ xs) :
    (xs.flatMap (·.links)).filter (·.source = x.name) = x.links :=
  filter_flatMap_own (fun z hz l hl => ((hs z hz).links l hl).1) hn hx

theorem links_grouped (hs : ∀ x ∈ xs, x.Sound known) (hn : (xs.map (·.name)).Nodup) :
    xs.flatMap (·.links) =
      (xs.map (·.name)).flatMap fun name => (xs.flatMap (·.links)).filter (·.source = name) := by
  rw [List.flatMap_map]
  apply List.flatMap_congr
  intro x hx
  exact (filter_flatMap_links hs hn hx).symm

theorem links_main_line (hs : ∀ x ∈ xs, x.Sound known) (hn : (xs.map (·.name)).Nodup)
    (knot : String) :
    ((xs.flatMap (·.links)).filter fun l => decide (l.source = knot) && !l.isChoice).length ≤ 1 := by
  have hsplit : ((xs.flatMap (·.links)).filter fun l => decide (l.source = knot) && !l.isChoice) =
      ((xs.flatMap (·.links)).filter (·.source = knot)).filter (!·.isChoice) := by
    rw [List.filter_filter]
    simp only [Bool.and_comm]
  rw [hsplit]
  by_cases hk : ∃ x ∈ xs, x.name = knot
  · obtain ⟨x, hx, rfl⟩ := hk
    rw [filter_flatMap_links hs hn hx]
    exact (hs x hx).main_line
  · have hnone : (xs.flatMap (·.links)).filter (·.source = knot) = [] := by
      rw [List.filter_eq_nil_iff]
      intro l hl hsource
      obtain ⟨x, hx, hlx⟩ := List.mem_flatMap.mp hl
      have hname := ((hs x hx).links l hlx).1
      exact hk ⟨x, hx, hname.symm.trans (decide_eq_true_eq.mp hsource)⟩
    rw [hnone]
    exact Nat.zero_le 1

end Grouping

theorem assemble_links {named : OrderedMap String Value} {l : Link}
    (hl : l ∈ (assemble named (extracts (bodies named))).graph.links) :
    l.source ∈ (bodies named).keys ∧ l.target ∈ (bodies named).keys ∧ Text.Trimmed l.label := by
  obtain ⟨x, hx, hlx⟩ := List.mem_flatMap.mp hl
  obtain ⟨hname, hsound⟩ := mem_extracts hx
  obtain ⟨hsource, htarget, hlabel⟩ := hsound.links l hlx
  exact ⟨hsource ▸ hname, htarget, hlabel⟩

theorem assemble_wellFormed {named : OrderedMap String Value}
    (hn : (bodies named).keys.Nodup) :
    (assemble named (extracts (bodies named))).graph.WellFormed := by
  have hs : ∀ x ∈ extracts (bodies named), x.Sound (bodies named).keys :=
    fun x hx => (mem_extracts hx).2
  have hnames : ((extracts (bodies named)).map (·.name)).Nodup := by
    rw [names_extracts]
    exact hn
  have hgrouped := links_grouped hs hnames
  rw [names_extracts] at hgrouped
  exact {
    knots_nodup := hn
    ends_known := fun l hl => ⟨(assemble_links hl).1, (assemble_links hl).2.1⟩
    main_line := links_main_line hs hnames
    labels := fun l hl => (assemble_links hl).2.2
    grouped := hgrouped }

/-- The object that maps names to bodies: the last item of the array under `root`. -/
def TrailingObject (document : Value) (named : List (String × Value)) : Prop :=
  ∃ members items, document = .object members ∧
    OrderedMap.find? members "root" = some (.list items) ∧ items.getLast? = some (.object named)

/-- The keys in that object that are knots. -/
def knotKeys (named : List (String × Value)) : List String :=
  (named.filter fun entry =>
    ¬ "#".isPrefixOf entry.1 ∧ entry.1 ≠ "global decl" ∧ entry.2.items?.isSome).map (·.1)

theorem keys_bodies (named : List (String × Value)) :
    (bodies (named.filter fun entry => isKnotKey entry.1)).keys = knotKeys named := by
  induction named with
  | nil => rfl
  | cons entry rest ih =>
      obtain ⟨name, body⟩ := entry
      simp only [bodies, knotKeys, OrderedMap.keys] at ih ⊢
      by_cases hk : isKnotKey name = true
      · have hk' : ¬ "#".isPrefixOf name ∧ name ≠ "global decl" := by
          simpa [isKnotKey] using hk
        cases hb : body.items? <;> simp [hk, hk', hb, ih]
      · have hk' : ¬ (¬ "#".isPrefixOf name ∧ name ≠ "global decl") := by
          simpa [isKnotKey] using hk
        rw [List.filter_cons_of_neg (by simpa using hk), List.filter_cons_of_neg, ih]
        simp only [decide_eq_true_eq]
        rintro ⟨hhash, hglobal, -⟩
        exact hk' ⟨hhash, hglobal⟩

theorem knotKeys_nodup {named : List (String × Value)} (h : (OrderedMap.keys named).Nodup) :
    (knotKeys named).Nodup :=
  h.sublist (List.Sublist.map Prod.fst List.filter_sublist)

theorem namedContent_of_trailing {document : Value} {named : List (String × Value)}
    (h : TrailingObject document named) :
    namedContent document = .ok (named.filter fun entry => isKnotKey entry.1) := by
  obtain ⟨members, items, rfl, hroot, hlast⟩ := h
  simp only [namedContent, hroot, hlast]

theorem namedContent_of_not_trailing {document : Value}
    (h : ∀ named, ¬ TrailingObject document named) : ∃ fault, namedContent document = .error fault := by
  cases hc : namedContent document with
  | error fault => exact ⟨fault, rfl⟩
  | ok content =>
      simp only [namedContent] at hc
      split at hc
      · split at hc
        · split at hc
          · exact absurd ⟨_, _, rfl, ‹_›, ‹_›⟩ (h _)
          · cases hc
        · cases hc
      · cases hc

/-- A story that is handed over decoded is a tree of objects without repeated keys. -/
def Source.DistinctKeys : Source → Prop
  | .decoded v => v.DistinctKeys
  | .text _ | .bytes _ => True

theorem decodeText_distinctKeys {cs : List Char} {v : Value} (h : decodeText cs = .ok v) :
    v.DistinctKeys := by
  simp only [decodeText] at h
  split at h
  · rename_i hr
    cases h
    exact Json.read_distinctKeys hr
  · cases h
  · cases h
  · cases h

theorem load_distinctKeys {source : Source} {document : Value} (hs : source.DistinctKeys)
    (h : source.load = .ok document) : document.DistinctKeys := by
  cases source with
  | decoded v =>
      cases h
      exact hs
  | text s => exact decodeText_distinctKeys h
  | bytes bs =>
      simp only [Source.load] at h
      split at h
      · exact decodeText_distinctKeys h
      · cases h

theorem keys_nodup_of_trailing {document : Value} {named : List (String × Value)}
    (h : document.DistinctKeys) (ht : TrailingObject document named) :
    (OrderedMap.keys named).Nodup := by
  obtain ⟨members, items, rfl, hroot, hlast⟩ := ht
  obtain - | - | - | - | - | - | ⟨-, hmembers⟩ := h
  have hlist := hmembers _ (OrderedMap.mem_of_find? hroot)
  obtain - | - | - | - | - | hitems := hlist
  have hobject := hitems _ (List.mem_of_getLast? hlast)
  obtain - | - | - | - | - | - | ⟨hkeys, -⟩ := hobject
  exact hkeys

theorem nodup_keys_namedContent {document : Value} {named : OrderedMap String Value}
    (h : document.DistinctKeys) (hcontent : namedContent document = .ok named) :
    named.keys.Nodup := by
  by_cases ht : ∃ content, TrailingObject document content
  · obtain ⟨content, ht⟩ := ht
    rw [namedContent_of_trailing ht] at hcontent
    cases hcontent
    exact (keys_nodup_of_trailing h ht).sublist (List.Sublist.map Prod.fst List.filter_sublist)
  · obtain ⟨fault, hfault⟩ := namedContent_of_not_trailing fun content hc => ht ⟨content, hc⟩
    rw [hfault] at hcontent
    cases hcontent

theorem build_of_load {source : Source} {document : Value} (h : source.load = .ok document) :
    source.build = buildDecoded document := by
  simp only [Source.build, h]

/-- An object with names and bodies gives a graph unless the name of a body is bad. -/
theorem buildDecoded_of_content {document : Value} {named : OrderedMap String Value}
    (h : namedContent document = .ok named) :
    (buildDecoded document).value =
      match (bodies named).keys.findSome? Graph.nameFault? with
      | some fault => .error (.name fault)
      | none => .ok (assemble named (extracts (bodies named))) := by
  simp only [buildDecoded, h, buildNamed]
  cases (bodies named).keys.findSome? Graph.nameFault? with
  | some fault => rfl
  | none => rfl

theorem buildDecoded_of_fault {document : Value} {fault : Fault}
    (h : namedContent document = .error fault) :
    (buildDecoded document).value = .ok ⟨{}, { errors := [fault.reason] }⟩ := by
  simp only [buildDecoded, h]
  rfl

/-- What building gives is put together from the bodies of the document, or is the empty graph. -/
theorem build_cases {source : Source} {built : Built} (h : source.build.value = .ok built) :
    (∃ named, built = assemble named (extracts (bodies named))) ∨ built.graph = {} := by
  have hfaulty : ∀ fault, (buildFaulty fault).value = .ok built → built.graph = {} := by
    intro fault hfault
    cases hfault
    rfl
  rw [Source.build] at h
  split at h
  · rw [buildDecoded] at h
    split at h
    · rename_i named _
      rw [buildNamed] at h
      split at h
      · cases h
      · cases h
        exact .inl ⟨named, rfl⟩
    · exact .inr (hfaulty _ h)
  · exact .inr (hfaulty _ h)
  · cases h

theorem build_ends_known {source : Source} {built : Built} (h : source.build.value = .ok built)
    {l : Link} (hl : l ∈ built.graph.links) :
    l.source ∈ built.graph.knots ∧ l.target ∈ built.graph.knots := by
  obtain ⟨named, rfl⟩ | hempty := build_cases h
  · exact ⟨(assemble_links hl).1, (assemble_links hl).2.1⟩
  · rw [hempty] at hl
    cases hl

/-- Every graph that is built from a story is well formed. Its knots are the keys of the trailing
object that map to arrays, without the tool's own; a document that has no such object gives the
empty graph and one error. -/
theorem build_wellFormed {source : Source} {document : Value} {built : Built}
    (hkeys : source.DistinctKeys) (hload : source.load = .ok document)
    (hbuild : source.build.value = .ok built) :
    built.graph.WellFormed ∧
    (∀ named, TrailingObject document named →
      built.graph.knots = knotKeys named ∧ built.diagnostics.errors = []) ∧
    ((∀ named, ¬ TrailingObject document named) →
      built.graph = {} ∧ built.diagnostics.errors.length = 1) := by
  rw [build_of_load hload] at hbuild
  rw [buildDecoded] at hbuild
  by_cases ht : ∃ named, TrailingObject document named
  · obtain ⟨named, ht⟩ := ht
    rw [namedContent_of_trailing ht] at hbuild
    simp only [buildNamed] at hbuild
    split at hbuild
    · cases hbuild
    · cases hbuild
      have hnodup := knotKeys_nodup
        (keys_nodup_of_trailing (load_distinctKeys hkeys hload) ht)
      refine ⟨?_, ?_, fun hnone => absurd ht (hnone named)⟩
      · apply assemble_wellFormed
        rw [keys_bodies]
        exact hnodup
      · intro named' ht'
        have hsame := (namedContent_of_trailing ht).symm.trans (namedContent_of_trailing ht')
        simp only [Except.ok.injEq] at hsame
        refine ⟨?_, rfl⟩
        rw [← keys_bodies, ← hsame]
        rfl
  · have hnone : ∀ named, ¬ TrailingObject document named := fun named h => ht ⟨named, h⟩
    obtain ⟨fault, hfault⟩ := namedContent_of_not_trailing hnone
    rw [hfault] at hbuild
    cases hbuild
    refine ⟨⟨List.nodup_nil, ?_, ?_, ?_, rfl⟩, fun named h => absurd h (hnone named),
      fun _ => ⟨rfl, rfl⟩⟩
    · exact fun _ h => absurd h List.not_mem_nil
    · exact fun _ => Nat.zero_le 1
    · exact fun _ h => absurd h List.not_mem_nil

/-- The trailing object of a story with two knots, a key of the tool, and a key without a body. -/
def smallNamed : List (String × Value) :=
  [("A", .list [.str "^ go", .object [("->", .str "B")]]), ("#f", .list []), ("B", .list []),
    ("C", .null)]

/-- The story of `smallNamed`. -/
def smallStory : Value :=
  .object [("root", .list [.null, .object smallNamed])]

theorem smallNamed_distinctKeys : (Value.object smallNamed).DistinctKeys := by
  have hdivert : (Value.object [("->", .str "B")]).DistinctKeys := .object_single (.str "B")
  have hbody : (Value.list [.str "^ go", .object [("->", .str "B")]]).DistinctKeys :=
    .list (List.forall_mem_cons.mpr ⟨.str "^ go", List.forall_mem_singleton.mpr hdivert⟩)
  refine .object (by decide) ?_
  simp only [smallNamed, List.forall_mem_cons]
  exact ⟨hbody, .list_nil, .list_nil, .null, fun _ h => absurd h List.not_mem_nil⟩

theorem smallStory_distinctKeys : smallStory.DistinctKeys := by
  have hroot : (Value.list [.null, .object smallNamed]).DistinctKeys :=
    .list (List.forall_mem_cons.mpr
      ⟨.null, List.forall_mem_singleton.mpr smallNamed_distinctKeys⟩)
  exact .object_single hroot

theorem smallStory_trailing : TrailingObject smallStory smallNamed :=
  ⟨_, _, rfl, rfl, rfl⟩

theorem build_smallStory :
    (Source.decoded smallStory).build.value =
      .ok ⟨⟨["A", "B"], [⟨"A", "B", "go", false⟩]⟩, { skippedKnots := ["C"] }⟩ := by
  decide +kernel

theorem smallStory_wellFormed :
    Graph.WellFormed ⟨["A", "B"], [⟨"A", "B", "go", false⟩]⟩ ∧
    ["A", "B"] = knotKeys smallNamed := by
  have hkeys : (Source.decoded smallStory).DistinctKeys := smallStory_distinctKeys
  obtain ⟨hgraph, hknots, -⟩ := build_wellFormed hkeys rfl build_smallStory
  exact ⟨hgraph, (hknots smallNamed smallStory_trailing).1⟩

end Story
end KnotAtlas
