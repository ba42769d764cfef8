import KnotAtlas.Source.Cache
import Mathlib.Data.List.Induction

/-!
A cache of scans as a function of what was asked of it. Of each file it holds a scan of the content
that was added last, as of that time, unless the file was dropped since; content that is added again
keeps its scan, and the scan is the one that it would have got. Digests tell the contents of a
history apart; nothing is assumed of the clock.
-/

namespace KnotAtlas.Source

namespace Cache

/-- What can be asked of a cache that may change it. Lookups change nothing and are left out. -/
inductive Request where
  | add (path content : String)
  | remove (path : String)
  | clear
  deriving DecidableEq, Repr

/-- Whether a request decides what is held of a file. -/
def Request.Decides (path : String) : Request → Prop
  | .add other _ => other = path
  | .remove other => other = path
  | .clear => True

variable {τ : Type}

/-- A cache after one more request. -/
def step (c : Cache τ) (now : τ) : Request → Cache τ
  | .add path content => (c.add now path content).value.cache
  | .remove path => c.remove path
  | .clear => c.clear

/-- A cache after requests, each at its time. -/
def run (c : Cache τ) (requests : List (τ × Request)) : Cache τ :=
  requests.foldl (fun c request => c.step request.1 request.2) c

/-- `content` was added under `path` at `since`, and no later request decides about the file. -/
def Latest (requests : List (τ × Request)) (path content : String) (since : τ) : Prop :=
  ∃ before after, requests = before ++ (since, .add path content) :: after ∧
    ∀ request ∈ after, ¬request.2.Decides path

/-- The contents that are added by requests. -/
def contents (requests : List (τ × Request)) : List String :=
  requests.filterMap fun request =>
    match request.2 with
    | .add _ content => some content
    | _ => none

/-- Different contents have different digests. -/
def ToldApart (contents : List String) : Prop :=
  ∀ a ∈ contents, ∀ b ∈ contents, Digest.Sha256.ofText a = Digest.Sha256.ofText b → a = b

theorem contents_append (requests more : List (τ × Request)) :
    contents (requests ++ more) = contents requests ++ contents more :=
  List.filterMap_append

theorem ToldApart.of_append {requests more : List (τ × Request)}
    (h : ToldApart (contents (requests ++ more))) : ToldApart (contents requests) := by
  intro a ha b hb
  rw [contents_append] at h
  exact h a (List.mem_append_left _ ha) b (List.mem_append_left _ hb)

theorem run_concat (c : Cache τ) (requests : List (τ × Request)) (request : τ × Request) :
    c.run (requests ++ [request]) = (c.run requests).step request.1 request.2 :=
  List.foldl_append

/-- The last request either is the addition or leaves the file alone. -/
theorem latest_concat_iff {requests : List (τ × Request)} {request : τ × Request}
    {path content : String} {since : τ} :
    Latest (requests ++ [request]) path content since ↔
      request = (since, .add path content) ∨
        ¬request.2.Decides path ∧ Latest requests path content since := by
  constructor
  · rintro ⟨before, after, hsplit, hafter⟩
    obtain rfl | ⟨later, last, rfl⟩ := List.eq_nil_or_concat after
    · exact .inl (List.append_inj_right' hsplit rfl |> List.singleton_inj.mp)
    · rw [List.concat_eq_append, ← List.cons_append, ← List.append_assoc] at hsplit
      obtain ⟨rfl, hlast⟩ := List.append_inj' hsplit rfl
      cases List.singleton_inj.mp hlast
      refine .inr ⟨hafter request (by simp), before, later, rfl, fun r hr => hafter r ?_⟩
      simp [hr]
  · rintro (rfl | ⟨hidle, before, after, rfl, hafter⟩)
    · exact ⟨requests, [], rfl, fun _ h => (by cases h)⟩
    · refine ⟨before, after ++ [request], by simp, fun r hr => ?_⟩
      obtain hr | hr := List.mem_append.mp hr
      · exact hafter r hr
      · exact List.mem_singleton.mp hr ▸ hidle

theorem latest_concat_of_decides {requests : List (τ × Request)} (request : τ × Request)
    {path content : String} {since : τ} (h : request.2.Decides path) :
    Latest (requests ++ [request]) path content since ↔ request = (since, .add path content) := by
  rw [latest_concat_iff]
  exact or_iff_left fun hidle => hidle.1 h

theorem latest_concat_of_idle {requests : List (τ × Request)} (request : τ × Request)
    {path content : String} {since : τ} (h : ¬request.2.Decides path) :
    Latest (requests ++ [request]) path content since ↔ Latest requests path content since := by
  rw [latest_concat_iff, and_iff_right h]
  refine or_iff_right ?_
  rintro rfl
  exact h rfl

theorem content_mem_of_latest {requests : List (τ × Request)} {path content : String} {since : τ}
    (h : Latest requests path content since) : content ∈ contents requests := by
  obtain ⟨before, after, rfl, -⟩ := h
  simp [contents]

/-! ### What a cache keeps -/

theorem step_frame (c : Cache τ) (now : τ) (request : Request) :
    ∃ entries, c.step now request = { c with entries } := by
  cases request with
  | add path content =>
      rw [step, add]
      split
      · exact ⟨_, rfl⟩
      · dsimp only
        split
        · exact ⟨_, rfl⟩
        · exact ⟨c.entries, rfl⟩
  | remove path => exact ⟨_, rfl⟩
  | clear => exact ⟨_, rfl⟩

/-- Whatever is asked, a cache keeps its lifetime and stays on or off. -/
theorem run_frame (c : Cache τ) (requests : List (τ × Request)) :
    ∃ entries, c.run requests = { c with entries } := by
  induction requests using List.reverseRecOn with
  | nil => exact ⟨c.entries, rfl⟩
  | append_singleton requests request ih =>
      obtain ⟨entries, hentries⟩ := ih
      rw [run_concat, hentries]
      exact step_frame { c with entries } request.1 request.2

theorem run_ttl (c : Cache τ) (requests : List (τ × Request)) : (c.run requests).ttl = c.ttl := by
  obtain ⟨entries, hentries⟩ := c.run_frame requests
  rw [hentries]

theorem run_enabled (c : Cache τ) (requests : List (τ × Request)) :
    (c.run requests).enabled = c.enabled := by
  obtain ⟨entries, hentries⟩ := c.run_frame requests
  rw [hentries]

/-- Adding to a cache that is in use stores the scan of the content, whether a former scan is kept
or not, if the file's former scan has the content that its digest belongs to. -/
theorem add_value {c : Cache τ} {path content : String}
    (h : ∀ s, c.entries.find? path = some s → s.hash = Digest.Sha256.ofText content →
      s = scan path content s.scannedAt) (now : τ) :
    (c.add now path content).value.scan = scan path content now ∧
      (c.enabled = true →
        (c.add now path content).value.cache = c.put path (scan path content now)) := by
  rw [add]
  split
  · rename_i s hs
    obtain ⟨hfind, hhash⟩ := Option.filter_eq_some_iff.mp hs
    have hrenewed : { s with scannedAt := now } = scan path content now := by
      rw [h s hfind (of_decide_eq_true hhash)]
      rfl
    exact ⟨hrenewed, fun _ => by rw [← hrenewed]; rfl⟩
  · refine ⟨rfl, fun hon => ?_⟩
    simp only [hon, if_true]

/-! ### The history that a cache tells -/

/-- What a cache holds of each file is the scan of its latest content. -/
structure Tells (requests : List (τ × Request)) (c : Cache τ) : Prop where
  nodup : c.entries.keys.Nodup
  find?_iff : ∀ path s, c.entries.find? path = some s ↔
    ∃ content since, Latest requests path content since ∧ s = scan path content since

namespace Tells

variable {requests : List (τ × Request)} {c : Cache τ}

/-- A former scan with the digest of a content is the scan of that content. -/
theorem former (h : Tells requests c) {path content : String} {now : τ}
    (hapart : ToldApart (contents (requests ++ [(now, .add path content)]))) :
    ∀ s, c.entries.find? path = some s → s.hash = Digest.Sha256.ofText content →
      s = scan path content s.scannedAt := by
  intro s hs hhash
  obtain ⟨before, since, hlatest, rfl⟩ := (h.find?_iff path s).mp hs
  have hsame : before = content := by
    rw [contents_append] at hapart
    refine hapart before ?_ content ?_ hhash
    · exact List.mem_append_left _ (content_mem_of_latest hlatest)
    · exact List.mem_append_right _ (by simp [contents])
  rw [hsame]
  rfl

theorem add (h : Tells requests c) (hon : c.enabled = true) {path content : String} (now : τ)
    (hapart : ToldApart (contents (requests ++ [(now, .add path content)]))) :
    Tells (requests ++ [(now, .add path content)]) (c.step now (.add path content)) := by
  rw [step, (add_value (h.former hapart) now).2 hon]
  refine ⟨OrderedMap.nodup_keys_insert h.nodup _ _, fun other s => ?_⟩
  rw [put, OrderedMap.find?_insert]
  split
  · rename_i hother
    subst hother
    simp only [latest_concat_of_decides (now, .add _ content) rfl]
    constructor
    · rintro ⟨⟩
      exact ⟨content, now, rfl, rfl⟩
    · rintro ⟨latest, since, heq, rfl⟩
      cases heq
      rfl
  · rename_i hother
    simp only [latest_concat_of_idle (now, .add path content) (Ne.symm hother)]
    exact h.find?_iff other s

theorem remove (h : Tells requests c) (now : τ) (path : String) :
    Tells (requests ++ [(now, .remove path)]) (c.step now (.remove path)) := by
  refine ⟨OrderedMap.nodup_keys_erase h.nodup _, fun other s => ?_⟩
  rw [step, Cache.remove, OrderedMap.find?_erase]
  split
  · rename_i hother
    subst hother
    simp only [latest_concat_of_decides (now, .remove _) rfl]
    constructor
    · rintro ⟨⟩
    · rintro ⟨latest, since, heq, -⟩
      cases heq
  · rename_i hother
    simp only [latest_concat_of_idle (now, .remove path) (Ne.symm hother)]
    exact h.find?_iff other s

theorem clear (now : τ) : Tells (requests ++ [(now, .clear)]) (c.step now .clear) := by
  refine ⟨.nil, fun path s => ⟨fun h => (by cases h), ?_⟩⟩
  rintro ⟨latest, since, hlatest, -⟩
  have hdecides : (Request.clear).Decides path := trivial
  cases (latest_concat_of_decides (now, .clear) hdecides).mp hlatest

end Tells

theorem not_latest_nil {path content : String} {since : τ} :
    ¬Latest ([] : List (τ × Request)) path content since := by
  rintro ⟨before, after, hsplit, -⟩
  cases before with
  | nil => cases hsplit
  | cons _ _ => cases hsplit

theorem run_tells (ttl : τ) {requests : List (τ × Request)} (hapart : ToldApart (contents requests)) :
    Tells requests (({ ttl } : Cache τ).run requests) := by
  induction requests using List.reverseRecOn with
  | nil =>
      refine ⟨.nil, fun path s => ⟨fun h => (by cases h), ?_⟩⟩
      rintro ⟨content, since, hlatest, -⟩
      exact absurd hlatest not_latest_nil
  | append_singleton requests request ih =>
      have hbefore := hapart.of_append
      obtain ⟨now, request⟩ := request
      rw [run_concat]
      cases request with
      | add path content => exact (ih hbefore).add (run_enabled _ requests) now hapart
      | remove path => exact (ih hbefore).remove now path
      | clear => exact .clear now

/-- Every addition gives the scan of the content that is added. -/
theorem scan_of_add (ttl : τ) {requests after : List (τ × Request)} {now : τ}
    {path content : String}
    (hapart : ToldApart (contents (requests ++ (now, .add path content) :: after))) :
    ((({ ttl } : Cache τ).run requests).add now path content).value.scan =
      scan path content now := by
  rw [List.append_cons] at hapart
  have htells := run_tells ttl hapart.of_append.of_append
  exact (add_value (htells.former hapart.of_append) now).1

/-- A cache that is off holds nothing, and adding to it gives a scan all the same. -/
theorem run_of_off {c : Cache τ} (hoff : c.enabled = false) (hnone : c.entries = [])
    (requests : List (τ × Request)) : c.run requests = c := by
  induction requests with
  | nil => rfl
  | cons request rest ih =>
      have hstep : c.step request.1 request.2 = c := by
        obtain ⟨ttl, enabled, entries⟩ := c
        cases hoff
        cases hnone
        cases request.2 with
        | add path content => rfl
        | remove path => rfl
        | clear => rfl
      change (c.step request.1 request.2).run rest = c
      rw [hstep, ih]

section Times

variable [Sub τ] [LT τ] [DecidableRel (fun a b : τ => a < b)]

theorem get?_eq_some_iff {c : Cache τ} {now : τ} {path : String} {s : Scan τ} :
    c.get? now path = some s ↔
      c.enabled = true ∧ c.entries.find? path = some s ∧ now - s.scannedAt < c.ttl := by
  rw [get?]
  split
  · rename_i hon
    simp [hon, Option.filter_eq_some_iff, isCurrent]
  · rename_i hoff
    simp [hoff]

/-- A cache serves the scan of a file's latest content while it is young enough. -/
theorem Tells.get?_iff {requests : List (τ × Request)} {c : Cache τ} (h : Tells requests c)
    (hon : c.enabled = true) (now : τ) (path : String) (s : Scan τ) :
    c.get? now path = some s ↔
      ∃ content since, Latest requests path content since ∧ now - since < c.ttl ∧
        s = scan path content since := by
  rw [get?_eq_some_iff, and_iff_right hon, h.find?_iff]
  constructor
  · rintro ⟨⟨content, since, hlatest, rfl⟩, hyoung⟩
    exact ⟨content, since, hlatest, hyoung, rfl⟩
  · rintro ⟨content, since, hlatest, hyoung, rfl⟩
    exact ⟨⟨content, since, hlatest, rfl⟩, hyoung⟩

/-- All scans that are served are the scans that are served of some file. -/
theorem Tells.mem_served_iff {requests : List (τ × Request)} {c : Cache τ} (h : Tells requests c)
    (now : τ) (s : Scan τ) : s ∈ c.served now ↔ ∃ path, c.get? now path = some s := by
  have hpath : ∀ path, c.entries.find? path = some s → s.path = path := by
    intro path hfind
    obtain ⟨content, since, -, rfl⟩ := (h.find?_iff path s).mp hfind
    rfl
  simp only [served, List.mem_filter, List.mem_map, isFresh, Option.isSome_iff_exists]
  constructor
  · rintro ⟨⟨⟨path, _⟩, hmem, rfl⟩, served, hserved⟩
    have hfind := OrderedMap.find?_of_mem h.nodup hmem
    rw [hpath path hfind] at hserved
    have hsame := (get?_eq_some_iff.mp hserved).2.1
    rw [hfind] at hsame
    cases hsame
    exact ⟨path, hserved⟩
  · rintro ⟨path, hget⟩
    have hfind := (get?_eq_some_iff.mp hget).2.1
    refine ⟨⟨(path, s), OrderedMap.mem_of_find? hfind, rfl⟩, s, ?_⟩
    rw [hpath path hfind]
    exact hget

end Times

end Cache
end KnotAtlas.Source
