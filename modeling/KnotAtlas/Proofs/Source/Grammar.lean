import Mathlib.Computability.Language
import Mathlib.Data.List.TakeWhile
import KnotAtlas.Source.Declaration
import KnotAtlas.Text.Blank

/-!
The grammar of declarations. A line declares a knot exactly if it is a rule, a name and what may
follow a name, with gaps between them, and the name is not the word for functions. Since no part of a
line begins with a character that the part before it could go on with, reading each part as far as it
goes finds the one way in which a line can be put together.
-/

namespace KnotAtlas.Source

namespace Grammar

def gap : Language Char :=
  {cs | ∀ c ∈ cs, isGap c = true}

def rule : Language Char :=
  {cs | ∃ n, 2 ≤ n ∧ cs = List.replicate n '='}

def identifier : Language Char :=
  {cs | ∃ first rest, Text.isIdentifierStart first = true ∧
    (∀ c ∈ rest, Text.isWordChar c = true) ∧ cs = first :: rest}

def parameters : Language Char :=
  {cs | ∃ inner, ')' ∉ inner ∧ cs = '(' :: (inner ++ [')'])}

def comment : Language Char :=
  {cs | ∃ text, cs = '/' :: '/' :: text}

/-- The end of a line, after everything else. -/
def lineRest : Language Char :=
  (1 + comment) * (1 + {['\r']})

/-- The lines that declare a knot, by its name. -/
def knotLine (name : List Char) : Language Char :=
  gap * rule * gap * {name} * gap * (1 + parameters) * gap * (1 + rule) * gap * lineRest

/-- Whether a line declares a knot. -/
def Declares (line name : List Char) : Prop :=
  name ∈ identifier ∧ name ≠ functionWord ∧ line ∈ knotLine name

/-- Whether every text of a language that is not empty begins with one of some characters. -/
def Opens (heads : List Char) (L : Language Char) : Prop :=
  ∀ c cs, c :: cs ∈ L → c ∈ heads

section Opens

variable {heads : List Char} {L M : Language Char}

theorem opens_one : Opens heads 1 := by
  intro c cs h
  cases h

theorem Opens.add (hL : Opens heads L) (hM : Opens heads M) : Opens heads (L + M) := by
  intro c cs h
  cases h with
  | inl h => exact hL c cs h
  | inr h => exact hM c cs h

theorem Opens.mul (hL : Opens heads L) (hM : Opens heads M) : Opens heads (L * M) := by
  intro c cs h
  obtain ⟨a, ha, b, hb, hab⟩ := Language.mem_mul.mp h
  cases a with
  | nil =>
      rw [List.nil_append] at hab
      exact hM c cs (hab ▸ hb)
  | cons d a =>
      cases hab
      exact hL c a ha

theorem Opens.mul_of_nil_not_mem (hL : Opens heads L) (hnil : [] ∉ L) : Opens heads (L * M) := by
  intro c cs h
  obtain ⟨a, ha, b, -, hab⟩ := Language.mem_mul.mp h
  cases a with
  | nil => exact absurd ha hnil
  | cons d a =>
      cases hab
      exact hL c a ha

theorem Opens.mono {others : List Char} (h : Opens heads L) (hsub : heads ⊆ others) :
    Opens others L :=
  fun c cs hmem => hsub (h c cs hmem)

theorem opens_gap : Opens [' ', '\t'] gap := by
  intro c cs h
  have hgap : isGap c = true := h c (.head cs)
  simpa [isGap] using hgap

theorem nil_not_mem_rule : [] ∉ rule := by
  intro h
  obtain ⟨n, hn, heq⟩ := h
  have hlength := congrArg List.length heq
  simp only [List.length_nil, List.length_replicate] at hlength
  omega

theorem opens_rule : Opens ['='] rule := by
  intro c cs h
  obtain ⟨n, -, hn⟩ := h
  cases n with
  | zero => cases hn
  | succ n =>
      cases hn
      exact .head _

theorem nil_not_mem_parameters : [] ∉ parameters := by
  intro h
  obtain ⟨inner, -, heq⟩ := h
  cases heq

theorem opens_parameters : Opens ['('] parameters := by
  intro c cs h
  obtain ⟨inner, -, heq⟩ := h
  cases heq
  exact .head _

theorem opens_comment : Opens ['/'] comment := by
  intro c cs h
  obtain ⟨text, heq⟩ := h
  cases heq
  exact .head _

theorem opens_lineRest : Opens ['/', '\r'] lineRest := by
  have hreturn : Opens ['/', '\r'] {['\r']} := by
    intro c cs h
    cases h
    decide
  exact (opens_one.add (opens_comment.mono (by decide))).mul (opens_one.add hreturn)

/-- What a language begins with is not taken for more of what stands before it. -/
theorem Opens.stops {p : Char → Bool} {front cs : List Char} (hL : Opens heads L)
    (hheads : heads.any p = false) (hfront : ∀ c ∈ front, p c = true) (hcs : cs ∈ L) :
    (front ++ cs).takeWhile p = front ∧ (front ++ cs).dropWhile p = cs := by
  rw [List.takeWhile_append_of_pos hfront, List.dropWhile_append_of_pos hfront]
  cases cs with
  | nil => simp
  | cons c cs =>
      have hc := List.any_eq_false.mp hheads c (hL c cs hcs)
      simp [hc]

theorem mem_gap_mul_iff (hL : Opens heads L) (hheads : heads.any isGap = false)
    {cs : List Char} : cs ∈ gap * L ↔ skipGap cs ∈ L := by
  rw [Language.mem_mul]
  constructor
  · intro h
    obtain ⟨front, hfront, rest, hrest, rfl⟩ := h
    rw [skipGap, (hL.stops hheads hfront hrest).2]
    exact hrest
  · intro h
    refine ⟨cs.takeWhile isGap, ?_, skipGap cs, h, List.takeWhile_append_dropWhile⟩
    intro c hc
    exact List.mem_takeWhile_imp hc

theorem mem_rule_mul_iff (hL : Opens heads L) (hheads : '=' ∉ heads) {cs : List Char} :
    cs ∈ rule * L ↔ ∃ rest ∈ L, skipRule? cs = some rest := by
  have hstop : heads.any (fun c => decide (c = '=')) = false := by
    refine List.any_eq_false.mpr fun c hc heq => hheads ?_
    rw [← of_decide_eq_true heq]
    exact hc
  rw [Language.mem_mul]
  constructor
  · intro h
    obtain ⟨front, ⟨n, hn, rfl⟩, rest, hrest, rfl⟩ := h
    refine ⟨rest, hrest, ?_⟩
    have hfront : ∀ c ∈ List.replicate n '=', decide (c = '=') = true := by
      intro c hc
      exact decide_eq_true (List.eq_of_mem_replicate hc)
    obtain ⟨htake, hdrop⟩ := hL.stops hstop hfront hrest
    rw [skipRule?, htake, hdrop, List.length_replicate, if_pos hn]
  · intro h
    obtain ⟨rest, hrest, hskip⟩ := h
    rw [skipRule?] at hskip
    split at hskip
    · rename_i hlength
      cases hskip
      refine ⟨_, ⟨_, hlength, ?_⟩, _, hrest, List.takeWhile_append_dropWhile⟩
      refine List.eq_replicate_iff.mpr ⟨rfl, fun c hc => ?_⟩
      simpa using List.mem_takeWhile_imp hc
    · cases hskip

theorem mem_name_mul_iff (hL : Opens heads L) (hheads : heads.any Text.isWordChar = false)
    {name cs : List Char} :
    (name ∈ identifier ∧ cs ∈ {name} * L) ↔
      ∃ rest ∈ L, Text.takeIdentifier? cs = some (name, rest) := by
  rw [Language.mem_mul]
  constructor
  · intro h
    obtain ⟨⟨first, later, hfirst, hlater, rfl⟩, _, rfl, rest, hrest, rfl⟩ := h
    obtain ⟨htake, hdrop⟩ := hL.stops hheads hlater hrest
    refine ⟨rest, hrest, ?_⟩
    rw [List.cons_append, Text.takeIdentifier?, if_pos hfirst, htake, hdrop]
  · intro h
    obtain ⟨rest, hrest, htake⟩ := h
    cases cs with
    | nil => cases htake
    | cons first cs =>
        rw [Text.takeIdentifier?] at htake
        split at htake
        · rename_i hfirst
          cases htake
          refine ⟨⟨first, _, hfirst, fun c hc => List.mem_takeWhile_imp hc, rfl⟩, _, rfl, _, hrest,
            ?_⟩
          rw [List.cons_append, List.takeWhile_append_dropWhile]
        · cases htake

end Opens

theorem mem_lineRest_iff {cs : List Char} : cs ∈ lineRest ↔ isLineRest cs = true := by
  rw [lineRest, Language.mem_mul]
  constructor
  · intro h
    obtain ⟨front, rfl | ⟨text, rfl⟩, last, hlast, rfl⟩ := h
    · cases hlast with
      | inl hnone =>
          cases hnone
          rfl
      | inr hreturn =>
          cases hreturn
          rfl
    · rfl
  · intro h
    unfold isLineRest at h
    split at h
    · exact ⟨[], .inl rfl, [], .inl rfl, rfl⟩
    · exact ⟨[], .inl rfl, ['\r'], .inr rfl, rfl⟩
    · exact ⟨_, .inr ⟨_, rfl⟩, [], .inl rfl, List.append_nil _⟩
    · cases h

theorem mem_parameters_mul_iff {L : Language Char} {cs : List Char} :
    '(' :: cs ∈ parameters * L ↔ ∃ rest ∈ L, skipParameters? ('(' :: cs) = some rest := by
  rw [Language.mem_mul]
  constructor
  · intro h
    obtain ⟨front, ⟨inner, hinner, rfl⟩, rest, hrest, heq⟩ := h
    rw [List.cons_append, List.append_assoc] at heq
    cases heq
    have hfront : ∀ c ∈ inner, (c != ')') = true := by
      intro c hc
      exact bne_iff_ne.mpr fun heq => hinner (heq ▸ hc)
    refine ⟨rest, hrest, ?_⟩
    simp only [skipParameters?]
    rw [List.dropWhile_append_of_pos hfront]
    rfl
  · intro h
    obtain ⟨rest, hrest, hskip⟩ := h
    simp only [skipParameters?] at hskip
    split at hskip
    · rename_i c after hdrop
      cases hskip
      obtain rfl : c = ')' := by
        simpa using Text.head?_dropWhile_not (· != ')') cs c (by rw [hdrop]; rfl)
      refine ⟨'(' :: (cs.takeWhile (· != ')') ++ [')']), ⟨_, ?_, rfl⟩, _, hrest, ?_⟩
      · intro hmem
        simpa using List.mem_takeWhile_imp hmem
      · rw [List.cons_append, List.append_assoc, List.singleton_append, ← hdrop,
          List.takeWhile_append_dropWhile]
    · cases hskip

theorem gap_mul_gap : gap * gap = gap := by
  ext cs
  rw [Language.mem_mul]
  constructor
  · intro h
    obtain ⟨a, ha, b, hb, rfl⟩ := h
    intro c hc
    cases List.mem_append.mp hc with
    | inl hc => exact ha c hc
    | inr hc => exact hb c hc
  · intro h
    exact ⟨[], fun _ hc => absurd hc List.not_mem_nil, cs, h, rfl⟩

theorem gap_mul_optional (P M : Language Char) :
    gap * ((1 + P) * (gap * M)) = gap * (M + P * (gap * M)) := by
  rw [add_mul, one_mul, mul_add, mul_add, ← mul_assoc gap gap M, gap_mul_gap]

/-- What may stand after the parameters and the gap behind them. -/
def afterParameters : Language Char :=
  lineRest + rule * (gap * lineRest)

/-- What may stand after the name and the gap behind it. -/
def afterName : Language Char :=
  afterParameters + parameters * (gap * afterParameters)

theorem knotLine_eq (name : List Char) :
    knotLine name = gap * (rule * (gap * ({name} * (gap * afterName)))) := by
  rw [afterName, ← gap_mul_optional, afterParameters, ← gap_mul_optional, knotLine]
  simp only [mul_assoc]

theorem opens_afterParameters : Opens ['/', '\r', '='] afterParameters :=
  (opens_lineRest.mono (by decide)).add
    ((opens_rule.mono (by decide)).mul_of_nil_not_mem nil_not_mem_rule)

theorem opens_afterName : Opens ['/', '\r', '=', '('] afterName :=
  (opens_afterParameters.mono (by decide)).add
    ((opens_parameters.mono (by decide)).mul_of_nil_not_mem nil_not_mem_parameters)

/-- An optional part with a gap behind it is there exactly if the text begins as the part does; then
it is passed over, and the gap with it. -/
theorem mem_optional_iff {heads : List Char} {head : Char} {P M : Language Char}
    {skip? : List Char → Option (List Char)} (hM : Opens heads M)
    (hheads : heads.any isGap = false) (hhead : head ∉ heads)
    (hP : Opens [head] P) (hnil : [] ∉ P)
    (hpart : ∀ cs, head :: cs ∈ P * (gap * M) ↔
      ∃ rest ∈ gap * M, skip? (head :: cs) = some rest)
    (hother : ∀ cs, (∀ rest, cs ≠ head :: rest) → skip? cs = some cs)
    {cs : List Char} (hcs : skipGap cs = cs) :
    cs ∈ M + P * (gap * M) ↔ ∃ rest, skip? cs = some rest ∧ skipGap rest ∈ M := by
  by_cases hbegins : ∃ rest, cs = head :: rest
  · obtain ⟨rest, rfl⟩ := hbegins
    have hnone : head :: rest ∉ M := fun hmem => hhead (hM _ _ hmem)
    rw [Language.mem_add, hpart]
    simp only [hnone, false_or, mem_gap_mul_iff hM hheads]
    constructor
    · intro h
      obtain ⟨later, hlater, hskip⟩ := h
      exact ⟨later, hskip, hlater⟩
    · intro h
      obtain ⟨later, hskip, hlater⟩ := h
      exact ⟨later, hlater, hskip⟩
  · have hnone : cs ∉ P * (gap * M) := by
      intro hmem
      cases cs with
      | nil =>
          obtain ⟨a, ha, b, -, hab⟩ := Language.mem_mul.mp hmem
          cases List.append_eq_nil_iff.mp hab with
          | intro hnone _ => exact hnil (hnone ▸ ha)
      | cons c rest =>
          have hc := hP.mul_of_nil_not_mem hnil c rest hmem
          exact hbegins ⟨rest, by rw [List.mem_singleton.mp hc]⟩
    rw [hother cs fun rest heq => hbegins ⟨rest, heq⟩, Language.mem_add]
    simp only [hnone, or_false, Option.some.injEq, exists_eq_left', hcs]

theorem mem_afterParameters_iff {cs : List Char} (hcs : skipGap cs = cs) :
    cs ∈ afterParameters ↔
      ∃ rest, skipClosingRule? cs = some rest ∧ skipGap rest ∈ lineRest := by
  refine mem_optional_iff opens_lineRest (by decide) (by decide) opens_rule
    nil_not_mem_rule ?_ ?_ hcs
  · intro rest
    have hopens : Opens ['/', '\r', ' ', '\t'] (gap * lineRest) :=
      (opens_gap.mono (by decide)).mul (opens_lineRest.mono (by decide))
    exact mem_rule_mul_iff hopens (by decide)
  · intro other hother
    unfold skipClosingRule?
    split
    · exact absurd rfl (hother _)
    · rfl

theorem mem_afterName_iff {cs : List Char} (hcs : skipGap cs = cs) :
    cs ∈ afterName ↔
      ∃ rest, skipParameters? cs = some rest ∧ skipGap rest ∈ afterParameters := by
  refine mem_optional_iff opens_afterParameters (by decide) (by decide) opens_parameters
    nil_not_mem_parameters (fun rest => mem_parameters_mul_iff) ?_ hcs
  intro other hother
  unfold skipParameters?
  split
  · exact absurd rfl (hother _)
  · rfl

theorem skipGap_skipGap (cs : List Char) : skipGap (skipGap cs) = skipGap cs :=
  Text.dropWhile_eq_self _ _ (Text.head?_dropWhile_not _ _)

theorem opens_name_mul {name : List Char} (hname : name ∈ identifier) (L : Language Char) :
    ∃ first, Text.isIdentifierStart first = true ∧ Opens [first] ({name} * L) := by
  obtain ⟨first, later, hfirst, -, rfl⟩ := hname
  refine ⟨first, hfirst, ?_⟩
  intro c cs h
  obtain ⟨a, rfl, b, -, hab⟩ := Language.mem_mul.mp h
  cases hab
  exact .head _

/-- Reading a line is following its parts, each after the gap in front of it. -/
theorem knotOnLine?_eq_some_steps {line name : List Char} :
    knotOnLine? line = some name ↔ name ≠ functionWord ∧
      ∃ afterRule, skipRule? (skipGap line) = some afterRule ∧
      ∃ rest, Text.takeIdentifier? (skipGap afterRule) = some (name, rest) ∧
      ∃ later, skipParameters? (skipGap rest) = some later ∧
      ∃ last, skipClosingRule? (skipGap later) = some last ∧
        isLineRest (skipGap last) = true := by
  simp only [knotOnLine?, bind, Option.bind_eq_some_iff]
  constructor
  · intro h
    obtain ⟨afterRule, hrule, ⟨read, rest⟩, hname, h⟩ := h
    dsimp only at h
    split at h
    · cases h
    · rename_i hword
      obtain ⟨later, hlater, last, hlast, hend⟩ := by
        simpa only [Option.bind_eq_some_iff] using h
      split at hend
      · rename_i hfinal
        cases hend
        exact ⟨hword, afterRule, hrule, rest, hname, later, hlater, last, hlast, hfinal⟩
      · cases hend
  · intro h
    obtain ⟨hword, afterRule, hrule, rest, hname, later, hlater, last, hlast, hend⟩ := h
    refine ⟨afterRule, hrule, (name, rest), hname, ?_⟩
    dsimp only
    rw [if_neg hword]
    simp only [Option.bind_eq_some_iff]
    exact ⟨later, hlater, last, hlast, if_pos hend⟩

theorem mem_knotLine_iff {line name : List Char} (hname : name ∈ identifier) :
    line ∈ knotLine name ↔
      ∃ afterRule, skipRule? (skipGap line) = some afterRule ∧
        skipGap afterRule ∈ {name} * (gap * afterName) := by
  obtain ⟨first, hfirst, hopens⟩ := opens_name_mul hname (gap * afterName)
  have hgap : [first].any isGap = false := by
    refine Bool.eq_false_iff.mpr fun hgap => ?_
    obtain rfl | rfl : first = ' ' ∨ first = '\t' := by simpa [isGap] using hgap
    · exact absurd hfirst (by decide)
    · exact absurd hfirst (by decide)
  have hrule : '=' ∉ [' ', '\t', first] := by
    intro hmem
    obtain rfl : first = '=' := by simpa [eq_comm] using hmem
    exact absurd hfirst (by decide)
  rw [knotLine_eq,
    mem_gap_mul_iff (opens_rule.mul_of_nil_not_mem nil_not_mem_rule) (by decide),
    mem_rule_mul_iff ((opens_gap.mono (by simp)).mul (hopens.mono (by simp))) hrule]
  simp only [mem_gap_mul_iff hopens hgap]
  constructor
  · intro h
    obtain ⟨afterRule, hmem, hskip⟩ := h
    exact ⟨afterRule, hskip, hmem⟩
  · intro h
    obtain ⟨afterRule, hskip, hmem⟩ := h
    exact ⟨afterRule, hmem, hskip⟩

theorem knotOnLine?_eq_some_iff {line name : List Char} :
    knotOnLine? line = some name ↔ Declares line name := by
  have hrest : ∀ rest, (∃ later, skipParameters? (skipGap rest) = some later ∧
      ∃ last, skipClosingRule? (skipGap later) = some last ∧ isLineRest (skipGap last) = true) ↔
      rest ∈ gap * afterName := by
    intro rest
    rw [mem_gap_mul_iff opens_afterName (by decide),
      mem_afterName_iff (skipGap_skipGap rest)]
    simp only [mem_afterParameters_iff (skipGap_skipGap _), mem_lineRest_iff]
  have hname : ∀ cs, (∃ rest, Text.takeIdentifier? cs = some (name, rest) ∧
      rest ∈ gap * afterName) ↔ name ∈ identifier ∧ cs ∈ {name} * (gap * afterName) := by
    intro cs
    have hopens : Opens [' ', '\t', '/', '\r', '=', '('] (gap * afterName) :=
      (opens_gap.mono (by decide)).mul (opens_afterName.mono (by decide))
    rw [mem_name_mul_iff hopens (by decide)]
    simp only [and_comm]
  rw [knotOnLine?_eq_some_steps, Declares]
  simp only [hrest, hname]
  constructor
  · intro h
    obtain ⟨hword, afterRule, hrule, hidentifier, hmem⟩ := h
    exact ⟨hidentifier, hword, (mem_knotLine_iff hidentifier).mpr ⟨afterRule, hrule, hmem⟩⟩
  · intro h
    obtain ⟨hidentifier, hword, hline⟩ := h
    obtain ⟨afterRule, hrule, hmem⟩ := (mem_knotLine_iff hidentifier).mp hline
    exact ⟨hword, afterRule, hrule, hidentifier, hmem⟩

theorem splitBy_eq_splitOnP (p : Char → Bool) (cs : List Char) :
    Text.splitBy p cs = cs.splitOnP p := by
  induction cs with
  | nil => rfl
  | cons c cs ih =>
      rw [Text.splitBy, List.splitOnP_cons_eq_if_modifyHead, ih]
      split
      · rfl
      · cases hpieces : cs.splitOnP p with
        | nil => exact absurd hpieces (List.splitOnP_ne_nil p cs)
        | cons piece pieces => rfl

theorem feedLines_eq_splitOn (content : String) :
    feedLines content = content.toList.splitOn '\n' :=
  splitBy_eq_splitOnP _ _

/-- The knots of a text are the names that its pieces between line feeds declare by the grammar, in
order and one for each such piece. So the knots of two texts with a line feed between them are those
of the one and those of the other. -/
theorem knots_by_grammar :
    (∀ content : String, ∃ declared : List (Option (List Char)),
      List.Forall₂ (fun line found => ∀ name, found = some name ↔ Declares line name)
        (content.toList.splitOn '\n') declared ∧
      knots content = declared.filterMap (·.map String.ofList)) ∧
    ∀ a b : String, knots (a ++ "\n" ++ b) = knots a ++ knots b := by
  constructor
  · intro content
    refine ⟨(content.toList.splitOn '\n').map knotOnLine?, ?_, ?_⟩
    · rw [List.forall₂_map_right_iff, List.forall₂_same]
      exact fun line _ name => knotOnLine?_eq_some_iff
    · rw [knots, feedLines_eq_splitOn, List.filterMap_map]
      rfl
  · intro a b
    have hlines : feedLines (a ++ "\n" ++ b) = feedLines a ++ feedLines b := by
      simp only [feedLines_eq_splitOn, String.toList_append, List.append_assoc]
      exact List.splitOnP_append_cons _ _ rfl
    rw [knots, hlines, List.filterMap_append]
    rfl

example : knots "=== function f ===\n\t==functional( a, -> b )== // ==\r\n= f\n== one" =
    ["functional", "one"] := by
  decide

end Grammar
end KnotAtlas.Source
