import KnotAtlas.Proofs.Story.Independence
import KnotAtlas.Wire.Records

/-!
Which decoded documents give no graph. Building stops at one thing only: a knot with a body whose
name is empty or holds half of a pair alone, which is also all that the record of a knot refuses.
Every other document gives a graph with all its knots, whatever their bodies are and however their
walks end.
-/

namespace KnotAtlas

open Text (HasHalf)
open Wire (readKnot knotValue)

namespace Graph

/-- The names that no knot can have, each with what is wrong with it. -/
inductive Refuses : String → NameFault → Prop where
  | empty : Refuses "" .empty
  | torn {knot : String} (h : HasHalf knot) : Refuses knot .torn

theorem nameFault?_eq_some_iff {knot : String} {fault : NameFault} :
    nameFault? knot = some fault ↔ Refuses knot fault := by
  rw [nameFault?]
  constructor
  · intro h
    split at h
    · rename_i hempty
      cases h
      exact hempty ▸ .empty
    · split at h
      · rename_i htorn
        cases h
        exact .torn htorn
      · cases h
  · intro h
    cases h with
    | empty => rfl
    | torn h =>
        have hne : knot ≠ "" := by
          rintro rfl
          obtain ⟨c, hc, -⟩ := h
          cases hc
        rw [if_neg hne, if_pos h]

/-- Names are refused in the order of a list: the first bad one decides. -/
theorem findSome?_nameFault?_eq_some_iff {knots : List String} {fault : NameFault} :
    knots.findSome? nameFault? = some fault ↔
      ∃ earlier knot later, knots = earlier ++ knot :: later ∧ Refuses knot fault ∧
        ∀ other ∈ earlier, ∀ f, ¬ Refuses other f := by
  have hfine : ∀ other, nameFault? other = none ↔ ∀ f, ¬ Refuses other f := by
    intro other
    rw [Option.eq_none_iff_forall_not_mem]
    exact forall_congr' fun f => not_congr nameFault?_eq_some_iff
  simp only [List.findSome?_eq_some_iff, nameFault?_eq_some_iff, hfine]

end Graph

/-- The record of a knot refuses just these names. -/
theorem Wire.readKnot_knotValue (knot : String) :
    (readKnot (knotValue knot)).toExcept =
      match Graph.nameFault? knot with
      | some fault => .error fault.message
      | none => .ok knot := by
  have hread : readKnot (knotValue knot) = (name (.str knot)).inside "id" := rfl
  rw [hread, Graph.nameFault?]
  by_cases hempty : knot = ""
  · subst hempty
    rfl
  · by_cases htorn : HasHalf knot
    · have hname : name (.str knot) = .invalid [⟨.notUnicode, []⟩] := by
        simp [name, text, Checked.ensure, Checked.fault, pure, htorn]
      rw [if_neg hempty, if_pos htorn, hname]
      rfl
    · have hname : name (.str knot) = .valid knot := by
        simp [name, text, Checked.ensure, pure, htorn, hempty]
      rw [if_neg hempty, if_neg htorn, hname]
      rfl

namespace Story

open Graph (Refuses)

theorem TrailingObject.unique {document : Value} {named other : List (String × Value)}
    (h : TrailingObject document named) (h' : TrailingObject document other) : named = other := by
  obtain ⟨members, items, rfl, hroot, hlast⟩ := h
  obtain ⟨members', items', hsame, hroot', hlast'⟩ := h'
  cases hsame
  cases hroot.symm.trans hroot'
  cases hlast.symm.trans hlast'
  rfl

/-- A document whose trailing object maps the empty name to an array. -/
def HasNamelessKnot (document : Value) : Prop :=
  ∃ named body, TrailingObject document named ∧ ("", .list body) ∈ named

theorem nameless_mem_knotKeys {named : List (String × Value)} :
    "" ∈ knotKeys named ↔ ∃ body, ("", .list body) ∈ named := by
  rw [knotKeys, List.mem_map]
  constructor
  · rintro ⟨⟨name, value⟩, hentry, rfl⟩
    obtain ⟨hmem, hkey⟩ := List.mem_filter.mp hentry
    have hbody : value.items?.isSome = true := (decide_eq_true_eq.mp hkey).2.2
    cases value with
    | list body => exact ⟨body, hmem⟩
    | null | bool _ | int _ | float _ | str _ | object _ => cases hbody
  · rintro ⟨body, hmem⟩
    have hkey : ¬ "#".isPrefixOf "" = true ∧ "" ≠ "global decl" := by decide
    exact ⟨_, List.mem_filter.mpr ⟨hmem, decide_eq_true ⟨hkey.1, hkey.2, rfl⟩⟩, rfl⟩

/-- A document with a knot that cannot have its name, no knot before it being such a one. -/
def HasRefusedKnot (document : Value) (fault : Graph.NameFault) : Prop :=
  ∃ named earlier knot later, TrailingObject document named ∧
    knotKeys named = earlier ++ knot :: later ∧ Refuses knot fault ∧
      ∀ other ∈ earlier, ∀ f, ¬ Refuses other f

/-- A graph has every knot of a document. -/
structure HasAllKnots (document : Value) (g : Graph) : Prop where
  trailing : ∀ named, TrailingObject document named → g.knots = knotKeys named
  faulty : (∀ named, ¬ TrailingObject document named) → g = {}

theorem hasRefusedKnot_iff {document : Value} {named : List (String × Value)}
    (h : TrailingObject document named) (fault : Graph.NameFault) :
    HasRefusedKnot document fault ↔
      (knotKeys named).findSome? Graph.nameFault? = some fault := by
  rw [Graph.findSome?_nameFault?_eq_some_iff]
  constructor
  · rintro ⟨other, earlier, knot, later, hother, hfirst⟩
    cases h.unique hother
    exact ⟨earlier, knot, later, hfirst⟩
  · rintro ⟨earlier, knot, later, hfirst⟩
    exact ⟨named, earlier, knot, later, h, hfirst⟩

theorem buildDecoded_of_trailing {document : Value} {named : List (String × Value)}
    (h : TrailingObject document named) :
    (∃ fault, HasRefusedKnot document fault ∧
      (buildDecoded document).value = .error (.name fault)) ∨
    ((∀ fault, ¬ HasRefusedKnot document fault) ∧
      ∃ built, (buildDecoded document).value = .ok built ∧ HasAllKnots document built.graph) := by
  have hvalue := buildDecoded_of_content (namedContent_of_trailing h)
  have hrefused := hasRefusedKnot_iff h
  rw [keys_bodies] at hvalue
  cases hfault : (knotKeys named).findSome? Graph.nameFault? with
  | some fault =>
      rw [hfault] at hvalue
      exact .inl ⟨fault, (hrefused fault).mpr hfault, hvalue⟩
  | none =>
      rw [hfault] at hvalue hrefused
      refine .inr ⟨?_, _, hvalue, ?_, fun hnone => absurd h (hnone named)⟩
      · intro fault hknot
        cases (hrefused fault).mp hknot
      · intro other hother
        cases h.unique hother
        exact keys_bodies named

theorem buildDecoded_of_not_trailing {document : Value}
    (h : ∀ named, ¬ TrailingObject document named) :
    (∀ fault, ¬ HasRefusedKnot document fault) ∧
      ∃ built, (buildDecoded document).value = .ok built ∧ HasAllKnots document built.graph := by
  -- What is wrong with the document is logged, and the graph is the empty one.
  obtain ⟨fault, hfault⟩ := namedContent_of_not_trailing h
  refine ⟨?_, _, buildDecoded_of_fault hfault, fun named ht => absurd ht (h named), fun _ => rfl⟩
  rintro fault ⟨named, -, -, -, ht, -⟩
  exact h named ht

/-- A decoded document has a knot that is refused or gives a graph. -/
theorem buildDecoded_cases (document : Value) :
    (∃ fault, HasRefusedKnot document fault ∧
      (buildDecoded document).value = .error (.name fault)) ∨
    ((∀ fault, ¬ HasRefusedKnot document fault) ∧
      ∃ built, (buildDecoded document).value = .ok built ∧ HasAllKnots document built.graph) := by
  by_cases ht : ∃ named, TrailingObject document named
  · obtain ⟨named, ht⟩ := ht
    exact buildDecoded_of_trailing ht
  · exact .inr (buildDecoded_of_not_trailing fun named h => ht ⟨named, h⟩)

theorem HasRefusedKnot.unique {document : Value} {fault other : Graph.NameFault}
    (h : HasRefusedKnot document fault) (h' : HasRefusedKnot document other) : fault = other := by
  obtain ⟨named, -, -, -, ht, -⟩ := id h
  exact Option.some.inj
    (((hasRefusedKnot_iff ht fault).mp h).symm.trans ((hasRefusedKnot_iff ht other).mp h'))

/-- Where no name holds a half, only a knot without a name is refused. -/
theorem hasRefusedKnot_iff_nameless {document : Value}
    (hwhole : ∀ named, TrailingObject document named → ∀ knot ∈ knotKeys named, ¬ HasHalf knot)
    (fault : Graph.NameFault) :
    HasRefusedKnot document fault ↔ HasNamelessKnot document ∧ fault = .empty := by
  constructor
  · rintro ⟨named, earlier, knot, later, ht, hkeys, hrefused, -⟩
    have hknot : knot ∈ knotKeys named := hkeys ▸ List.mem_append_right earlier (.head later)
    cases hrefused with
    | empty =>
        obtain ⟨body, hmem⟩ := nameless_mem_knotKeys.mp hknot
        exact ⟨⟨named, body, ht, hmem⟩, rfl⟩
    | torn hhalf => exact absurd hhalf (hwhole named ht knot hknot)
  · rintro ⟨⟨named, body, ht, hmem⟩, rfl⟩
    -- The first name that is refused is the empty one, for no other name is refused at all.
    obtain ⟨other, hother⟩ : ∃ other, (knotKeys named).findSome? Graph.nameFault? = some other :=
      Option.isSome_iff_exists.mp <| List.findSome?_isSome_iff.mpr
        ⟨"", nameless_mem_knotKeys.mpr ⟨body, hmem⟩, rfl⟩
    obtain ⟨earlier, knot, later, hkeys, hrefused, hfine⟩ :=
      Graph.findSome?_nameFault?_eq_some_iff.mp hother
    cases hrefused with
    | empty => exact ⟨named, earlier, "", later, ht, hkeys, .empty, hfine⟩
    | torn hhalf =>
        have hknot : knot ∈ knotKeys named := hkeys ▸ List.mem_append_right earlier (.head later)
        exact absurd hhalf (hwhole named ht knot hknot)

/-- A decoded story that is no text is refused exactly if one of its knots has no name or one with
half of a pair alone; the first such knot is what it is refused for, in the words in which the
record of a knot refuses it. Otherwise it gives a graph that has every knot. -/
theorem build_refused_iff (document : Value) (htext : document.text? = none) :
    let out := (Source.ofValue document).build.value
    (∀ err, out = .error err ↔ ∃ fault, HasRefusedKnot document fault ∧ err = .name fault) ∧
    (∀ knot fault, Refuses knot fault →
      (readKnot (knotValue knot)).toExcept = .error (BuildError.name fault).message) ∧
    ((∀ fault, ¬ HasRefusedKnot document fault) →
      ∃ built, out = .ok built ∧ HasAllKnots document built.graph) ∧
    ((∀ named, TrailingObject document named → ∀ knot ∈ knotKeys named, ¬ HasHalf knot) →
      ∀ err, out = .error err ↔ HasNamelessKnot document ∧ err = .name .empty) := by
  intro out
  have hout : out = (buildDecoded document).value := by
    cases document with
    | str s => cases htext
    | null | bool _ | int _ | float _ | list _ | object _ => rfl
  have herror : ∀ err, out = .error err ↔
      ∃ fault, HasRefusedKnot document fault ∧ err = .name fault := by
    intro err
    obtain ⟨fault, hrefused, hvalue⟩ | ⟨hnamed, built, hvalue, -⟩ := buildDecoded_cases document
    · rw [hout, hvalue]
      constructor
      · exact fun h => ⟨fault, hrefused, (Except.error.inj h).symm⟩
      · rintro ⟨other, hother, rfl⟩
        rw [hrefused.unique hother]
    · rw [hout, hvalue]
      exact ⟨fun h => (by cases h), fun ⟨fault, hrefused, _⟩ => absurd hrefused (hnamed fault)⟩
  refine ⟨herror, ?_, ?_, ?_⟩
  · intro knot fault hrefused
    rw [Wire.readKnot_knotValue, Graph.nameFault?_eq_some_iff.mpr hrefused]
    rfl
  · intro hnamed
    rw [hout]
    refine ((buildDecoded_cases document).resolve_left ?_).2
    rintro ⟨fault, hrefused, -⟩
    exact hnamed fault hrefused
  · intro hwhole err
    simp only [herror, hasRefusedKnot_iff_nameless hwhole]
    constructor
    · rintro ⟨fault, ⟨hnameless, rfl⟩, rfl⟩
      exact ⟨hnameless, rfl⟩
    · rintro ⟨hnameless, rfl⟩
      exact ⟨_, ⟨hnameless, rfl⟩, rfl⟩

/-- A story with a knot of the given name in front of another one. -/
def underName (name : String) (content : Value) : Value :=
  .object [("root", .list [.object [(name, content), ("A", .list endlessBody)]])]

theorem trailing_underName (name : String) (content : Value) :
    TrailingObject (underName name content) [(name, content), ("A", .list endlessBody)] :=
  ⟨_, _, rfl, rfl, rfl⟩

/-- An array under the empty name is refused, and anything else there costs nothing. -/
theorem underName_refused :
    (Source.ofValue (underName "" (.list []))).build.value = .error (.name .empty) ∧
    ∃ built, (Source.ofValue (underName "" .null)).build.value = .ok built ∧
      built.graph.knots = ["A"] := by
  obtain ⟨hrefused, -, -, -⟩ := build_refused_iff (underName "" (.list [])) rfl
  obtain ⟨-, -, hbuilt, -⟩ := build_refused_iff (underName "" .null) rfl
  have hfine : (knotKeys [("", .null), ("A", .list endlessBody)]).findSome?
      Graph.nameFault? = none := by decide +kernel
  have hnamed : ∀ fault, ¬ HasRefusedKnot (underName "" .null) fault := by
    intro fault h
    rw [hasRefusedKnot_iff (trailing_underName "" .null), hfine] at h
    cases h
  obtain ⟨built, hvalue, hknots⟩ := hbuilt hnamed
  refine ⟨(hrefused _).mpr ⟨.empty, ?_, rfl⟩, built, hvalue, ?_⟩
  · exact ⟨_, [], "", ["A"], trailing_underName _ _, by decide +kernel, .empty,
      fun _ h => by cases h⟩
  · rw [hknots.trailing _ (trailing_underName "" .null)]
    decide +kernel

/-- The first half of a pair alone. -/
def loneHalf : String :=
  String.singleton (Text.halfChar 0xD800)

/-- A knot of that name stops the building, although no knot is without a name. -/
theorem loneHalf_refused :
    (Json.read ⟨2, none⟩ "\"\\ud800\"".toList).toOption.bind (·.text?) = some loneHalf ∧
    ¬ HasNamelessKnot (underName loneHalf (.list [])) ∧
    (Source.ofValue (underName loneHalf (.list []))).build.value = .error (.name .torn) := by
  refine ⟨by decide, ?_, by decide +kernel⟩
  rintro ⟨named, body, ht, hmem⟩
  cases ht.unique (trailing_underName loneHalf (.list []))
  revert hmem
  simp [loneHalf]

end Story
end KnotAtlas
