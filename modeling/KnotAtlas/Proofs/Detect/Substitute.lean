import KnotAtlas.Proofs.Detect.Rejection
import KnotAtlas.Proofs.Story.WellFormed

/-!
Where a choice leads while it is checked. The choice is made in the knot that was given, or in the
one that is remembered if the graph does not know that one. As long as links lead out of it, the
answer is a knot of the graph: the detector's own, or the target of the link that the choice comes
closest to. There is such a link for every choice, however far off.
-/

namespace KnotAtlas

namespace Validated

/-- The place among some targets that a choice comes closest to. -/
def closestPlace (count : Nat) (index : Int) : Int :=
  min (max index 0) (count - 1)

theorem closestPlace_in_range {count : Nat} (h : count ≠ 0) (index : Int) :
    0 ≤ closestPlace count index ∧ closestPlace count index < count := by
  rw [closestPlace]
  omega

theorem toNat_closestPlace (count : Nat) (index : Int) :
    (closestPlace count index).toNat = min index.toNat (count - 1) := by
  rw [closestPlace]
  omega

theorem closestTarget?_eq (links : List Link) (knot : String) (index : Int) :
    closestTarget? links knot index =
      (targetsOf links knot)[(closestPlace (targetsOf links knot).length index).toNat]? := by
  rw [toNat_closestPlace, closestTarget?]

variable {τ ε σ : Type} [StoryEngine ε σ] [Sub τ] [LT τ] [DecidableLT τ]
  {v : Validated τ} {now : τ} {a : Analysis}

/-- While a choice is checked against the graph of a story, its answer is a knot of the graph unless
no link leads out of the knot that it is made in. A name of the detector that the graph does not know
is replaced by the target of the link that the choice comes closest to, which is there for every
choice. -/
theorem afterChoice_substituted {source : Story.Source} {built : Story.Built}
    (hbuild : source.build.value = .ok built) (hcheck : v.checking? now = some a)
    (hgraph : a.graph = built.graph) (e : ε) (knot : String) (index : Int) (verified : Bool) :
    let g := built.graph
    let origin := if knot ∈ g.knots then knot else v.detector.lastKnown.getD knot
    let targets := targetsOf g.links origin
    let place := closestPlace targets.length index
    let named := (v.detector.afterChoice e origin index verified).value.1
    let out := (v.afterChoice now e knot index verified).value
    (out.1 ∈ g.knots ∨ targets = []) ∧
    (named ∈ g.knots ∨ targets = [] → out.1 = named) ∧
    (named ∉ g.knots → targets ≠ [] →
      0 ≤ place ∧ place < targets.length ∧ targets[place.toNat]? = some out.1) := by
  obtain ⟨graph, lost, ends⟩ := a
  obtain rfl : graph = built.graph := hgraph
  intro g origin targets place named out
  have hout : out.1 =
      if named ∈ g.knots then named else (closestTarget? g.links origin index).getD named := by
    have hchecked := afterChoice_checked hcheck e knot index verified
    rw [foretold, standing_checked hcheck] at hchecked
    exact hchecked
  by_cases hnamed : named ∈ g.knots
  · rw [if_pos hnamed] at hout
    exact ⟨.inl (hout ▸ hnamed), fun _ => hout, fun h => absurd hnamed h⟩
  rw [if_neg hnamed, closestTarget?_eq] at hout
  change out.1 = targets[place.toNat]?.getD named at hout
  by_cases htargets : targets = []
  · rw [htargets] at hout
    exact ⟨.inr htargets, fun _ => hout, fun _ h => absurd htargets h⟩
  · obtain ⟨hlow, hhigh⟩ := closestPlace_in_range (mt List.eq_nil_of_length_eq_zero htargets) index
    have hplace : place.toNat < targets.length := by
      omega
    rw [List.getElem?_eq_getElem hplace, Option.getD_some] at hout
    obtain ⟨l, hl, -, htarget⟩ := mem_targetsOf.mp (List.getElem_mem hplace)
    have hknown := (Story.build_ends_known hbuild hl).2
    rw [htarget, ← hout] at hknown
    exact ⟨.inl hknown, fun h => absurd h (not_or.mpr ⟨hnamed, htargets⟩),
      fun _ _ => ⟨hlow, hhigh, by rw [List.getElem?_eq_getElem hplace, hout]⟩⟩

/-- A graph whose first knot leads to the other two. -/
def crossing : Graph :=
  ⟨["A", "B", "C"], [⟨"A", "B", "on", false⟩, ⟨"A", "C", "off", true⟩]⟩

/-- The story of that graph. -/
def crossingStory : Value :=
  .object [("root", .list [.null, .object
    [("A", .list [.str "^on", .object [("->", .str "B")], .object [("*", .str "A.c-0")],
        .object [("c-0", .list [.str "^off", .object [("->", .str "C")]])]]),
      ("B", .list []), ("C", .list [])]])]

/-- A layer that has the graph, with a detector that maps its first knot to a place elsewhere. -/
def crossingLayer : Validated Seconds :=
  { detector := { flows := [("A", ⟨["elsewhere"], some "elsewhere"⟩)], lastKnown := some "A" }
    ttl := .whole 300
    cached := some (Analysis.ofGraph crossing, .whole 0) }

/-- Two choices in a knot that the graph does not know, one past the last link and one before the
first. The second is verified by an engine that moves on to another unknown place. -/
theorem crossing_substituted :
    (Story.Source.decoded crossingStory).build.value = .ok ⟨crossing, {}⟩ ∧
    crossingLayer.checking? (.whole 10) = some (Analysis.ofGraph crossing) ∧
    (crossingLayer.afterChoice (.whole 10) straying "lost" 99 false).value.1 = "C" ∧
    (crossingLayer.afterChoice (.whole 10) straying "lost" (-99) true).value.1 = "B" := by
  have hbuild : (Story.Source.decoded crossingStory).build.value = .ok ⟨crossing, {}⟩ := by
    decide +kernel
  have hcheck : crossingLayer.checking? (.whole 10) = some (Analysis.ofGraph crossing) := rfl
  obtain ⟨-, -, hpast⟩ := afterChoice_substituted hbuild hcheck rfl straying "lost" 99 false
  obtain ⟨-, -, hbefore⟩ := afterChoice_substituted hbuild hcheck rfl straying "lost" (-99) true
  obtain ⟨-, -, hlast⟩ := hpast (by decide) (by decide)
  obtain ⟨-, -, hfirst⟩ := hbefore (by decide) (by decide)
  exact ⟨hbuild, hcheck, (Option.some.inj hlast).symm, (Option.some.inj hfirst).symm⟩

end Validated
end KnotAtlas
