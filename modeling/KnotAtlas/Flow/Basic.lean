import KnotAtlas.Graph.Basic
import KnotAtlas.OrderedMap

/-!
Flow maps: for each knot, where its choices lead. They predict the knot after a choice; a choice
past the known ones leads to the knot's default, if it has one. A map can be read off the links of
a graph.
-/

namespace KnotAtlas

structure Flow where
  choices : List String := []
  default? : Option String := none
  deriving DecidableEq, Repr

abbrev FlowMap := OrderedMap String Flow

namespace Flow

/-- Where choice `index` leads, if that is known. -/
def targetFor? (f : Flow) (index : Int) : Option String :=
  if 0 ≤ index ∧ index < f.choices.length then f.choices[index.toNat]? else f.default?

/-- A flow with one more choice; the first choice is the default. -/
def extend (f : Option Flow) (target : String) : Flow :=
  match f with
  | some f => { f with choices := f.choices ++ [target] }
  | none => ⟨[target], some target⟩

end Flow

namespace FlowMap

/-- The flow map of links: the targets of each knot in order, the first as its default. -/
def ofLinks (links : List Link) : FlowMap :=
  links.foldl (fun m l => m.insert l.source (Flow.extend (m.find? l.source) l.target)) []

def sample : FlowMap :=
  [("game_start", ⟨["character_setup", "background_info"], some "character_setup"⟩),
    ("background_info", ⟨["character_setup"], some "character_setup"⟩),
    ("character_setup", ⟨["profession_choice"], some "profession_choice"⟩),
    ("profession_choice", ⟨["day1_start"], some "day1_start"⟩),
    ("day1_start", ⟨["day1_first_reaction"], some "day1_first_reaction"⟩),
    ("day1_first_reaction",
      ⟨["day1_direct_response", "day1_cautious_response", "day1_analytical_first_response",
        "day1_technical_response"], some "day1_direct_response"⟩)]

end FlowMap
end KnotAtlas
