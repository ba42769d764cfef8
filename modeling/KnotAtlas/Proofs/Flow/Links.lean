import KnotAtlas.Flow.Basic
import KnotAtlas.Graph.Neighbours
import Mathlib.Data.List.Induction

/-!
The flow map of links. It has an entry for each knot with a link out of it: the targets of the knot
in order, the first of them as the default.
-/

namespace KnotAtlas

theorem targetsOf_concat (links : List Link) (l : Link) (knot : String) :
    targetsOf (links ++ [l]) knot =
      targetsOf links knot ++ if l.source = knot then [l.target] else [] := by
  by_cases h : l.source = knot
  · simp [targetsOf, h]
  · simp [targetsOf, h]

namespace FlowMap

theorem ofLinks_concat (links : List Link) (l : Link) :
    ofLinks (links ++ [l]) =
      (ofLinks links).insert l.source
        (Flow.extend ((ofLinks links).find? l.source) l.target) := by
  rw [ofLinks, List.foldl_append]
  rfl

theorem nodup_keys_ofLinks (links : List Link) : (ofLinks links).keys.Nodup := by
  induction links using List.reverseRecOn with
  | nil => exact List.nodup_nil
  | append_singleton links l ih =>
      rw [ofLinks_concat]
      exact OrderedMap.nodup_keys_insert ih _ _

theorem find?_ofLinks (links : List Link) (knot : String) :
    (ofLinks links).find? knot =
      (targetsOf links knot).head?.map fun first => ⟨targetsOf links knot, some first⟩ := by
  induction links using List.reverseRecOn with
  | nil => rfl
  | append_singleton links l ih =>
      rw [ofLinks_concat, OrderedMap.find?_insert, targetsOf_concat]
      by_cases h : knot = l.source
      · subst h
        rw [if_pos rfl, if_pos rfl, ih]
        cases targetsOf links l.source with
        | nil => rfl
        | cons first rest => rfl
      · rw [if_neg h, if_neg (Ne.symm h), List.append_nil, ih]

end FlowMap
end KnotAtlas
