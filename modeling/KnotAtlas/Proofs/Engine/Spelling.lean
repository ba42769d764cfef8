import KnotAtlas.Engine.Signal
import KnotAtlas.Proofs.Except

/-!
Spellings of attributes. A tree of attributes is spelled anew by giving members that go by two names
the other one, each on its own, in objects that have such a member under one name only. Every
reading of a tree goes by all the names of a member at once, so it finds the same in the tree that
is spelled anew, and the position signals of two such states are the same.
-/

namespace KnotAtlas

namespace Attribute

/-- The members that go by two names. -/
def dualNames : List (List String) :=
  [["callStack", "call_stack"], ["currentPointer", "current_pointer"],
    ["currentPathString", "current_path_string"], ["canContinue", "can_continue"],
    ["Continue", "continue_story"], ["ToJson", "to_json"], ["LoadJson", "load_json"]]

/-- Whether at most one of `names` is among the keys. -/
def Once (names keys : List String) : Prop :=
  ∀ key ∈ keys, ∀ other ∈ keys, key ∈ names → other ∈ names → key = other

/-- A key of one object and the key in its place in another: the same key, or another name of a
member that neither object has under both names. -/
inductive SameKey (keys keys' : List String) : String → String → Prop where
  | kept (key : String) : SameKey keys keys' key key
  | renamed {names : List String} {key key' : String} : names ∈ dualNames → key ∈ names →
    key' ∈ names → Once names keys → Once names keys' → SameKey keys keys' key key'

instance (names keys : List String) : Decidable (Once names keys) :=
  inferInstanceAs
    (Decidable (∀ key ∈ keys, ∀ other ∈ keys, key ∈ names → other ∈ names → key = other))

theorem sameKey_iff {keys keys' : List String} {key key' : String} :
    SameKey keys keys' key key' ↔ key = key' ∨ ∃ names ∈ dualNames, key ∈ names ∧ key' ∈ names ∧
      Once names keys ∧ Once names keys' := by
  constructor
  · intro h
    cases h with
    | kept => exact .inl rfl
    | renamed hdual hkey hkey' honce honce' =>
        exact .inr ⟨_, hdual, hkey, hkey', honce, honce'⟩
  · intro h
    cases h with
    | inl h => exact h ▸ .kept key
    | inr h =>
        obtain ⟨names, hdual, hkey, hkey', honce, honce'⟩ := h
        exact .renamed hdual hkey hkey' honce honce'

instance (keys keys' : List String) (key key' : String) : Decidable (SameKey keys keys' key key') :=
  decidable_of_iff _ sameKey_iff.symm

/-- An attribute and the same one spelled anew. -/
inductive Respelled : Attribute → Attribute → Prop where
  | same (a : Attribute) : Respelled a a
  | list {items items' : List Attribute} : List.Forall₂ Respelled items items' →
    Respelled (.list items) (.list items')
  | callable {a b : Attribute} : Respelled a b → Respelled (.callable a) (.callable b)
  | object {members members' : List (String × Attribute)} :
    List.Forall₂ (SameKey (members.map Prod.fst) (members'.map Prod.fst)) (members.map Prod.fst)
      (members'.map Prod.fst) →
    List.Forall₂ Respelled (members.map Prod.snd) (members'.map Prod.snd) →
    Respelled (.object members) (.object members')

/-- Names that are read together: all the names of a member, or a name that no such member has. -/
def Whole (names : List String) : Prop :=
  ∀ dual ∈ dualNames, ∀ key ∈ dual, key ∈ names → dual = names

section Keys

variable {names keys keys' : List String} {key key' : String}

theorem SameKey.mem_iff (h : SameKey keys keys' key key') (hwhole : Whole names) :
    key ∈ names ↔ key' ∈ names := by
  cases h with
  | kept key => rfl
  | @renamed dual _ _ hdual hkey hkey' _ _ =>
      constructor
      · intro hmem
        exact hwhole dual hdual key hkey hmem ▸ hkey'
      · intro hmem
        exact hwhole dual hdual key' hkey' hmem ▸ hkey

theorem SameKey.eq_of_not_once (h : SameKey keys keys' key key') (hwhole : Whole names)
    (hmany : ¬ (Once names keys ∧ Once names keys')) (hmem : key ∈ names ∨ key' ∈ names) :
    key = key' := by
  cases h with
  | kept key => rfl
  | @renamed dual _ _ hdual hkey hkey' honce honce' =>
      have hnames : dual = names := by
        cases hmem with
        | inl hmem => exact hwhole dual hdual key hkey hmem
        | inr hmem => exact hwhole dual hdual key' hkey' hmem
      subst hnames
      exact absurd ⟨honce, honce'⟩ hmany

theorem Once.of_cons (h : Once names (key :: keys)) : Once names keys := by
  intro first hfirst second hsecond
  exact h first (.tail _ hfirst) second (.tail _ hsecond)

theorem Once.cons (h : Once names keys)
    (hkey : key ∉ names) : Once names (key :: keys) := by
  intro first hfirst second hsecond hmem hmem'
  have htail : ∀ k ∈ key :: keys, k ∈ names → k ∈ keys := by
    intro k hk hmem
    refine List.mem_of_ne_of_mem ?_ hk
    intro heq
    exact hkey (heq ▸ hmem)
  exact h first (htail first hfirst hmem) second (htail second hsecond hmem') hmem hmem'

theorem SameKey.cons (h : SameKey keys keys' key key') {other : String}
    (hplain : ∀ names ∈ dualNames, other ∉ names) :
    SameKey (other :: keys) (other :: keys') key key' := by
  cases h with
  | kept => exact .kept key
  | renamed hdual hkey hkey' honce honce' =>
      exact .renamed hdual hkey hkey' (honce.cons (hplain _ hdual)) (honce'.cons (hplain _ hdual))

end Keys

/-- What stands first under any of `names`. -/
def firstUnder (names : List String) (members : Members) : Option Attribute :=
  members.findSome? fun entry => if entry.1 ∈ names then some entry.2 else none

theorem firstUnder_cons (names : List String) (entry : String × Attribute) (members : Members) :
    firstUnder names (entry :: members) =
      if entry.1 ∈ names then some entry.2 else firstUnder names members := by
  rw [firstUnder, List.findSome?_cons]
  split
  · rename_i a ha
    split at ha
    · rw [if_pos ‹_›, ha]
    · cases ha
  · rename_i ha
    split at ha
    · cases ha
    · rw [if_neg ‹_›]
      rfl

theorem firstUnder_singleton (name : String) (members : Members) :
    firstUnder [name] members = members.find? name := by
  induction members with
  | nil => rfl
  | cons entry rest ih =>
      rw [firstUnder_cons, OrderedMap.find?_cons, ih]
      simp only [List.mem_singleton, eq_comm]

theorem findSome?_of_only {α β : Type} {f : α → Option β} {a : α} {as : List α} (hmem : a ∈ as)
    (hothers : ∀ other ∈ as, other ≠ a → f other = none) : as.findSome? f = f a := by
  induction as with
  | nil => cases hmem
  | cons first rest ih =>
      rw [List.findSome?_cons]
      by_cases hfirst : first = a
      · subst hfirst
        cases hf : f first with
        | some b => rfl
        | none =>
            refine List.findSome?_eq_none_iff.mpr fun other hother => ?_
            by_cases hsame : other = first
            · rw [hsame, hf]
            · exact hothers other (.tail _ hother) hsame
      · rw [hothers first (.head _) hfirst]
        exact ih (List.mem_of_ne_of_mem (Ne.symm hfirst) hmem) fun other hother =>
          hothers other (.tail _ hother)

/-- Under one name at most, the first name that is there stands where any of them does. -/
theorem findSome?_eq_firstUnder {names : List String} {members : Members}
    (h : Once names (members.map Prod.fst)) :
    names.findSome? members.find? = firstUnder names members := by
  induction members with
  | nil => exact List.findSome?_eq_none_iff.mpr fun name _ => rfl
  | cons entry rest ih =>
      rw [firstUnder_cons]
      by_cases hentry : entry.1 ∈ names
      · rw [if_pos hentry, findSome?_of_only hentry]
        · rw [OrderedMap.find?_cons, if_pos rfl]
        · intro other hother hne
          rw [OrderedMap.find?_cons, if_neg hne]
          refine OrderedMap.find?_eq_none_of_not_mem fun hkey => hne ?_
          exact h other (.tail _ hkey) entry.1 (.head _) hother hentry
      · rw [if_neg hentry, ← ih h.of_cons, ← List.head?_filterMap, ← List.head?_filterMap]
        refine congrArg List.head? (List.filterMap_congr fun name hname => ?_)
        rw [OrderedMap.find?_cons, if_neg]
        intro heq
        exact hentry (heq ▸ hname)

theorem exists_only {names : List String} {members : Members} {first : String}
    (h : Once names (members.map Prod.fst)) (hfirst : first ∈ names) :
    ∃ name ∈ names, members.find? name = names.findSome? members.find? ∧
      ∀ other ∈ names, other ≠ name → members.find? other = none := by
  by_cases hany : ∃ name ∈ names, name ∈ members.map Prod.fst
  · obtain ⟨name, hname, hkey⟩ := hany
    have honly : ∀ other ∈ names, other ≠ name → members.find? other = none := by
      intro other hother hne
      exact OrderedMap.find?_eq_none_of_not_mem fun hkey' =>
        hne (h other hkey' name hkey hother hname)
    exact ⟨name, hname, (findSome?_of_only hname honly).symm, honly⟩
  · have hnone : ∀ name ∈ names, members.find? name = none := fun name hname =>
      OrderedMap.find?_eq_none_of_not_mem fun hkey => hany ⟨name, hname, hkey⟩
    exact ⟨first, hfirst, (hnone first hfirst).trans (List.findSome?_eq_none_iff.mpr hnone).symm,
      fun other hother _ => hnone other hother⟩

/-- Objects whose keys and values correspond have the same standing first under names that
corresponding keys are both among. -/
theorem firstUnder_alike {names : List String} {P : String → String → Prop}
    {R : Attribute → Attribute → Prop} {members members' : Members}
    (hkeys : List.Forall₂ P (members.map Prod.fst) (members'.map Prod.fst))
    (hvalues : List.Forall₂ R (members.map Prod.snd) (members'.map Prod.snd))
    (hmem : ∀ key key', P key key' → (key ∈ names ↔ key' ∈ names)) :
    Option.Rel R (firstUnder names members) (firstUnder names members') := by
  rw [List.forall₂_map_left_iff, List.forall₂_map_right_iff] at hkeys hvalues
  induction hkeys with
  | nil => exact .none
  | @cons entry entry' rest rest' hkey _ ih =>
      cases hvalues with
      | cons hvalue hvalues =>
          rw [firstUnder_cons, firstUnder_cons]
          by_cases hentry : entry.1 ∈ names
          · rw [if_pos hentry, if_pos ((hmem _ _ hkey).mp hentry)]
            exact .some hvalue
          · rw [if_neg hentry, if_neg (fun h => hentry ((hmem _ _ hkey).mpr h))]
            exact ih hvalues

theorem findSome?_alike {α β γ : Type} {R : β → γ → Prop} {f : α → Option β} {g : α → Option γ}
    {as : List α} (h : ∀ a ∈ as, Option.Rel R (f a) (g a)) :
    Option.Rel R (as.findSome? f) (as.findSome? g) := by
  induction as with
  | nil => exact .none
  | cons a rest ih =>
      rw [List.findSome?_cons, List.findSome?_cons]
      have ha := h a (.head _)
      generalize f a = x at ha
      generalize g a = y at ha
      cases ha with
      | some hbc => exact .some hbc
      | none => exact ih fun b hb => h b (.tail _ hb)

theorem read_object (names : List String) (members : Members) :
    (object members).read names =
      ((names.findSome? members.find?).getD absent).result := by
  simp only [read]
  cases names.findSome? members.find? with
  | none => rfl
  | some a => cases a <;> rfl

theorem findSome?_respelled {names : List String} {members members' : Members}
    (h : Respelled (.object members) (.object members')) (hwhole : Whole names) :
    Option.Rel Respelled (names.findSome? members.find?) (names.findSome? members'.find?) := by
  cases h with
  | same =>
      cases names.findSome? members.find? with
      | none => exact .none
      | some a => exact .some (.same a)
  | object hkeys hvalues =>
      by_cases honce : Once names (members.map Prod.fst) ∧ Once names (members'.map Prod.fst)
      · rw [findSome?_eq_firstUnder honce.1, findSome?_eq_firstUnder honce.2]
        exact firstUnder_alike hkeys hvalues fun _ _ h => h.mem_iff hwhole
      · -- A member that stands under both names is not renamed, so each name finds the same.
        refine findSome?_alike fun name hname => ?_
        rw [← firstUnder_singleton, ← firstUnder_singleton]
        refine firstUnder_alike hkeys hvalues fun key key' h => ?_
        rw [List.mem_singleton, List.mem_singleton]
        constructor
        · intro heq
          exact h.eq_of_not_once hwhole honce (.inl (heq ▸ hname)) ▸ heq
        · intro heq
          exact (h.eq_of_not_once hwhole honce (.inr (heq ▸ hname))).trans heq

namespace Respelled

variable {a b : Attribute}

theorem orAbsent {x y : Option Attribute} (h : Option.Rel Respelled x y) :
    Respelled (x.getD absent) (y.getD absent) := by
  cases h with
  | some hab => exact hab
  | none => exact .same absent

theorem result (h : Respelled a b) : Except.Alike Respelled a.result b.result := by
  cases h with
  | same => exact .refl .same _
  | list hitems => exact .ok (.list hitems)
  | callable hresult => exact .ok (.callable hresult)
  | object hkeys hvalues => exact .ok (.object hkeys hvalues)

theorem text?_eq (h : Respelled a b) : a.text? = b.text? := by
  cases h <;> rfl

theorem kind_eq (h : Respelled a b) : a.kind = b.kind := by
  cases h <;> rfl

theorem isTruthy_eq (h : Respelled a b) : a.isTruthy = b.isTruthy := by
  cases h with
  | list hitems =>
      cases hitems with
      | nil => rfl
      | cons => rfl
  | same | callable | object => rfl

theorem parts (h : Respelled a b) :
    Except.Alike (List.Forall₂ Respelled) a.parts b.parts := by
  cases h with
  | same => exact .refl (fun items => List.forall₂_same.mpr fun a _ => .same a) _
  | list hitems => exact .ok hitems
  | callable => exact .error _
  | object => exact .error _

theorem read (h : Respelled a b) {names : List String} (hwhole : Whole names) :
    Except.Alike Respelled (a.read names) (b.read names) := by
  cases h with
  | same => exact .refl .same _
  | list | callable => exact .ok (.same absent)
  | object hkeys hvalues =>
      rw [read_object, read_object]
      exact (orAbsent (findSome?_respelled (.object hkeys hvalues) hwhole)).result

/-- A member with one name only may stand before the others. -/
theorem cons {members members' : Members} {a a' : Attribute} {key : String}
    (h : Respelled (.object members) (.object members')) (ha : Respelled a a')
    (hplain : ∀ names ∈ dualNames, key ∉ names) :
    Respelled (.object ((key, a) :: members)) (.object ((key, a') :: members')) := by
  cases h with
  | same =>
      exact .object (List.forall₂_same.mpr fun key _ => .kept key)
        (.cons ha (List.forall₂_same.mpr fun a _ => .same a))
  | object hkeys hvalues =>
      exact .object (.cons (.kept key) (hkeys.imp fun _ _ hkey => hkey.cons hplain))
        (.cons ha hvalues)

end Respelled

instance (names : List String) : Decidable (Whole names) :=
  inferInstanceAs (Decidable (∀ dual ∈ dualNames, ∀ key ∈ dual, key ∈ names → dual = names))

theorem whole_of_mem_dualNames : ∀ names ∈ dualNames, Whole names := by
  decide +kernel

theorem exists_mem_of_mem_dualNames {names : List String} (h : names ∈ dualNames) :
    ∃ name, name ∈ names := by
  have hnonempty : ∀ names ∈ dualNames, names ≠ [] := by decide
  exact List.exists_mem_of_ne_nil names (hnonempty names h)

end Attribute

namespace Signal

open Attribute (Respelled)

variable {a b : Attribute}

theorem containerName_respelled (h : Respelled a b) : containerName a = containerName b := by
  refine (h.read (by decide)).bind_eq fun container container' hcontainer => ?_
  refine (hcontainer.read (by decide)).bind_eq fun name name' hname => ?_
  rw [hname.text?_eq]

theorem pointerName_respelled (h : Respelled a b) : pointerName a = pointerName b :=
  (h.read (by decide)).bind_eq fun _ _ => containerName_respelled

theorem mapM_pointerName_respelled {frames frames' : List Attribute}
    (h : List.Forall₂ Respelled frames frames') :
    frames.mapM pointerName = frames'.mapM pointerName := by
  induction h with
  | nil => rfl
  | cons hframe _ ih => rw [List.mapM_cons, List.mapM_cons, pointerName_respelled hframe, ih]

theorem frameNames_respelled (h : Respelled a b) : frameNames a = frameNames b := by
  refine (h.read (by decide)).bind_eq fun stack stack' hstack => ?_
  refine (hstack.read (by decide)).bind_eq fun elements elements' helements => ?_
  have hparts := helements.parts.bind_eq fun frames frames' hframes =>
    congrArg (Functor.map some) (mapM_pointerName_respelled hframes)
  cases helements with
  | same => rfl
  | list | callable | object => exact hparts

theorem pathString_respelled (h : Respelled a b) : pathString a = pathString b := by
  refine (h.read (by decide)).bind_eq fun path path' hpath => ?_
  rw [hpath.text?_eq]

theorem ofState_respelled (h : Respelled a b) : ofState a = ofState b := by
  rw [ofState, frameNames_respelled h, pointerName_respelled h, pathString_respelled h, ofState]

end Signal
end KnotAtlas
