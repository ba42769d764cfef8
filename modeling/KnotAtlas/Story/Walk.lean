import KnotAtlas.Value
import KnotAtlas.Text.Digit

/-!
The walk through the body of a knot. A body is an array; arrays lie in it as items and as members
of its objects, and each is known by its place. The walk goes through the items of an array in
order. An object may be a choice point, which sends the walk into the branch that its reference
names, or a divert; then its members that are arrays follow, unless a choice point has claimed them
as branches. The walk only tells what it meets; what is kept of that is decided elsewhere, meeting
by meeting. Arrays nested past a limit, which includes a branch that leads back into itself, cut the
walk off.
-/

namespace KnotAtlas.Story

/-- A step from an array to one inside it: an item, or a member of an object among its items. -/
inductive Step where
  | item (index : Nat)
  | member (index member : Nat)
  deriving DecidableEq, Repr

/-- The steps from a body to an array in it, the last step first. -/
abbrev Path := List Step

/-- An array with its place in the body. -/
structure Place where
  path : Path
  items : List Value

inductive Meeting where
  /-- The walk enters an array. -/
  | enter (place : Place) (inChoice : Bool)
  /-- A choice point that names `key`, met below the arrays `stack`, leads to `branch`. -/
  | choice (key : String) (stack : List Place) (branch : Option Place)
  /-- A fragment of text. -/
  | text (fragment : String)
  /-- A divert. -/
  | divert (target : String) (inChoice : Bool)

/-- The digits after the first `.c-` that has any. -/
def branchDigits? : List Char → Option (List Char)
  | [] => none
  | c :: rest =>
    match c, rest with
    | '.', 'c' :: '-' :: after =>
      let digits := after.takeWhile Text.isDecimalDigit
      if digits.isEmpty then branchDigits? rest else some digits
    | _, _ => branchDigits? rest

/-- The name of the branch that a choice point refers to; none if the object is no choice point. -/
def branchKey? (members : List (String × Value)) : Option String :=
  match OrderedMap.find? members "*" with
  | some (.str reference) =>
    (branchDigits? reference.toList).map fun digits => String.ofList ('c' :: '-' :: digits)
  | _ => none

/-- The target of a divert; a divert to what a variable holds has none. -/
def divertTarget? (members : List (String × Value)) : Option String :=
  match OrderedMap.find? members "->" with
  | some (.str target) =>
    if ((OrderedMap.find? members "var").getD .null).isTruthy then none else some target
  | _ => none

/-- The fragment of text that an item stands for. -/
def fragment? (s : String) : Option String :=
  match s.toList with
  | '^' :: rest => some (String.ofList rest)
  | _ => none

/-- The array under `key` in an object that stands at `index` among the items of `path`. -/
def memberPlace? (path : Path) (index : Nat) (members : List (String × Value)) (key : String) :
    Option Place :=
  match members.zipIdx.find? (·.1.1 = key) with
  | some ((_, .list items), j) => some ⟨.member index j :: path, items⟩
  | _ => none

/-- The first array under `key` among the objects of an array. -/
def branchIn? (place : Place) (key : String) : Option Place :=
  place.items.zipIdx.findSome? fun (entry, i) =>
    match entry with
    | .object members => memberPlace? place.path i members key
    | _ => none

/-- The branch `key` of the innermost array that has one; `stack` is innermost first. -/
def findBranch? (stack : List Place) (key : String) : Option Place :=
  stack.findSome? (branchIn? · key)

/-- The places of the branches that the choice points of an array refer to. -/
def claims (stack : List Place) (items : List Value) : List Path :=
  items.filterMap fun entry =>
    match entry with
    | .object members =>
      ((branchKey? members).bind (findBranch? stack)).map (·.path)
    | _ => none

/-- A walk under way: what was kept of its meetings, and the places of claimed branches. -/
structure Tour (ρ : Type) where
  kept : ρ
  claimed : List Path := []

/-- A part of a walk; a part that is cut off gives the tour up to there as its error. -/
abbrev Leg (ρ : Type) := Tour ρ → Except (Tour ρ) (Tour ρ)

section Keeping

-- How a meeting changes what is kept. The walk itself never looks at what is kept.
variable {ρ : Type} (keep : ρ → Meeting → ρ)

namespace Tour

def note (t : Tour ρ) (m : Meeting) : Tour ρ :=
  { t with kept := keep t.kept m }

def enter (t : Tour ρ) (stack : List Place) (place : Place) (inChoice : Bool) : Tour ρ :=
  { kept := keep t.kept (.enter place inChoice)
    claimed := claims (place :: stack) place.items ++ t.claimed }

end Tour

/-- The members of an object that are arrays, except claimed ones. -/
def walkMember (descend : Place → Leg ρ) (path : Path) (index : Nat) (t : Tour ρ)
    (entry : (String × Value) × Nat) : Except (Tour ρ) (Tour ρ) :=
  match entry with
  | ((_, .list items), j) =>
    let place : Path := .member index j :: path
    if place ∈ t.claimed then .ok t else descend ⟨place, items⟩ t
  | _ => .ok t

/-- What an object is, as a choice point or a divert. -/
def visitObject (jump : Place → Leg ρ) (stack : List Place) (inChoice : Bool)
    (members : List (String × Value)) : Leg ρ := fun t =>
  match branchKey? members with
  | some key =>
    let branch := findBranch? stack key
    let t := t.note keep (.choice key stack branch)
    match branch with
    | some place => jump place t
    | none => .ok t
  | none =>
    match divertTarget? members with
    | some target => .ok (t.note keep (.divert target inChoice))
    | none => .ok t

/-- An item of an array at `path`. `descend` walks an array below the arrays of `stack`. -/
def visitItem (descend : Bool → Place → Leg ρ) (stack : List Place) (path : Path)
    (inChoice : Bool) (t : Tour ρ) (entry : Value × Nat) : Except (Tour ρ) (Tour ρ) :=
  match entry with
  | (.list items, i) => descend inChoice ⟨.item i :: path, items⟩ t
  | (.str s, _) =>
    match fragment? s with
    | some fragment => .ok (t.note keep (.text fragment))
    | none => .ok t
  | (.object members, i) => do
    let t ← visitObject keep (descend true) stack inChoice members t
    members.zipIdx.foldlM (walkMember (descend inChoice) path i) t
  | _ => .ok t

/-- Walks an array below the arrays of `stack`; at most `depth` arrays deep. -/
def walkArray : (depth : Nat) → (stack : List Place) → (inChoice : Bool) → Place → Leg ρ
  | 0, _, _, _ => fun t => .error t
  | depth + 1, stack, inChoice, place => fun t =>
    place.items.zipIdx.foldlM
      (visitItem keep (walkArray depth (place :: stack)) (place :: stack) place.path inChoice)
      (t.enter keep stack place inChoice)

def bodyPlace (body : List Value) : Place := ⟨[], body⟩

/-- A walk through a whole body; `start` is what is kept before it begins. -/
def walkBody (start : ρ) (depth : Nat) (body : List Value) : Except (Tour ρ) (Tour ρ) :=
  walkArray keep depth [] false (bodyPlace body) ⟨start, []⟩

end Keeping

end KnotAtlas.Story
