import KnotAtlas.Proofs.Text.Literal
import KnotAtlas.View.Mermaid
import Mathlib.Data.List.Dedup
import Mathlib.Data.List.DropRight
import Mathlib.Data.List.Forall2
import Mathlib.Data.List.TakeDrop

/-!
Which knots a drawing in the Mermaid language tells apart. A drawing is read line by line: an
identifier ends at a blank or at the bracket that opens a label, a line with a label declares the
identifier in front of it, and a line with an arrow joins two. Two knots are drawn as one exactly if
their names differ in nothing but points, blanks, hyphens and underscores in the same places.
-/

namespace KnotAtlas.View.Mermaid

/-! ### Identifiers -/

/-- What stands for a character in an identifier. -/
def mark (c : Char) : Char :=
  if c = '.' || c = ' ' || c = '-' then '_' else c

/-- The characters that all have the same mark. -/
def blurred : List Char := ['.', ' ', '-', '_']

/-- Whether two names can be told apart at most by which of the blurred characters stand in some
places. -/
def Blurs (a b : String) : Prop :=
  List.Forall₂ (fun c d => c = d ∨ c ∈ blurred ∧ d ∈ blurred) a.toList b.toList

theorem toList_identifier (name : String) : (identifier name).toList = name.toList.map mark := by
  rw [identifier, String.toList_ofList]
  rfl

theorem mark_eq_iff {c d : Char} : mark c = mark d ↔ c = d ∨ c ∈ blurred ∧ d ∈ blurred := by
  grind [mark, blurred]

theorem identifier_eq_iff {a b : String} : identifier a = identifier b ↔ Blurs a b := by
  rw [← String.toList_inj, toList_identifier, toList_identifier, ← List.forall₂_eq_eq_eq,
    List.forall₂_map_left_iff, List.forall₂_map_right_iff, Blurs]
  simp only [mark_eq_iff]

theorem blank_not_mem_identifier (name : String) : ' ' ∉ (identifier name).toList := by
  rw [toList_identifier, List.mem_map]
  rintro ⟨c, -, hc⟩
  grind [mark]

theorem hyphen_not_mem_identifier (name : String) : '-' ∉ (identifier name).toList := by
  rw [toList_identifier, List.mem_map]
  rintro ⟨c, -, hc⟩
  grind [mark]

/-- Whether a name has no character that would end the identifier made of it, or its line. -/
def Drawable (name : String) : Prop :=
  ∀ c ∈ name.toList, c ≠ '\n' ∧ c ≠ '[' ∧ c ≠ '('

theorem drawable_of_any {name : String}
    (h : (name.toList.any fun c => c = '\n' || c = '[' || c = '(') = false) : Drawable name := by
  intro c hc
  have hplain := List.any_eq_false.mp h c hc
  simpa [not_or, and_assoc] using hplain

/-- Whether a character ends an identifier. -/
def endsIdentifier (c : Char) : Bool :=
  c = ' ' || c = '[' || c = '('

theorem Drawable.identifier_chars {name : String} (h : Drawable name) :
    ∀ c ∈ (identifier name).toList, c ≠ '\n' ∧ endsIdentifier c = false := by
  rw [toList_identifier]
  intro c hc
  obtain ⟨d, hd, rfl⟩ := List.mem_map.mp hc
  obtain ⟨hfeed, hsquare, hround⟩ := h d hd
  grind [mark, endsIdentifier]

/-! ### Reading a line -/

/-- The identifier at the start of an indented line, and what follows it. -/
def start? : List Char → Option (List Char × List Char)
  | ' ' :: ' ' :: rest => some (rest.span fun c => !endsIdentifier c)
  | _ => none

/-- The identifier that a line declares, which is one with a label behind it. -/
def declaration? (line : List Char) : Option String :=
  (start? line).bind fun (name, rest) =>
    if rest.head? = some '[' || rest.head? = some '(' then some (String.ofList name) else none

/-- The identifiers that a line joins, one in front of its arrow and one at its end. -/
def connection? (line : List Char) : Option (String × String) :=
  (start? line).bind fun (name, rest) =>
    if " --".toList.isPrefixOf rest then
      some (String.ofList name, String.ofList (rest.rtakeWhile (· != ' ')))
    else none

/-- The identifiers that a drawing declares, line by line. -/
def declared (drawing : String) : List String :=
  (drawing.toList.splitOn '\n').filterMap declaration?

/-- The identifiers that a drawing joins, line by line. -/
def connected (drawing : String) : List (String × String) :=
  (drawing.toList.splitOn '\n').filterMap connection?

theorem start?_indented {name rest : List Char} {c : Char}
    (hname : ∀ d ∈ name, endsIdentifier d = false) (hc : endsIdentifier c = true) :
    start? (' ' :: ' ' :: (name ++ c :: rest)) = some (name, c :: rest) := by
  have hgoes : ∀ d ∈ name, (!endsIdentifier d) = true := by
    intro d hd
    rw [hname d hd]
    rfl
  have hstops : (!endsIdentifier c) = false := by rw [hc]; rfl
  rw [start?, List.span_eq_takeWhile_dropWhile, List.takeWhile_append_of_pos hgoes,
    List.dropWhile_append_of_pos hgoes, List.takeWhile_cons_of_neg (by simp [hstops]),
    List.dropWhile_cons_of_neg (by simp [hstops]), List.append_nil]

theorem rtakeWhile_word (front : List Char) {word : List Char} (h : ' ' ∉ word) :
    (front ++ ' ' :: word).rtakeWhile (· != ' ') = word := by
  have hgoes : ∀ c ∈ word.reverse, (c != ' ') = true := by
    intro c hc
    rw [bne_iff_ne]
    rintro rfl
    exact h (List.mem_reverse.mp hc)
  rw [List.rtakeWhile, List.reverse_append, List.reverse_cons, List.append_assoc,
    List.takeWhile_append_of_pos hgoes]
  simp

/-! ### The lines of a drawing -/

/-- The line of a node. -/
def nodeLine (n : Node) : String :=
  "  " ++ identifier n.id ++ nodeForm n.shape (escape n.id)

/-- The line that marks the current knot. -/
def currentLine (n : Node) : String :=
  "  class " ++ identifier n.id ++ " current"

theorem nodeLines_eq (n : Node) :
    nodeLines n = nodeLine n :: if n.isCurrent then [currentLine n] else [] := rfl

/-- What stands between the ends of a link. -/
def arrow (noLabels : Bool) (e : Edge) : String :=
  if !noLabels && e.label != "" then " -->|\"" ++ escape e.label ++ "\"| " else " --> "

theorem edgeLine_eq (noLabels : Bool) (e : Edge) :
    edgeLine noLabels e =
      "  " ++ identifier e.source ++ arrow noLabels e ++ identifier e.target := rfl

theorem exists_nodeForm (s : Shape) (label : String) :
    ∃ c rest, (nodeForm s label).toList = c :: rest ∧ (c = '[' ∨ c = '(') := by
  cases s <;> simp [nodeForm]

theorem exists_arrow (noLabels : Bool) (e : Edge) :
    ∃ middle, (arrow noLabels e).toList = ' ' :: '-' :: '-' :: (middle ++ [' ']) := by
  rw [arrow]
  split
  · exact ⟨('>' :: '|' :: '"' :: (escape e.label).toList) ++ ['"', '|'], by simp⟩
  · exact ⟨['>'], by simp⟩

theorem start?_nodeLine {n : Node} (h : Drawable n.id) :
    ∃ c rest, start? (nodeLine n).toList = some ((identifier n.id).toList, c :: rest) ∧
      (c = '[' ∨ c = '(') := by
  obtain ⟨c, rest, hform, hc⟩ := exists_nodeForm n.shape (escape n.id)
  have hline : (nodeLine n).toList = ' ' :: ' ' :: ((identifier n.id).toList ++ c :: rest) := by
    simp [nodeLine, hform]
  refine ⟨c, rest, ?_, hc⟩
  rw [hline]
  refine start?_indented (fun d hd => (h.identifier_chars d hd).2) ?_
  rcases hc with rfl | rfl <;> rfl

theorem start?_currentLine (n : Node) :
    start? (currentLine n).toList =
      some ("class".toList, ' ' :: ((identifier n.id).toList ++ " current".toList)) := by
  have hline : (currentLine n).toList =
      ' ' :: ' ' :: ("class".toList ++ ' ' :: ((identifier n.id).toList ++ " current".toList)) := by
    simp [currentLine]
  have hword : "class".toList.any endsIdentifier = false := by decide
  rw [hline]
  exact start?_indented
    (fun d hd => eq_false_of_ne_true (List.any_eq_false.mp hword d hd)) rfl

theorem start?_edgeLine {e : Edge} (h : Drawable e.source) (noLabels : Bool) :
    ∃ middle, start? (edgeLine noLabels e).toList =
      some ((identifier e.source).toList,
        ' ' :: '-' :: '-' :: (middle ++ ' ' :: (identifier e.target).toList)) := by
  obtain ⟨middle, harrow⟩ := exists_arrow noLabels e
  have hline : (edgeLine noLabels e).toList =
      ' ' :: ' ' :: ((identifier e.source).toList ++
        ' ' :: '-' :: '-' :: (middle ++ ' ' :: (identifier e.target).toList)) := by
    simp [edgeLine_eq, harrow]
  refine ⟨middle, ?_⟩
  rw [hline]
  exact start?_indented (fun d hd => (h.identifier_chars d hd).2) rfl

/-- A node's line declares its identifier; the line that marks the current knot declares none. -/
theorem declaration?_nodeLines {n : Node} (h : Drawable n.id) :
    ((nodeLines n).map String.toList).filterMap declaration? = [identifier n.id] := by
  obtain ⟨c, rest, hstart, hc⟩ := start?_nodeLine h
  have hnode : declaration? (nodeLine n).toList = some (identifier n.id) := by
    rw [declaration?, hstart]
    rcases hc with rfl | rfl <;> simp
  have hcurrent : declaration? (currentLine n).toList = none := by
    rw [declaration?, start?_currentLine]
    rfl
  rw [nodeLines_eq]
  cases n.isCurrent <;> simp [hnode, hcurrent]

theorem connection?_nodeLines {n : Node} (h : Drawable n.id) :
    ((nodeLines n).map String.toList).filterMap connection? = [] := by
  obtain ⟨c, rest, hstart, hc⟩ := start?_nodeLine h
  have hnode : connection? (nodeLine n).toList = none := by
    rw [connection?, hstart]
    rcases hc with rfl | rfl <;> simp
  have hcurrent : connection? (currentLine n).toList = none := by
    -- no identifier begins with a hyphen, so what follows the word is no arrow
    have hhyphen := hyphen_not_mem_identifier n.id
    rw [connection?, start?_currentLine, Option.bind_some]
    cases hid : (identifier n.id).toList with
    | nil => simp
    | cons d ds =>
        rw [hid, List.mem_cons, not_or] at hhyphen
        simp [hhyphen.1]
  rw [nodeLines_eq]
  cases n.isCurrent <;> simp [hnode, hcurrent]

theorem declaration?_edgeLine {e : Edge} (h : Drawable e.source) (noLabels : Bool) :
    declaration? (edgeLine noLabels e).toList = none := by
  obtain ⟨middle, hstart⟩ := start?_edgeLine h noLabels
  rw [declaration?, hstart]
  rfl

theorem connection?_edgeLine {e : Edge} (h : Drawable e.source) (noLabels : Bool) :
    connection? (edgeLine noLabels e).toList = some (identifier e.source, identifier e.target) := by
  obtain ⟨middle, hstart⟩ := start?_edgeLine h noLabels
  have hlast : (' ' :: '-' :: '-' :: (middle ++ ' ' :: (identifier e.target).toList)).rtakeWhile
      (· != ' ') = (identifier e.target).toList :=
    rtakeWhile_word (' ' :: '-' :: '-' :: middle) (blank_not_mem_identifier _)
  rw [connection?, hstart, Option.bind_some]
  simp [hlast]

/-! ### Drawings -/

theorem Drawable.feed_not_mem {name : String} (h : Drawable name) :
    '\n' ∉ (identifier name).toList :=
  fun hfeed => (h.identifier_chars '\n' hfeed).1 rfl

theorem feed_not_mem_escape (s : String) : '\n' ∉ (escape s).toList := by
  have hchar : ∀ c : Char, '\n' ∉ escapeChar c := by
    intro c
    rw [escapeChar]
    split
    · decide
    · split
      · decide
      · rename_i hfeed
        simpa using Ne.symm hfeed
  simp [escape, hchar]

theorem feed_not_mem_nodeLines {n : Node} (h : Drawable n.id) :
    ∀ line ∈ nodeLines n, '\n' ∉ line.toList := by
  have hnode : '\n' ∉ (nodeLine n).toList := by
    have hform : '\n' ∉ (nodeForm n.shape (escape n.id)).toList := by
      cases n.shape <;> simp [nodeForm, feed_not_mem_escape]
    simp [nodeLine, h.feed_not_mem, hform]
  have hcurrent : '\n' ∉ (currentLine n).toList := by
    simp [currentLine, h.feed_not_mem]
  rw [nodeLines_eq]
  cases n.isCurrent <;> simp only [Bool.false_eq_true, if_true, if_false, List.forall_mem_cons]
  · exact ⟨hnode, fun _ hnone => absurd hnone List.not_mem_nil⟩
  · exact ⟨hnode, hcurrent, fun _ hnone => absurd hnone List.not_mem_nil⟩

theorem feed_not_mem_edgeLine {e : Edge} (hsource : Drawable e.source) (htarget : Drawable e.target)
    (noLabels : Bool) : '\n' ∉ (edgeLine noLabels e).toList := by
  have harrow : '\n' ∉ (arrow noLabels e).toList := by
    rw [arrow]
    split <;> simp [feed_not_mem_escape]
  simp [edgeLine_eq, hsource.feed_not_mem, htarget.feed_not_mem, harrow]

/-- The names in a view, those of its nodes and of the ends of its edges. -/
def names (v : View) : List String :=
  v.nodes.map (·.id) ++ v.edges.map (·.source) ++ v.edges.map (·.target)

theorem id_mem_names {v : View} {n : Node} (h : n ∈ v.nodes) : n.id ∈ names v :=
  List.mem_append_left _ (List.mem_append_left _ (List.mem_map_of_mem h))

theorem source_mem_names {v : View} {e : Edge} (h : e ∈ v.edges) : e.source ∈ names v :=
  List.mem_append_left _ (List.mem_append_right _ (List.mem_map_of_mem h))

theorem target_mem_names {v : View} {e : Edge} (h : e ∈ v.edges) : e.target ∈ names v :=
  List.mem_append_right _ (List.mem_map_of_mem h)

/-- The lines of a drawing. -/
def lines (noLabels : Bool) (v : View) : List String :=
  ["graph LR"] ++ v.nodes.flatMap nodeLines ++ [""] ++ v.edges.map (edgeLine noLabels) ++
    [""] ++ classes

variable {v : View}

/-- Nothing is to be read off the lines around those of nodes and edges. -/
theorem frame_silent : ∀ line ∈ "graph LR" :: "" :: classes,
    '\n' ∉ line.toList ∧ declaration? line.toList = none ∧ connection? line.toList = none := by
  simp only [classes, List.forall_mem_cons]
  refine ⟨?_, ?_, ?_, ?_, ?_, ?_, List.forall_mem_nil _⟩ <;>
    exact Text.of_literal
      (P := fun cs => '\n' ∉ cs ∧ declaration? cs = none ∧ connection? cs = none)
      ⟨by decide, rfl, rfl⟩

theorem feed_not_mem_lines (h : ∀ name ∈ names v, Drawable name) (noLabels : Bool) :
    ∀ line ∈ lines noLabels v, '\n' ∉ line.toList := by
  intro line hline
  have hempty := (frame_silent "" (.tail _ (.head _))).1
  simp only [lines, List.mem_append, List.mem_flatMap, List.mem_map, List.mem_singleton] at hline
  obtain ((((rfl | ⟨n, hn, hline⟩) | rfl) | ⟨e, he, rfl⟩) | rfl) | hline := hline
  · exact (frame_silent _ (.head _)).1
  · exact feed_not_mem_nodeLines (h n.id (id_mem_names hn)) line hline
  · exact hempty
  · exact feed_not_mem_edgeLine (h e.source (source_mem_names he))
      (h e.target (target_mem_names he)) noLabels
  · exact hempty
  · exact (frame_silent line (.tail _ (.tail _ hline))).1

/-- Without line feeds in the names, the lines of a drawing are those between its line feeds. -/
theorem splitOn_render (h : ∀ name ∈ names v, Drawable name) (noLabels : Bool) :
    (render noLabels v).toList.splitOn '\n' = (lines noLabels v).map String.toList := by
  have hfeed : "\n".toList = ['\n'] := rfl
  change ("\n".intercalate (lines noLabels v)).toList.splitOn '\n' = _
  rw [String.toList_intercalate, hfeed]
  refine List.splitOn_intercalate '\n' ?_ (by simp [lines])
  intro l hl
  obtain ⟨line, hline, rfl⟩ := List.mem_map.mp hl
  exact feed_not_mem_lines h noLabels line hline

/-- What is read off a drawing line by line is what is read off its nodes and edges, if nothing is
read off the lines around them. -/
theorem filterMap_lines {α : Type} (read : List Char → Option α) (noLabels : Bool)
    (hframe : ∀ line ∈ "graph LR" :: "" :: classes, read line.toList = none) :
    ((lines noLabels v).map String.toList).filterMap read =
      (v.nodes.flatMap fun n => ((nodeLines n).map String.toList).filterMap read) ++
        v.edges.filterMap fun e => read (edgeLine noLabels e).toList := by
  have hsilent : ∀ ls : List String, (∀ line ∈ ls, read line.toList = none) →
      (ls.map String.toList).filterMap read = [] := by
    intro ls hls
    rw [List.filterMap_map, List.filterMap_eq_nil_iff]
    exact hls
  have hhead := hsilent ["graph LR"] fun line hline => hframe line (List.mem_cons.mpr
    (.inl (List.mem_singleton.mp hline)))
  have hempty := hsilent [""] fun line hline => hframe line (.tail _ (List.mem_cons.mpr
    (.inl (List.mem_singleton.mp hline))))
  have hclasses := hsilent classes fun line hline => hframe line (.tail _ (.tail _ hline))
  have hedges : ((v.edges.map (edgeLine noLabels)).map String.toList).filterMap read =
      v.edges.filterMap fun e => read (edgeLine noLabels e).toList := by
    rw [List.filterMap_map, List.filterMap_map]
    rfl
  simp only [lines, List.map_append, List.filterMap_append, hhead, hempty, hclasses, hedges,
    List.map_flatMap, List.filterMap_flatMap, List.nil_append, List.append_nil]

/-- A drawing declares the identifiers of its nodes in their order. -/
theorem declared_render (h : ∀ name ∈ names v, Drawable name) (noLabels : Bool) :
    declared (render noLabels v) = v.nodes.map fun n => identifier n.id := by
  have hframe := fun line hline => (frame_silent line hline).2.1
  rw [declared, splitOn_render h, filterMap_lines declaration? noLabels hframe,
    List.map_eq_flatMap]
  have hedges : (v.edges.filterMap fun e => declaration? (edgeLine noLabels e).toList) = [] :=
    List.filterMap_eq_nil_iff.mpr fun e he =>
      declaration?_edgeLine (h e.source (source_mem_names he)) noLabels
  rw [hedges, List.append_nil]
  exact List.flatMap_congr fun n hn => declaration?_nodeLines (h n.id (id_mem_names hn))

/-- A drawing joins the identifiers of the ends of its links in their order. -/
theorem connected_render (h : ∀ name ∈ names v, Drawable name) (noLabels : Bool) :
    connected (render noLabels v) =
      v.edges.map fun e => (identifier e.source, identifier e.target) := by
  have hframe := fun line hline => (frame_silent line hline).2.2
  rw [connected, splitOn_render h, filterMap_lines connection? noLabels hframe]
  have hnodes : (v.nodes.flatMap fun n =>
      ((nodeLines n).map String.toList).filterMap connection?) = [] :=
    List.flatMap_eq_nil_iff.mpr fun n hn => connection?_nodeLines (h n.id (id_mem_names hn))
  rw [hnodes, List.nil_append, ← List.filterMap_eq_map]
  exact List.filterMap_congr fun e he =>
    connection?_edgeLine (h e.source (source_mem_names he)) noLabels

/-! ### Telling knots apart -/

/-- Whether a name has an underscore for every blurred character, as names in sources do. -/
def IsWord (name : String) : Prop :=
  ∀ c ∈ name.toList, c ∈ blurred → c = '_'

theorem IsWord.identifier_eq {name : String} (h : IsWord name) : identifier name = name := by
  have hmark : ∀ c ∈ name.toList, mark c = id c := by
    intro c hc
    have hword := h c hc
    grind [mark, blurred]
  rw [← String.toList_inj, toList_identifier, List.map_congr_left hmark, List.map_id]

theorem IsWord.blurs_iff {a b : String} (ha : IsWord a) (hb : IsWord b) : Blurs a b ↔ a = b := by
  rw [← identifier_eq_iff, ha.identifier_eq, hb.identifier_eq]

/-- A list has as many different members as members exactly if none is repeated. -/
theorem length_dedup_iff {α : Type} [DecidableEq α] {items : List α} :
    items.dedup.length = items.length ↔ items.Nodup :=
  ⟨fun h => List.dedup_eq_self.mp ((List.dedup_sublist items).eq_of_length h),
    fun h => by rw [List.dedup_eq_self.mpr h]⟩

theorem nodup_identifiers_iff (hids : (v.nodes.map (·.id)).Nodup) :
    (v.nodes.map fun n => identifier n.id).Nodup ↔
      ∀ m ∈ v.nodes, ∀ n ∈ v.nodes, Blurs m.id n.id → m = n := by
  rw [List.nodup_map_iff_inj_on hids.of_map]
  simp only [identifier_eq_iff]

/-- What a drawing tells of a view whose nodes have different names. If the names can be drawn at
all, it declares the identifiers of its nodes, and joins those of the ends of its links, in their
order. It declares as many different ones as there are nodes exactly if no two nodes blur, and an
end of a link is drawn at a node exactly if their names blur. Names that are words do not: each node
has an identifier of its own, and an end of a link is drawn at the node of its name only. -/
theorem knots_told_apart (v : View) (hids : (v.nodes.map (·.id)).Nodup) :
    (∀ noLabels, (∀ name ∈ names v, Drawable name) →
      declared (render noLabels v) = (v.nodes.map fun n => identifier n.id) ∧
      connected (render noLabels v) =
        v.edges.map fun e => (identifier e.source, identifier e.target)) ∧
    ((v.nodes.map fun n => identifier n.id).dedup.length = v.nodes.length ↔
      ∀ m ∈ v.nodes, ∀ n ∈ v.nodes, Blurs m.id n.id → m = n) ∧
    (∀ e ∈ v.edges, ∀ n ∈ v.nodes,
      (identifier e.source = identifier n.id ↔ Blurs e.source n.id) ∧
      (identifier e.target = identifier n.id ↔ Blurs e.target n.id)) ∧
    ((∀ name ∈ names v, IsWord name) →
      (v.nodes.map fun n => identifier n.id).dedup.length = v.nodes.length ∧
      ∀ e ∈ v.edges, ∀ n ∈ v.nodes,
        (identifier e.source = identifier n.id ↔ e.source = n.id) ∧
        (identifier e.target = identifier n.id ↔ e.target = n.id)) := by
  have hcount : (v.nodes.map fun n => identifier n.id).dedup.length = v.nodes.length ↔
      ∀ m ∈ v.nodes, ∀ n ∈ v.nodes, Blurs m.id n.id → m = n := by
    rw [← nodup_identifiers_iff hids, ← length_dedup_iff, List.length_map]
  refine ⟨fun noLabels hnames => ?_, hcount, fun e _ n _ => ?_, fun hwords => ⟨?_, ?_⟩⟩
  · exact ⟨declared_render hnames noLabels, connected_render hnames noLabels⟩
  · exact ⟨identifier_eq_iff, identifier_eq_iff⟩
  · refine hcount.mpr fun m hm n hn hblurs => ?_
    have hid := ((hwords _ (id_mem_names hm)).blurs_iff (hwords _ (id_mem_names hn))).mp hblurs
    exact List.inj_on_of_nodup_map hids hm hn hid
  · intro e he n hn
    have hnode := hwords _ (id_mem_names hn)
    have hsource := hwords _ (source_mem_names he)
    have htarget := hwords _ (target_mem_names he)
    exact ⟨identifier_eq_iff.trans (hsource.blurs_iff hnode),
      identifier_eq_iff.trans (htarget.blurs_iff hnode)⟩

/-- Two days whose names differ in a digit, besides a hyphen and a blank that each of them has. -/
def twoDays : View where
  nodes := [{ id := "day-1 start", isStart := true }, { id := "day-2 start", isCurrent := true },
    { id := "the_end", isEnding := true }]
  edges := [⟨"day-1 start", "day-2 start", "Sleep -- [or not]", true⟩,
    ⟨"day-2 start", "the_end", "", false⟩]

theorem twoDays_apart :
    (twoDays.nodes.map (·.id)).Nodup ∧ (∀ name ∈ names twoDays, Drawable name) ∧
      declared (render false twoDays) = ["day_1_start", "day_2_start", "the_end"] ∧
      connected (render false twoDays) =
        [("day_1_start", "day_2_start"), ("day_2_start", "the_end")] ∧
      ¬ Blurs "day-1 start" "day-2 start" := by
  have hids : (twoDays.nodes.map (·.id)).Nodup := by decide
  have hplain : ∀ name ∈ names twoDays,
      (name.toList.any fun c => c = '\n' || c = '[' || c = '(') = false := by decide
  have hnames : ∀ name ∈ names twoDays, Drawable name :=
    fun name hname => drawable_of_any (hplain name hname)
  obtain ⟨hread, hcount, -, -⟩ := knots_told_apart twoDays hids
  obtain ⟨hdeclared, hconnected⟩ := hread false hnames
  refine ⟨hids, hnames, hdeclared.trans (by decide), hconnected.trans (by decide),
    ?_⟩
  intro hblurs
  have hsame := hcount.mp (by decide) _ (.head _) _ (.tail _ (.head _)) hblurs
  exact absurd hsame (by decide)

/-- Two knots whose names differ in a point and a blank, and a link to the first of them. -/
def pointAndBlank : View where
  nodes := [{ id := "a.b" }, { id := "a b" }, { id := "c" }]
  edges := [⟨"c", "a.b", "", false⟩]

/-- The two are drawn as one, and the link ends at either. -/
theorem pointAndBlank_merged :
    (pointAndBlank.nodes.map (·.id)).Nodup ∧
      (declared (render false pointAndBlank)).dedup.length < pointAndBlank.nodes.length ∧
      connected (render false pointAndBlank) = [("c", identifier "a b")] ∧
      pointAndBlank.edges.map (·.target) = ["a.b"] := by
  have hplain : ∀ name ∈ names pointAndBlank,
      (name.toList.any fun c => c = '\n' || c = '[' || c = '(') = false := by decide
  have hnames : ∀ name ∈ names pointAndBlank, Drawable name :=
    fun name hname => drawable_of_any (hplain name hname)
  rw [declared_render hnames, connected_render hnames]
  decide

end KnotAtlas.View.Mermaid
