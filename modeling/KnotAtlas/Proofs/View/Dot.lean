import KnotAtlas.Proofs.Text.Literal
import KnotAtlas.View.Dot
import Mathlib.Data.List.Basic

/-!
A drawing in the DOT language can be read back. A quoted text ends at its closing quote whatever it
holds, so the parts of a line are told apart; no line holds a line feed, so the lines are told apart.
What a drawing does not show of a node is how many links leave it, and which of the marks start,
ending and unreachable it has besides the first.
-/

namespace KnotAtlas.View

/-- What a drawing shows of a node. -/
structure Look where
  id : String
  isStart : Bool
  isEnding : Bool
  isUnreachable : Bool
  isCurrent : Bool
  deriving DecidableEq, Repr

/-- How a node looks in a drawing: of a start, an ending and an unreachable node, it looks like the
first that it is. -/
def Node.look (n : Node) : Look :=
  { id := n.id
    isStart := n.isStart
    isEnding := !n.isStart && n.isEnding
    isUnreachable := !n.isStart && !n.isEnding && n.isUnreachable
    isCurrent := n.isCurrent }

/-- What the line of a node is made of. -/
structure Face where
  id : String
  shape : Shape
  isCurrent : Bool

def Node.face (n : Node) : Face :=
  ⟨n.id, n.shape, n.isCurrent⟩

def Face.look (f : Face) : Look :=
  { id := f.id
    isStart := f.shape = .start
    isEnding := f.shape = .ending
    isUnreachable := f.shape = .unreachable
    isCurrent := f.isCurrent }

theorem Node.look_eq (n : Node) : n.look = n.face.look := by
  obtain ⟨id, isStart, isEnding, isUnreachable, isCurrent, count⟩ := n
  cases isStart <;> cases isEnding <;> cases isUnreachable <;> rfl

theorem Face.look_injective : Function.Injective Face.look := by
  rintro ⟨id, shape, isCurrent⟩ ⟨id', shape', isCurrent'⟩ h
  cases shape <;> cases shape' <;> simp_all [Face.look]

namespace Dot

/-! ### Quoted texts -/

/-- An escaped character never starts like a closing quote, and it ends where its own code ends. -/
theorem escapeChar_append_inj {c d : Char} {x y : List Char}
    (h : escapeChar c ++ x = escapeChar d ++ y) : c = d ∧ x = y := by
  grind [escapeChar]

theorem escapeChar_ne_quote (c : Char) (x y : List Char) : escapeChar c ++ x ≠ '"' :: y := by
  grind [escapeChar]

theorem flatMap_escapeChar_inj {s t x y : List Char}
    (h : s.flatMap escapeChar ++ '"' :: x = t.flatMap escapeChar ++ '"' :: y) :
    s = t ∧ x = y := by
  induction s generalizing t with
  | nil =>
      cases t with
      | nil => exact ⟨rfl, (List.cons.inj h).2⟩
      | cons d t =>
          rw [List.flatMap_cons, List.append_assoc] at h
          exact absurd h.symm (escapeChar_ne_quote d _ _)
  | cons c s ih =>
      cases t with
      | nil =>
          rw [List.flatMap_cons, List.append_assoc] at h
          exact absurd h (escapeChar_ne_quote c _ _)
      | cons d t =>
          rw [List.flatMap_cons, List.flatMap_cons, List.append_assoc, List.append_assoc] at h
          obtain ⟨rfl, hrest⟩ := escapeChar_append_inj h
          obtain ⟨rfl, htail⟩ := ih hrest
          exact ⟨rfl, htail⟩

theorem toList_quote_append (s rest : String) :
    (quote s ++ rest).toList = '"' :: (s.toList.flatMap escapeChar ++ '"' :: rest.toList) := by
  simp [quote, escape]

/-- A quoted text is told from what follows it. -/
theorem quote_append_inj {s t x y : String} (h : quote s ++ x = quote t ++ y) : s = t ∧ x = y := by
  have hlist := congrArg String.toList h
  rw [toList_quote_append, toList_quote_append] at hlist
  obtain ⟨htext, hrest⟩ := flatMap_escapeChar_inj (List.cons.inj hlist).2
  exact ⟨String.toList_injective htext, String.toList_injective hrest⟩

theorem feed_not_mem_quote (s : String) : '\n' ∉ (quote s).toList := by
  have hchar : ∀ c : Char, '\n' ∉ escapeChar c := by
    intro c
    grind [escapeChar]
  simp [quote, escape, hchar]

/-! ### Lines -/

/-- The attributes that a node has besides its label. -/
def marks (shape : Shape) (isCurrent : Bool) : List Setting :=
  shapeSettings shape ++
    if isCurrent then [⟨"color", quote "#FF4500"⟩, ⟨"penwidth", quote "2.5"⟩] else []

def faceLine (f : Face) : String :=
  "  " ++ quote f.id ++ " [" ++ settings (marks f.shape f.isCurrent ++ [⟨"label", quote f.id⟩]) ++
    "];"

theorem nodeLine_eq (n : Node) : nodeLine n = faceLine n.face := rfl

theorem settings_cons_cons (x y : Setting) (xs : List Setting) :
    settings (x :: y :: xs) = x.key ++ "=" ++ x.value ++ " " ++ settings (y :: xs) := by
  simp only [settings, List.map_cons, String.intercalate_cons_cons]

theorem settings_concat {xs : List Setting} (h : xs ≠ []) (x : Setting) :
    settings (xs ++ [x]) = settings xs ++ (" " ++ (x.key ++ "=" ++ x.value)) := by
  induction xs with
  | nil => exact absurd rfl h
  | cons first rest ih =>
      cases rest with
      | nil => simp [settings, String.append_assoc]
      | cons second rest =>
          have hrest := ih (List.cons_ne_nil _ _)
          simp only [List.cons_append, settings_cons_cons] at hrest ⊢
          rw [hrest]
          simp only [String.append_assoc]

theorem marks_ne_nil (shape : Shape) (isCurrent : Bool) : marks shape isCurrent ≠ [] := by
  cases shape <;> exact List.cons_ne_nil _ _

/-- The eight ways to mark a node are eight different texts. -/
theorem settings_marks_inj {s t : Shape} {b c : Bool}
    (h : settings (marks s b) = settings (marks t c)) : s = t ∧ b = c := by
  revert h
  cases s <;> cases t <;> cases b <;> cases c <;> decide

theorem faceLine_injective : Function.Injective faceLine := by
  intro l m h
  simp only [faceLine, String.append_assoc, String.append_right_inj] at h
  obtain ⟨hid, hrest⟩ := quote_append_inj h
  rw [String.append_right_inj, String.append_left_inj, settings_concat (marks_ne_nil _ _),
    settings_concat (marks_ne_nil _ _), hid, String.append_left_inj] at hrest
  obtain ⟨hshape, hcurrent⟩ := settings_marks_inj hrest
  cases l
  cases m
  simp_all

/-- What stands after the two ends of a link. -/
def edgeTail (noLabels : Bool) (e : Edge) : String :=
  match edgeSettings noLabels e with
  | [] => ""
  | xs => " [" ++ settings xs ++ "]"

theorem edgeLine_eq (noLabels : Bool) (e : Edge) :
    edgeLine noLabels e =
      "  " ++ quote e.source ++ " -> " ++ quote e.target ++ edgeTail noLabels e ++ ";" := rfl

theorem edgeTail_unlabelled {e : Edge} (h : e.label = "") :
    edgeTail false e = if e.isChoice then " [color=\"#6A5ACD\"]" else "" := by
  rw [edgeTail, edgeSettings, h]
  cases e.isChoice <;> decide

theorem edgeTail_labelled {e : Edge} (h : e.label ≠ "") :
    edgeTail false e =
      (if e.isChoice then " [color=\"#6A5ACD\" " else " [") ++
        ("label=" ++ (quote e.label ++ "]")) := by
  have hcolor : quote "#6A5ACD" = "\"#6A5ACD\"" := by decide
  apply String.toList_injective
  rw [edgeTail, edgeSettings]
  cases e.isChoice <;> simp [h, settings, hcolor]

theorem edgeTail_ne {e f : Edge} (he : e.label = "") (hf : f.label ≠ "") :
    edgeTail false e ≠ edgeTail false f := by
  intro h
  rw [edgeTail_unlabelled he, edgeTail_labelled hf] at h
  have hlist := congrArg String.toList h
  cases hc : e.isChoice <;> cases hd : f.isChoice <;> simp [hc, hd] at hlist

theorem edgeTail_inj {e f : Edge} (h : edgeTail false e = edgeTail false f) :
    e.isChoice = f.isChoice ∧ e.label = f.label := by
  by_cases he : e.label = "" <;> by_cases hf : f.label = ""
  · rw [edgeTail_unlabelled he, edgeTail_unlabelled hf] at h
    refine ⟨?_, he.trans hf.symm⟩
    revert h
    cases e.isChoice <;> cases f.isChoice <;> decide
  · exact absurd h (edgeTail_ne he hf)
  · exact absurd h.symm (edgeTail_ne hf he)
  · rw [edgeTail_labelled he, edgeTail_labelled hf] at h
    have hchoice : e.isChoice = f.isChoice := by
      have hlist := congrArg String.toList h
      cases hc : e.isChoice <;> cases hd : f.isChoice <;> simp [hc, hd] at hlist ⊢
    rw [hchoice, String.append_right_inj, String.append_right_inj] at h
    exact ⟨hchoice, (quote_append_inj h).1⟩

theorem edgeLine_injective : Function.Injective (edgeLine false) := by
  intro e f h
  simp only [edgeLine_eq, String.append_assoc, String.append_right_inj] at h
  obtain ⟨hsource, hrest⟩ := quote_append_inj h
  rw [String.append_right_inj] at hrest
  obtain ⟨htarget, htail⟩ := quote_append_inj hrest
  obtain ⟨hchoice, hlabel⟩ := edgeTail_inj ((String.append_left_inj _).mp htail)
  cases e
  cases f
  simp_all

/-! ### Drawings -/

theorem feed_not_mem_settings {xs : List Setting}
    (h : ∀ x ∈ xs, '\n' ∉ x.key.toList ∧ '\n' ∉ x.value.toList) : '\n' ∉ (settings xs).toList := by
  induction xs with
  | nil => simp [settings]
  | cons first rest ih =>
      obtain ⟨hkey, hvalue⟩ := h first (.head _)
      have hrest := ih fun x hx => h x (.tail _ hx)
      cases rest with
      | nil => simp [settings, hkey, hvalue]
      | cons second rest =>
          rw [settings_cons_cons]
          simp [hkey, hvalue, hrest]

theorem feed_not_mem_label (s : String) :
    '\n' ∉ (Setting.mk "label" (quote s)).key.toList ∧
      '\n' ∉ (Setting.mk "label" (quote s)).value.toList :=
  ⟨show '\n' ∉ "label".toList by decide, feed_not_mem_quote s⟩

theorem feed_not_mem_nodeLine (n : Node) : '\n' ∉ (nodeLine n).toList := by
  have hmarks : ∀ x ∈ marks n.shape n.isCurrent, '\n' ∉ x.key.toList ∧ '\n' ∉ x.value.toList := by
    cases n.shape <;> cases n.isCurrent <;> decide
  have hsettings : '\n' ∉ (settings (nodeSettings n)).toList := by
    refine feed_not_mem_settings fun x hx => ?_
    obtain hx | hx := List.mem_append.mp hx
    · exact hmarks x hx
    · rw [List.mem_singleton.mp hx]
      exact feed_not_mem_label n.id
  simp [nodeLine, feed_not_mem_quote, hsettings]

theorem feed_not_mem_edgeLine (noLabels : Bool) (e : Edge) :
    '\n' ∉ (edgeLine noLabels e).toList := by
  have hsettings : '\n' ∉ (settings (edgeSettings noLabels e)).toList := by
    refine feed_not_mem_settings fun x hx => ?_
    obtain hx | hx := List.mem_append.mp hx
    · split at hx
      · rw [List.mem_singleton.mp hx]
        decide
      · cases hx
    · split at hx
      · rw [List.mem_singleton.mp hx]
        exact feed_not_mem_label e.label
      · cases hx
  have htail : '\n' ∉ (edgeTail noLabels e).toList := by
    rw [edgeTail]
    split
    · simp
    · simp [hsettings]
  rw [edgeLine_eq]
  simp [feed_not_mem_quote, htail]

theorem feed_not_mem_lines (noLabels : Bool) (v : View) :
    ∀ line ∈ lines noLabels v, '\n' ∉ line.toList := by
  intro line hline
  have hhead : ∀ line ∈ head, '\n' ∉ line.toList := by
    simp only [head, List.forall_mem_cons]
    refine ⟨?_, ?_, ?_, ?_, ?_, List.forall_mem_nil _⟩ <;>
      exact Text.of_literal (P := ('\n' ∉ ·)) (by decide)
  simp only [lines, List.mem_append, List.mem_map, List.mem_singleton] at hline
  obtain (((hline | ⟨n, -, rfl⟩) | rfl) | ⟨e, -, rfl⟩) | rfl := hline
  · exact hhead line hline
  · exact feed_not_mem_nodeLine n
  · decide
  · exact feed_not_mem_edgeLine noLabels e
  · decide

/-- The lines of a drawing are those between its line feeds. -/
theorem splitOn_render (noLabels : Bool) (v : View) :
    (render noLabels v).toList.splitOn '\n' = (lines noLabels v).map String.toList := by
  have hfeed : "\n".toList = ['\n'] := rfl
  rw [render, String.toList_intercalate, hfeed]
  refine List.splitOn_intercalate '\n' ?_ (by simp [lines])
  intro l hl
  obtain ⟨line, hline, rfl⟩ := List.mem_map.mp hl
  exact feed_not_mem_lines noLabels v line hline

theorem length_lines (noLabels : Bool) (v : View) :
    (lines noLabels v).length = 7 + v.nodes.length + v.edges.length := by
  simp only [lines, head, List.length_append, List.length_map, List.length_cons, List.length_nil]
  omega

theorem render_eq_iff_lines {noLabels : Bool} {v w : View} :
    render noLabels v = render noLabels w ↔ lines noLabels v = lines noLabels w := by
  refine ⟨fun h => ?_, fun h => by rw [render, h, render]⟩
  have hlines := congrArg (fun text => text.toList.splitOn '\n') h
  rw [splitOn_render, splitOn_render] at hlines
  exact List.map_injective_iff.mpr (fun _ _ => String.toList_injective) hlines

theorem nodeLine_ne_empty (n : Node) : nodeLine n ≠ "" := by
  intro h
  have hlist := congrArg String.toList h
  simp [nodeLine] at hlist

theorem edgeLine_ne_empty (noLabels : Bool) (e : Edge) : edgeLine noLabels e ≠ "" := by
  intro h
  have hlist := congrArg String.toList h
  simp [edgeLine_eq] at hlist

/-- The empty line after the nodes is the first one after the head. -/
theorem lines_eq_iff {noLabels : Bool} {v w : View} :
    lines noLabels v = lines noLabels w ↔
      v.nodes.map nodeLine = w.nodes.map nodeLine ∧
        v.edges.map (edgeLine noLabels) = w.edges.map (edgeLine noLabels) := by
  have hnodes : ∀ u : View, "" ∉ u.nodes.map nodeLine := by
    intro u hmem
    obtain ⟨n, -, hn⟩ := List.mem_map.mp hmem
    exact nodeLine_ne_empty n hn
  have hedges : ∀ u : View, "" ∉ u.edges.map (edgeLine noLabels) ++ ["\x7d"] := by
    intro u hmem
    obtain hmem | hmem := List.mem_append.mp hmem
    · obtain ⟨e, -, he⟩ := List.mem_map.mp hmem
      exact edgeLine_ne_empty noLabels e he
    · exact absurd (List.mem_singleton.mp hmem) (by decide)
  simp only [lines, List.append_assoc, List.append_cancel_left_eq,
    List.cons_append, List.nil_append]
  rw [List.append_cons_inj_of_notMem (hnodes v) (hedges v), List.append_left_inj]
  simp only [true_and]

/-- Two drawings with labels are the same text exactly if the same nodes look the same way in the
same order and the same links follow, and no text of a drawing adds a line. -/
theorem render_eq_iff :
    (∀ v w : View, render false v = render false w ↔
      v.nodes.map Node.look = w.nodes.map Node.look ∧ v.edges = w.edges) ∧
    ∀ (noLabels : Bool) (v : View),
      ((render noLabels v).toList.splitOn '\n').length = 7 + v.nodes.length + v.edges.length := by
  refine ⟨fun v w => ?_, fun noLabels v => ?_⟩
  · have hlines : ∀ u : View, u.nodes.map nodeLine = (u.nodes.map Node.face).map faceLine := by
      intro u
      rw [List.map_map]
      exact List.map_congr_left fun n _ => nodeLine_eq n
    have hlooks : ∀ u : View, u.nodes.map Node.look = (u.nodes.map Node.face).map Face.look := by
      intro u
      rw [List.map_map]
      exact List.map_congr_left fun n _ => Node.look_eq n
    rw [render_eq_iff_lines, lines_eq_iff, hlines, hlines, hlooks, hlooks,
      (List.map_injective_iff.mpr faceLine_injective).eq_iff,
      (List.map_injective_iff.mpr Face.look_injective).eq_iff,
      (List.map_injective_iff.mpr edgeLine_injective).eq_iff]
  · rw [splitOn_render, List.length_map, length_lines]

end Dot
end KnotAtlas.View
