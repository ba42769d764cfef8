import KnotAtlas.Proofs.Text.Utf8
import KnotAtlas.Story.Document

/-!
Byte order marks at the front of a story. One is dropped from bytes before they are decoded, and all
that are left are dropped from the text; so bytes and text, with marks and without, come to the same
text in the end, whatever is then made of it.
-/

namespace KnotAtlas.Story

variable {ε : Type}

/-- A text without the byte order marks at its front. -/
def unmarked (cs : List Char) : List Char :=
  cs.dropWhile (· = orderMark)

/-- Loading of a story where `read` makes a value of its text without order marks, and `unreadable`
is what is wrong with bytes that are no text. -/
def Source.loadBy (unreadable : Text.Utf8.Cause → ε) (read : List Char → Except ε Value) :
    Source → Except ε Value
  | .text s => read (unmarked s.toList)
  | .bytes bs =>
    match Text.Utf8.decode (dropOrderMark bs) with
    | .ok cs => read (unmarked cs)
    | .error fault => .error (unreadable fault.cause)
  | .decoded v => .ok v

/-- The value of the text of a document. -/
def readDocument (cs : List Char) : Except LoadError Value :=
  match Json.read limits cs with
  | .ok v => .ok v
  | .error (.malformed cause rest) => .error (.malformed (.notJson cause (Json.lineOf cs rest)))
  | .error .tooDeep => .error (.malformed .tooDeep)
  | .error (.tooLong digits) => .error (.integerTooLong digits)

theorem Source.load_eq_loadBy (source : Source) :
    source.load = source.loadBy (fun cause => .malformed (.notUtf8 cause)) readDocument := by
  cases source with
  | text s => rfl
  | bytes bs =>
      rw [load, loadBy]
      cases Text.Utf8.decode (dropOrderMark bs) with
      | ok cs => rfl
      | error fault => rfl
  | decoded v => rfl

theorem orderMarkBytes_eq : orderMarkBytes = String.utf8EncodeChar orderMark := by
  decide

/-- Where the bytes of a text begin with an order mark the text does, and both lose it alike. -/
theorem dropOrderMark_encoded (cs : List Char) :
    ∃ rest, dropOrderMark (cs.flatMap String.utf8EncodeChar) =
        rest.flatMap String.utf8EncodeChar ∧ unmarked rest = unmarked cs := by
  rw [dropOrderMark]
  split
  · rename_i hmark
    rw [List.isPrefixOf_iff_prefix, orderMarkBytes_eq] at hmark
    obtain ⟨rest, rfl⟩ := Text.Utf8.exists_of_utf8EncodeChar_prefix hmark
    refine ⟨rest, ?_, ?_⟩
    · rw [List.flatMap_cons]
      rfl
    · simp [unmarked]
  · exact ⟨cs, rfl, rfl⟩

/-- A text with order marks in front of it. -/
def marked (k : Nat) (s : String) : String :=
  String.ofList (List.replicate k orderMark) ++ s

theorem unmarked_marked (k : Nat) (s : String) :
    unmarked (marked k s).toList = unmarked s.toList := by
  rw [marked, String.toList_append, String.toList_ofList]
  induction k with
  | zero => rfl
  | succ k ih =>
      rw [List.replicate_succ, List.cons_append, ← ih]
      simp [unmarked]

section Loading

variable (unreadable : Text.Utf8.Cause → ε) (read : List Char → Except ε Value)

theorem loadBy_text (k : Nat) (s : String) :
    (Source.text (marked k s)).loadBy unreadable read = read (unmarked s.toList) := by
  rw [Source.loadBy, unmarked_marked]

theorem loadBy_bytes (k : Nat) (s : String) :
    (Source.bytes (marked k s).toUTF8.data.toList).loadBy unreadable read =
      read (unmarked s.toList) := by
  obtain ⟨rest, hrest, hsame⟩ := dropOrderMark_encoded (marked k s).toList
  rw [Source.loadBy, Text.Utf8.toList_toUTF8, hrest, Text.Utf8.decode_flatMap_utf8EncodeChar]
  dsimp only
  rw [hsame, unmarked_marked]

/-- A text is loaded alike as it is, behind any number of order marks, and in bytes behind them: in
all three cases what is loaded, or what is wrong with it, is what the reader makes of the text
without the marks, be it any reader or that of documents. -/
theorem order_marks_unseen (k : Nat) (s : String) :
    (Source.bytes (marked k s).toUTF8.data.toList).loadBy unreadable read =
        read (unmarked s.toList) ∧
      (Source.text (marked k s)).loadBy unreadable read = read (unmarked s.toList) ∧
      (Source.text s).loadBy unreadable read = read (unmarked s.toList) ∧
      (Source.bytes (marked k s).toUTF8.data.toList).load = readDocument (unmarked s.toList) ∧
      (Source.text (marked k s)).load = readDocument (unmarked s.toList) ∧
      (Source.text s).load = readDocument (unmarked s.toList) := by
  simp only [Source.load_eq_loadBy]
  exact ⟨loadBy_bytes unreadable read k s, loadBy_text unreadable read k s, rfl,
    loadBy_bytes _ _ k s, loadBy_text _ _ k s, rfl⟩

end Loading

end KnotAtlas.Story
