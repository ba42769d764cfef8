import KnotAtlas.Text.Utf8

/-!
Decoding undoes encoding. The bytes of a character bring the reader from between characters to
between characters and give that character, whatever its width; so the bytes of a text give back the
text. Positions matter for faults only.
-/

namespace KnotAtlas.Text.Utf8

/-! ### One byte -/

section Bytes

variable {b : UInt8} {position : Nat} {rest : List UInt8}

theorem decodeFrom_single (h : b.toNat < 0x80) :
    decodeFrom .between position (b :: rest) =
      (Char.ofNat b.toNat :: ·) <$> decodeFrom .between (position + 1) rest := by
  change (if b.toNat < 0x80 then _ else _) = _
  rw [if_pos h]
  rfl

theorem decodeFrom_lead {next : State} (h : 0x80 ≤ b.toNat) (hlead : lead? position b = some next) :
    decodeFrom .between position (b :: rest) = decodeFrom next (position + 1) rest := by
  change (if b.toNat < 0x80 then _ else _) = _
  rw [if_neg (Nat.not_lt.mpr h), hlead]

variable {start owed low high value : Nat} {first : UInt8}

theorem decodeFrom_last (h : low ≤ b.toNat ∧ b.toNat ≤ high) :
    decodeFrom (.inside start first 0 low high value) position (b :: rest) =
      (Char.ofNat (value * 64 + b.toNat % 64) :: ·) <$>
        decodeFrom .between (position + 1) rest := by
  change (if low ≤ b.toNat ∧ b.toNat ≤ high then _ else _) = _
  rw [if_pos h]
  rfl

theorem decodeFrom_more (h : low ≤ b.toNat ∧ b.toNat ≤ high) :
    decodeFrom (.inside start first (owed + 1) low high value) position (b :: rest) =
      decodeFrom (.inside start first owed 0x80 0xBF (value * 64 + b.toNat % 64))
        (position + 1) rest := by
  change (if low ≤ b.toNat ∧ b.toNat ≤ high then _ else _) = _
  rw [if_pos h]

theorem lead?_two {n : Nat} (hb : b.toNat = n + 0xC0) (hlow : 2 ≤ n) (hhigh : n < 32) :
    lead? position b = some (.inside position b 0 0x80 0xBF n) := by
  simp only [lead?, hb, Nat.add_sub_cancel]
  rw [if_neg (by omega), if_pos (by omega)]

theorem lead?_three {n : Nat} (hb : b.toNat = n + 0xE0) (hhigh : n < 16) :
    lead? position b = some (.inside position b 1 (if n = 0 then 0xA0 else 0x80)
      (if n = 13 then 0x9F else 0xBF) n) := by
  simp only [lead?, hb, Nat.add_sub_cancel, Nat.add_eq_right]
  rw [if_neg (by omega), if_neg (by omega), if_pos (by omega)]
  have hgap : n + 0xE0 = 0xED ↔ n = 13 := by omega
  simp only [hgap]

theorem lead?_four {n : Nat} (hb : b.toNat = n + 0xF0) (hhigh : n < 5) :
    lead? position b = some (.inside position b 2 (if n = 0 then 0x90 else 0x80)
      (if n = 4 then 0x8F else 0xBF) n) := by
  simp only [lead?, hb, Nat.add_sub_cancel, Nat.add_eq_right]
  rw [if_neg (by omega), if_neg (by omega), if_neg (by omega), if_pos (by omega)]
  have hlast : n + 0xF0 = 0xF4 ↔ n = 4 := by omega
  simp only [hlast]

end Bytes

/-! ### One character -/

theorem toNat_ofNat {n : Nat} (h : n < 256) : (UInt8.ofNat n).toNat = n :=
  UInt8.toNat_ofNat_of_lt' h

theorem ofNat_of_eq_toNat {c : Char} {n : Nat} (h : n = c.val.toNat) : Char.ofNat n = c := by
  rw [h]
  exact Char.ofNat_toNat c

theorem decodeFrom_utf8EncodeChar (c : Char) (position : Nat) (rest : List UInt8) :
    decodeFrom .between position (String.utf8EncodeChar c ++ rest) =
      (c :: ·) <$> decodeFrom .between (position + (String.utf8EncodeChar c).length) rest := by
  have hvalid := c.valid
  simp only [UInt32.isValidChar, Nat.isValidChar] at hvalid
  have htail : ∀ n, (UInt8.ofNat (n % 64 + 0x80)).toNat = n % 64 + 0x80 :=
    fun n => toNat_ofNat (by omega)
  fun_cases String.utf8EncodeChar c with
  | case1 v h =>
      have hfirst : (UInt8.ofNat v).toNat = v := toNat_ofNat (by omega)
      rw [List.singleton_append, decodeFrom_single (by omega), ofNat_of_eq_toNat hfirst]
      rfl
  | case2 v _ h =>
      have hfirst : (UInt8.ofNat (v / 64 % 32 + 0xC0)).toNat = v / 64 + 0xC0 := by
        rw [toNat_ofNat (by omega)]
        omega
      have hlast := htail v
      simp only [List.cons_append, List.nil_append]
      rw [decodeFrom_lead (by omega) (lead?_two hfirst (by omega) (by omega)),
        decodeFrom_last (by omega), ofNat_of_eq_toNat (c := c) (by omega)]
      rfl
  | case3 v _ _ h =>
      have hfirst : (UInt8.ofNat (v / 4096 % 16 + 0xE0)).toNat = v / 4096 + 0xE0 := by
        rw [toNat_ofNat (by omega)]
        omega
      have hnext := htail (v / 64)
      have hlast := htail v
      simp only [List.cons_append, List.nil_append]
      rw [decodeFrom_lead (by omega) (lead?_three hfirst (by omega)),
        decodeFrom_more (by split <;> split <;> omega), decodeFrom_last (by omega),
        ofNat_of_eq_toNat (c := c) (by omega)]
      rfl
  | case4 v _ _ h =>
      have hfirst : (UInt8.ofNat (v / 262144 % 8 + 0xF0)).toNat = v / 262144 + 0xF0 := by
        rw [toNat_ofNat (by omega)]
        omega
      have hsecond := htail (v / 4096)
      have hthird := htail (v / 64)
      have hlast := htail v
      simp only [List.cons_append, List.nil_append]
      rw [decodeFrom_lead (by omega) (lead?_four hfirst (by omega)),
        decodeFrom_more (by split <;> split <;> omega), decodeFrom_more (by omega),
        decodeFrom_last (by omega), ofNat_of_eq_toNat (c := c) (by omega)]
      rfl

/-! ### Texts -/

theorem decodeFrom_flatMap_utf8EncodeChar (cs : List Char) (position : Nat) :
    decodeFrom .between position (cs.flatMap String.utf8EncodeChar) = .ok cs := by
  induction cs generalizing position with
  | nil => rfl
  | cons c rest ih =>
      rw [List.flatMap_cons, decodeFrom_utf8EncodeChar, ih]
      rfl

theorem decode_flatMap_utf8EncodeChar (cs : List Char) :
    decode (cs.flatMap String.utf8EncodeChar) = .ok cs :=
  decodeFrom_flatMap_utf8EncodeChar cs 0

theorem toList_toUTF8 (s : String) :
    s.toUTF8.data.toList = s.toList.flatMap String.utf8EncodeChar := by
  conv => lhs; rw [← String.ofList_toList (s := s)]
  exact List.toList_data_toByteArray

/-- A text whose bytes begin with those of a character begins with that character. -/
theorem exists_of_utf8EncodeChar_prefix {c : Char} {cs : List Char}
    (h : String.utf8EncodeChar c <+: cs.flatMap String.utf8EncodeChar) :
    ∃ rest, cs = c :: rest := by
  obtain ⟨bytes, hbytes⟩ := h
  have hdecode := decode_flatMap_utf8EncodeChar cs
  rw [← hbytes, decode, decodeFrom_utf8EncodeChar] at hdecode
  cases hrest : decodeFrom .between (0 + (String.utf8EncodeChar c).length) bytes with
  | error fault =>
      rw [hrest] at hdecode
      cases hdecode
  | ok rest =>
      rw [hrest] at hdecode
      exact ⟨rest, (Except.ok.inj hdecode).symm⟩

end KnotAtlas.Text.Utf8
