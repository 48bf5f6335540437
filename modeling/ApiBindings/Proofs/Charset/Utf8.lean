import Mathlib.Tactic.Common
import ApiBindings.Charset.Utf8
/-!
# Reading what was written in UTF-8

A character is at most four bytes, and the first of them says how many there are and between which
bounds the second one lies. The bytes of a character keep to that, so that no replacement character
gets into a text that is written and read again. Main statement: reading undoes writing
(`decodeUtf8_encodeUtf8`).
-/

namespace ApiBindings.Charset

/-! ## Bytes -/

/-- A byte that lies within its bounds adds six bits to the character. -/
theorem decodeTail_byte {n lowest highest : Nat} (code owed : Nat) (bytes : List UInt8)
    (hlowest : lowest ≤ n) (hhighest : n ≤ highest) (hbyte : highest ≤ 0xBF) :
    decodeTail code (owed + 1) lowest highest (UInt8.ofNat n :: bytes) =
      decodeTail (code * 0x40 + n % 0x40) owed 0x80 0xBF bytes := by
  rw [decodeTail, UInt8.toNat_ofNat_of_lt' (show n < 0x100 by omega),
    if_pos (by simp [hlowest, hhighest])]

/-- A byte below 80 is a character. -/
theorem decodeNext_one {n : Nat} (bytes : List UInt8) (h : n < 0x80) :
    decodeNext (UInt8.ofNat n) bytes = (Char.ofNat n, bytes) := by
  unfold decodeNext
  dsimp only
  rw [UInt8.toNat_ofNat_of_lt' (show n < 0x100 by omega), if_pos h]

/-- A byte from C2 to DF begins a character of two bytes. -/
theorem decodeNext_two {n : Nat} (bytes : List UInt8) (hlowest : 0xC2 ≤ n) (hhighest : n < 0xE0) :
    decodeNext (UInt8.ofNat n) bytes = decodeTail (n % 0x20) 1 0x80 0xBF bytes := by
  unfold decodeNext
  dsimp only
  rw [UInt8.toNat_ofNat_of_lt' (show n < 0x100 by omega), if_neg (by omega), if_neg (by omega),
    if_pos hhighest]

/-- A byte from E0 to EF begins a character of three bytes. -/
theorem decodeNext_three {n : Nat} (bytes : List UInt8) (hlowest : 0xE0 ≤ n)
    (hhighest : n < 0xF0) :
    decodeNext (UInt8.ofNat n) bytes =
      decodeTail (n % 0x10) 2 (if n = 0xE0 then 0xA0 else 0x80) (if n = 0xED then 0x9F else 0xBF)
        bytes := by
  unfold decodeNext
  dsimp only
  rw [UInt8.toNat_ofNat_of_lt' (show n < 0x100 by omega), if_neg (by omega), if_neg (by omega),
    if_neg (by omega), if_pos hhighest]

/-- A byte from F0 to F4 begins a character of four bytes. -/
theorem decodeNext_four {n : Nat} (bytes : List UInt8) (hlowest : 0xF0 ≤ n)
    (hhighest : n < 0xF5) :
    decodeNext (UInt8.ofNat n) bytes =
      decodeTail (n % 0x08) 3 (if n = 0xF0 then 0x90 else 0x80) (if n = 0xF4 then 0x8F else 0xBF)
        bytes := by
  unfold decodeNext
  dsimp only
  rw [UInt8.toNat_ofNat_of_lt' (show n < 0x100 by omega), if_neg (by omega), if_neg (by omega),
    if_neg (by omega), if_neg (by omega), if_pos hhighest]

/-! ## Characters -/

/-- **The bytes of a character are read as that character,** whatever stands behind them. -/
theorem exists_decodeNext (c : Char) :
    ∃ b bytes, String.utf8EncodeChar c = b :: bytes ∧
      ∀ rest, decodeNext b (bytes ++ rest) = (c, rest) := by
  have hvalid : c.toNat < 0xD800 ∨ 0xDFFF < c.toNat ∧ c.toNat < 0x110000 := c.valid
  have hchar : ∀ n, n = c.toNat → Char.ofNat n = c := by
    rintro n rfl
    exact Char.ofNat_toNat c
  unfold String.utf8EncodeChar
  dsimp only
  rw [show c.val.toNat = c.toNat from rfl]
  split
  · -- one byte
    refine ⟨_, [], rfl, fun rest => ?_⟩
    rw [List.nil_append, decodeNext_one rest (by omega), hchar _ rfl]
  split
  · -- two bytes
    refine ⟨_, [_], rfl, fun rest => ?_⟩
    rw [decodeNext_two _ (by omega) (by omega), List.singleton_append,
      decodeTail_byte _ _ _ (by omega) (by omega) (by omega), decodeTail, hchar _ (by omega)]
  split
  · -- three bytes: those of a surrogate are no character
    refine ⟨_, [_, _], rfl, fun rest => ?_⟩
    rw [decodeNext_three _ (by omega) (by omega), List.cons_append, List.singleton_append,
      decodeTail_byte _ _ _ (by split <;> omega) (by split <;> omega) (by split <;> omega),
      decodeTail_byte _ _ _ (by omega) (by omega) (by omega), decodeTail, hchar _ (by omega)]
  · -- four bytes
    refine ⟨_, [_, _, _], rfl, fun rest => ?_⟩
    rw [decodeNext_four _ (by omega) (by omega), List.cons_append, List.cons_append,
      List.singleton_append,
      decodeTail_byte _ _ _ (by split <;> omega) (by split <;> omega) (by split <;> omega),
      decodeTail_byte _ _ _ (by omega) (by omega) (by omega),
      decodeTail_byte _ _ _ (by omega) (by omega) (by omega), decodeTail, hchar _ (by omega)]

/-! ## Texts -/

/-- A character that was written is read before the rest. -/
theorem decodeAux_utf8EncodeChar (read : List Char) (c : Char) (rest : List UInt8) :
    decodeAux read (String.utf8EncodeChar c ++ rest) = decodeAux (c :: read) rest := by
  obtain ⟨b, bytes, hbytes, hnext⟩ := exists_decodeNext c
  rw [hbytes, List.cons_append, decodeAux, hnext]

/-- Characters that were written are read behind those that were read before. -/
theorem decodeAux_flatMap (read s : List Char) :
    decodeAux read (s.flatMap String.utf8EncodeChar) = read.reverse ++ s := by
  induction s generalizing read with
  | nil =>
    rw [List.flatMap_nil, decodeAux, List.append_nil]
  | cons c s ih =>
    rw [List.flatMap_cons, decodeAux_utf8EncodeChar, ih, List.reverse_cons, List.append_assoc,
      List.singleton_append]

/-- **Reading undoes writing.** -/
theorem decodeUtf8_encodeUtf8 (s : String) : decodeUtf8 (encodeUtf8 s) = s.toList := by
  unfold decodeUtf8 encodeUtf8
  rw [decodeAux_flatMap, List.reverse_nil, List.nil_append]

end ApiBindings.Charset
