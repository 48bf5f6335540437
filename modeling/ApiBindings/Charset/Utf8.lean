/-!
# UTF-8

Text as bytes and bytes as text. Bytes that are no UTF-8 are replaced: each longest beginning of a
character that breaks off, and each byte that begins none, becomes one replacement character. Main
statement: reading goes on behind the bytes of a character (`decodeNext_suffix`).
-/

namespace ApiBindings.Charset

/-- The character that stands for bytes that are none. -/
def replacement : Char := '\uFFFD'

/-! ## Writing -/

/-- The bytes of a text. -/
def encodeUtf8 (s : String) : List UInt8 := s.toList.flatMap String.utf8EncodeChar

/-! ## Reading -/

/-- The character whose leading bits make up `code`, with `owed` bytes to come, the next of them
between `lowest` and `highest`. -/
def decodeTail (code : Nat) : Nat → Nat → Nat → List UInt8 → Char × List UInt8
  | 0, _, _, bytes => (Char.ofNat code, bytes)
  | _ + 1, _, _, [] => (replacement, [])
  | owed + 1, lowest, highest, b :: bytes =>
    if lowest ≤ b.toNat && b.toNat ≤ highest then
      decodeTail (code * 0x40 + b.toNat % 0x40) owed 0x80 0xBF bytes
    else (replacement, b :: bytes)

/-- The character that begins with the byte `b`, and the bytes behind it. -/
def decodeNext (b : UInt8) (bytes : List UInt8) : Char × List UInt8 :=
  let n := b.toNat
  if n < 0x80 then (Char.ofNat n, bytes)
  else if n < 0xC2 then (replacement, bytes)
  else if n < 0xE0 then decodeTail (n % 0x20) 1 0x80 0xBF bytes
  else if n < 0xF0 then
    let lowest := if n = 0xE0 then 0xA0 else 0x80
    let highest := if n = 0xED then 0x9F else 0xBF
    decodeTail (n % 0x10) 2 lowest highest bytes
  else if n < 0xF5 then
    let lowest := if n = 0xF0 then 0x90 else 0x80
    let highest := if n = 0xF4 then 0x8F else 0xBF
    decodeTail (n % 0x08) 3 lowest highest bytes
  else (replacement, bytes)

theorem decodeTail_suffix (code owed lowest highest : Nat) (bytes : List UInt8) :
    (decodeTail code owed lowest highest bytes).2 <:+ bytes := by
  fun_induction decodeTail code owed lowest highest bytes with
  | case1 => exact List.suffix_refl _
  | case2 => exact List.suffix_refl _
  | case3 _ _ _ _ b bytes _ ih => exact ih.trans (List.suffix_cons b bytes)
  | case4 => exact List.suffix_refl _

/-- What is left behind a character is an end of the bytes behind its first one. -/
theorem decodeNext_suffix (b : UInt8) (bytes : List UInt8) :
    (decodeNext b bytes).2 <:+ bytes := by
  unfold decodeNext
  dsimp only
  split
  · exact List.suffix_refl _
  split
  · exact List.suffix_refl _
  split
  · exact decodeTail_suffix _ _ _ _ _
  split
  · exact decodeTail_suffix _ _ _ _ _
  split
  · exact decodeTail_suffix _ _ _ _ _
  · exact List.suffix_refl _

/-- The characters of the bytes behind those in `read`, which are last first. -/
def decodeAux (read : List Char) (bytes : List UInt8) : List Char :=
  match bytes with
  | [] => read.reverse
  | b :: bytes => decodeAux ((decodeNext b bytes).1 :: read) (decodeNext b bytes).2
termination_by bytes.length
decreasing_by
  have := (decodeNext_suffix b bytes).length_le
  simp only [List.length_cons]
  omega

/-- The characters of some bytes. -/
def decodeUtf8 (bytes : List UInt8) : List Char := decodeAux [] bytes

end ApiBindings.Charset
