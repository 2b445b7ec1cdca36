import GuestMachine.Text.Utf8
import Mathlib.Data.List.TakeWhile

/-!
# Reading back UTF-8

The reader takes any bytes, and where they spell a text it gives that text. A zero byte comes from
the zero character alone, so the bytes of a text up to the first zero spell the text up to its first
zero character.
-/

namespace GuestMachine.Text.Utf8

theorem encode_eq (text : String) : encode text = text.toByteArray.data.toList := by
  rw [← String.utf8Encode_toList, List.utf8Encode, List.data_toByteArray]
  rfl

theorem length_encode (text : String) : (encode text).length = text.utf8ByteSize := by
  rw [encode_eq]
  exact String.size_toByteArray

theorem length_encode_append_zero (text : String) :
    (encode text ++ [0]).length = text.utf8ByteSize + 1 := by
  rw [List.length_append, length_encode, List.length_singleton]

theorem encode_ofList (chars : List Char) :
    encode (String.ofList chars) = chars.flatMap String.utf8EncodeChar := by
  rw [encode, String.toList_ofList]

/-! ## Bytes that lead and bytes that continue -/

theorem toNat_ofNat_of_lt {n : Nat} (small : n < 256) : (UInt8.ofNat n).toNat = n := by
  rw [UInt8.toNat_ofNat', Nat.mod_eq_of_lt small]

/-- The byte that continues a character with the low six bits of a number. -/
def tailByte (n : Nat) : UInt8 := UInt8.ofNat (n % 0x40 + 0x80)

theorem toNat_tailByte (n : Nat) : (tailByte n).toNat = n % 0x40 + 0x80 :=
  toNat_ofNat_of_lt (by omega)

theorem tailByte_range (n : Nat) : 0x80 ≤ tailByte n ∧ tailByte n ≤ 0xBF := by
  rw [UInt8.le_iff_toNat_le, UInt8.le_iff_toNat_le, toNat_tailByte]
  simp only [UInt8.reduceToNat]
  omega

theorem not_lt_of_lead? {b : UInt8} {lead : Lead} (leads : lead? b = some lead) : ¬b < 0x80 := by
  intro plain
  have none : lead? b = none := by
    unfold lead?
    grind
  rw [none] at leads
  cases leads

theorem lead?_ofNat {n : Nat} (small : n < 256) :
    lead? (UInt8.ofNat n) =
      if 0xC2 ≤ n ∧ n ≤ 0xDF then some ⟨1, 0x80, 0xBF⟩
      else if n = 0xE0 then some ⟨2, 0xA0, 0xBF⟩
      else if n = 0xED then some ⟨2, 0x80, 0x9F⟩
      else if 0xE1 ≤ n ∧ n ≤ 0xEF then some ⟨2, 0x80, 0xBF⟩
      else if n = 0xF0 then some ⟨3, 0x90, 0xBF⟩
      else if 0xF1 ≤ n ∧ n ≤ 0xF3 then some ⟨3, 0x80, 0xBF⟩
      else if n = 0xF4 then some ⟨3, 0x80, 0x8F⟩
      else none := by
  simp only [lead?, UInt8.le_iff_toNat_le, ← UInt8.toNat_inj, toNat_ofNat_of_lt small,
    UInt8.reduceToNat]

theorem lead?_two {n : Nat} (long : 2 ≤ n) (small : n < 0x20) :
    lead? (UInt8.ofNat (n + 0xC0)) = some ⟨1, 0x80, 0xBF⟩ := by
  rw [lead?_ofNat (by omega), if_pos (by omega)]

/-- What may come second among three bytes leaves out the characters of two bytes and the
surrogates. -/
theorem exists_lead?_three {n k : Nat} (small : n < 0x10) (long : n = 0 → 0x20 ≤ k % 0x40)
    (scalar : n = 0xD → k % 0x40 < 0x20) :
    ∃ low high, lead? (UInt8.ofNat (n + 0xE0)) = some ⟨2, low, high⟩ ∧
      low ≤ tailByte k ∧ tailByte k ≤ high := by
  simp only [UInt8.le_iff_toNat_le, toNat_tailByte]
  rw [lead?_ofNat (by omega), if_neg (by omega)]
  by_cases zero : n = 0
  · exact ⟨0xA0, 0xBF, if_pos (by omega), by simp only [UInt8.reduceToNat]; omega⟩
  · rw [if_neg (by omega)]
    by_cases surrogate : n = 0xD
    · exact ⟨0x80, 0x9F, if_pos (by omega), by simp only [UInt8.reduceToNat]; omega⟩
    · rw [if_neg (by omega)]
      exact ⟨0x80, 0xBF, if_pos (by omega), by simp only [UInt8.reduceToNat]; omega⟩

/-- What may come second among four bytes leaves out the characters of three bytes and what is
beyond the last code point. -/
theorem exists_lead?_four {n k : Nat} (small : n ≤ 4) (long : n = 0 → 0x10 ≤ k % 0x40)
    (scalar : n = 4 → k % 0x40 < 0x10) :
    ∃ low high, lead? (UInt8.ofNat (n + 0xF0)) = some ⟨3, low, high⟩ ∧
      low ≤ tailByte k ∧ tailByte k ≤ high := by
  simp only [UInt8.le_iff_toNat_le, toNat_tailByte]
  rw [lead?_ofNat (by omega), if_neg (by omega), if_neg (by omega), if_neg (by omega),
    if_neg (by omega)]
  by_cases zero : n = 0
  · exact ⟨0x90, 0xBF, if_pos (by omega), by simp only [UInt8.reduceToNat]; omega⟩
  · rw [if_neg (by omega)]
    by_cases last : n = 4
    · rw [if_neg (by omega)]
      exact ⟨0x80, 0x8F, if_pos (by omega), by simp only [UInt8.reduceToNat]; omega⟩
    · exact ⟨0x80, 0xBF, if_pos (by omega), by simp only [UInt8.reduceToNat]; omega⟩

/-- The announced number of continuing bytes is taken, whatever follows. -/
theorem continuation_append {low high : UInt8} {k : Nat} (ks : List Nat) (rest : Bytes)
    (second : low ≤ tailByte k ∧ tailByte k ≤ high) :
    continuation (ks.length + 1) low high (tailByte k :: (ks.map tailByte ++ rest)) =
      (k :: ks).map tailByte := by
  induction ks generalizing low high k with
  | nil => simp [continuation, second]
  | cons next more ih =>
    rw [List.length_cons, continuation, if_pos second, List.map_cons, List.cons_append,
      ih (tailByte_range next)]
    rfl

theorem codePoint_map_tailByte (b : UInt8) (count : Nat) (ks : List Nat) :
    codePoint b count (ks.map tailByte) =
      ks.foldl (fun n k => n * 64 + k % 64) (b.toNat % Nat.pow 2 (6 - count)) := by
  have six : ∀ k, (tailByte k).toNat % 64 = k % 64 := by
    intro k
    rw [toNat_tailByte]
    omega
  simp only [codePoint, List.foldl_map, six]

/-! ## Characters -/

/-- A leading byte, as a number, and the bytes it announces are read as the character that their
bits make up. -/
theorem decodeChars_lead {n k : Nat} {low high : UInt8} {c : Char} (ks : List Nat) (rest : Bytes)
    (small : n < 256) (leads : lead? (UInt8.ofNat n) = some ⟨ks.length + 1, low, high⟩)
    (second : low ≤ tailByte k ∧ tailByte k ≤ high)
    (point : (k :: ks).foldl (fun n k => n * 64 + k % 64) (n % Nat.pow 2 (5 - ks.length)) =
      c.toNat) :
    decodeChars (UInt8.ofNat n :: tailByte k :: (ks.map tailByte ++ rest)) =
      c :: decodeChars rest := by
  have read : decodeChar (UInt8.ofNat n) (tailByte k :: (ks.map tailByte ++ rest)) =
      (c, ks.length + 1) := by
    rw [decodeChar, if_neg (not_lt_of_lead? leads), leads]
    simp only [continuation_append ks rest second, List.length_map, List.length_cons, if_true,
      codePoint_map_tailByte, toNat_ofNat_of_lt small, Nat.reduceSubDiff, point, Char.ofNat_toNat]
  rw [decodeChars, read]
  simp

theorem decodeChars_utf8EncodeChar (c : Char) (rest : Bytes) :
    decodeChars (String.utf8EncodeChar c ++ rest) = c :: decodeChars rest := by
  have scalar : c.toNat < 0xD800 ∨ 0xDFFF < c.toNat ∧ c.toNat < 0x110000 := c.valid
  have number : c.val.toNat = c.toNat := rfl
  unfold String.utf8EncodeChar
  simp only [number]
  split
  · next one =>
    have byte : (UInt8.ofNat c.toNat).toNat = c.toNat := toNat_ofNat_of_lt (by omega)
    have plain : UInt8.ofNat c.toNat < 0x80 := by
      rw [UInt8.lt_iff_toNat_lt, byte]
      exact Nat.lt_of_le_of_lt one (by decide)
    have read : decodeChar (UInt8.ofNat c.toNat) rest = (c, 0) := by
      rw [decodeChar, if_pos plain, byte, Char.ofNat_toNat]
    rw [List.cons_append, List.nil_append, decodeChars, read]
    rfl
  · split
    · next two =>
      refine decodeChars_lead [] rest (by omega) (lead?_two (by omega) (by omega))
        (tailByte_range c.toNat) ?_
      show (c.toNat / 64 % 0x20 + 0xC0) % 32 * 64 + c.toNat % 64 = c.toNat
      omega
    · split
      · next three =>
        obtain ⟨low, high, leads, second⟩ := exists_lead?_three (n := c.toNat / 4096 % 0x10)
          (k := c.toNat / 64) (by omega) (by omega) (by omega)
        refine decodeChars_lead [c.toNat] rest (by omega) leads second ?_
        show ((c.toNat / 4096 % 0x10 + 0xE0) % 16 * 64 + c.toNat / 64 % 64) * 64 + c.toNat % 64 =
          c.toNat
        omega
      · next four =>
        obtain ⟨low, high, leads, second⟩ := exists_lead?_four (n := c.toNat / 262144 % 0x08)
          (k := c.toNat / 4096) (by omega) (by omega) (by omega)
        refine decodeChars_lead [c.toNat / 64, c.toNat] rest (by omega) leads second ?_
        show (((c.toNat / 262144 % 0x08 + 0xF0) % 8 * 64 + c.toNat / 4096 % 64) * 64 +
          c.toNat / 64 % 64) * 64 + c.toNat % 64 = c.toNat
        omega

/-! ## Texts -/

theorem decodeChars_flatMap (chars : List Char) :
    decodeChars (chars.flatMap String.utf8EncodeChar) = chars := by
  induction chars with
  | nil => rw [List.flatMap_nil, decodeChars]
  | cons c rest ih => rw [List.flatMap_cons, decodeChars_utf8EncodeChar, ih]

theorem decode_encode (text : String) : decode (encode text) = text := by
  rw [decode, encode, decodeChars_flatMap, String.ofList_toList]

/-- Where bytes spell a text, reading them loses nothing. -/
theorem encode_decode {bytes : Bytes} (valid : bytes.toByteArray.IsValidUTF8) :
    encode (decode bytes) = bytes := by
  obtain ⟨chars, spelled⟩ := valid
  have whole : bytes = chars.flatMap String.utf8EncodeChar := by
    have data : bytes.toByteArray.data.toList = chars.utf8Encode.data.toList := by rw [spelled]
    rwa [List.utf8Encode, List.data_toByteArray, List.data_toByteArray] at data
  rw [whole, decode, decodeChars_flatMap, encode_ofList]

/-! ## Zeros -/

/-- The part of a text before its first zero character. -/
def beforeZero (text : String) : String :=
  String.ofList (text.toList.takeWhile (· ≠ Char.ofNat 0))

theorem beforeZero_eq_self {text : String} (none : Char.ofNat 0 ∉ text.toList) :
    beforeZero text = text := by
  have all : text.toList.takeWhile (· ≠ Char.ofNat 0) = text.toList := by
    rw [List.takeWhile_eq_self_iff]
    intro c member
    exact decide_eq_true fun zero => none (zero ▸ member)
  rw [beforeZero, all, String.ofList_toList]

theorem ofNat_ne_zero {n : Nat} (positive : n ≠ 0) (small : n < 256) : UInt8.ofNat n ≠ 0 := by
  intro zero
  apply positive
  rw [← toNat_ofNat_of_lt small, zero]
  rfl

theorem ne_zero_of_mem_utf8EncodeChar {c : Char} {b : UInt8} (nonzero : c ≠ Char.ofNat 0)
    (member : b ∈ String.utf8EncodeChar c) : b ≠ 0 := by
  have positive : c.toNat ≠ 0 := fun zero => nonzero (by rw [← c.ofNat_toNat, zero])
  have number : c.val.toNat = c.toNat := rfl
  unfold String.utf8EncodeChar at member
  simp only [number] at member
  split at member
  · next one =>
    obtain rfl := List.mem_singleton.mp member
    exact ofNat_ne_zero positive (by omega)
  · -- Every byte of a longer character has its highest bit set.
    have high : ∃ n, b = UInt8.ofNat n ∧ 0x80 ≤ n ∧ n < 256 := by
      split at member
      · simp only [List.mem_cons, List.not_mem_nil, or_false] at member
        rcases member with rfl | rfl <;> exact ⟨_, rfl, by omega, by omega⟩
      · split at member
        · simp only [List.mem_cons, List.not_mem_nil, or_false] at member
          rcases member with rfl | rfl | rfl <;> exact ⟨_, rfl, by omega, by omega⟩
        · simp only [List.mem_cons, List.not_mem_nil, or_false] at member
          rcases member with rfl | rfl | rfl | rfl <;> exact ⟨_, rfl, by omega, by omega⟩
    obtain ⟨n, rfl, low, small⟩ := high
    exact ofNat_ne_zero (by omega) small

theorem encode_beforeZero (text : String) :
    encode (beforeZero text) = (encode text).takeWhile (· ≠ 0) := by
  rw [beforeZero, encode_ofList, encode]
  induction text.toList with
  | nil => rfl
  | cons c rest ih =>
    by_cases zero : c = Char.ofNat 0
    · rw [zero, List.takeWhile_cons_of_neg (by simp)]
      rfl
    · have bytes : ∀ b ∈ String.utf8EncodeChar c, decide (b ≠ 0) = true := fun b member =>
        decide_eq_true (ne_zero_of_mem_utf8EncodeChar zero member)
      rw [List.takeWhile_cons_of_pos (by simpa using zero), List.flatMap_cons, List.flatMap_cons,
        List.takeWhile_append_of_pos bytes, ih]

end GuestMachine.Text.Utf8
