import GuestMachine.Bytes

/-!
# UTF-8

Texts are written as UTF-8. Reading accepts any byte string: where the bytes are not UTF-8,
each longest piece that could have begun a character is read as one replacement character.
-/

namespace GuestMachine.Text.Utf8

def encode (text : String) : Bytes := text.toList.flatMap String.utf8EncodeChar

/-- What a leading byte announces: how many bytes continue the character, and the range of the
first of them. -/
structure Lead where
  count : Nat
  low : UInt8
  high : UInt8

/-- The announcement of a leading byte of a character of two to four bytes. The narrower ranges
rule out overlong forms, surrogates and values beyond the last code point. -/
def lead? (b : UInt8) : Option Lead :=
  if 0xC2 ≤ b ∧ b ≤ 0xDF then some ⟨1, 0x80, 0xBF⟩
  else if b = 0xE0 then some ⟨2, 0xA0, 0xBF⟩
  else if b = 0xED then some ⟨2, 0x80, 0x9F⟩
  else if 0xE1 ≤ b ∧ b ≤ 0xEF then some ⟨2, 0x80, 0xBF⟩
  else if b = 0xF0 then some ⟨3, 0x90, 0xBF⟩
  else if 0xF1 ≤ b ∧ b ≤ 0xF3 then some ⟨3, 0x80, 0xBF⟩
  else if b = 0xF4 then some ⟨3, 0x80, 0x8F⟩
  else none

/-- The longest run of at most `count` continuation bytes, the first of them from `low` to
`high`. -/
def continuation : (count : Nat) → (low high : UInt8) → Bytes → Bytes
  | count + 1, low, high, b :: rest =>
    if low ≤ b ∧ b ≤ high then b :: continuation count 0x80 0xBF rest else []
  | _, _, _, _ => []

/-- The code point of a leading byte and its `count` continuation bytes. -/
def codePoint (b : UInt8) (count : Nat) (tail : Bytes) : Nat :=
  tail.foldl (fun n c => n * 64 + c.toNat % 64) (b.toNat % Nat.pow 2 (6 - count))

def replacement : Char := Char.ofNat 0xFFFD

/-- The character that starts with `b`, and the number of bytes it takes after `b`. -/
def decodeChar (b : UInt8) (rest : Bytes) : Char × Nat :=
  if b < 0x80 then (Char.ofNat b.toNat, 0)
  else
    match lead? b with
    | none => (replacement, 0)
    | some lead =>
      let tail := continuation lead.count lead.low lead.high rest
      if tail.length = lead.count then (Char.ofNat (codePoint b lead.count tail), lead.count)
      else (replacement, tail.length)

def decodeChars : Bytes → List Char
  | [] => []
  | b :: rest =>
    let (c, taken) := decodeChar b rest
    c :: decodeChars (rest.drop taken)
termination_by bytes => bytes.length
decreasing_by
  rw [List.length_drop, List.length_cons]
  omega

def decode (bytes : Bytes) : String := String.ofList (decodeChars bytes)

end GuestMachine.Text.Utf8
