import GuestMachine.Proofs.Memory.ReadBack
import GuestMachine.Proofs.Text.Utf8

/-!
# Texts in memory

A byte string in memory ends at the first zero from its address on; where memory ends before one is
found, there is no byte string. A text is written with a zero behind it, so it is read back up to
its first zero character, which may be one of its own.
-/

namespace GuestMachine.Memory

variable {m m' : Memory} {pos : UInt64} {address : Nat} {data : Bytes} {text : String}

/-! ## Terminated bytes -/

/-- The bytes `data` are in memory from `address` on, none of them zero, with a zero behind them. -/
structure Terminated (m : Memory) (address : Nat) (data : Bytes) : Prop where
  nonzero : 0 ∉ data
  holds : m.Holds address data
  zero : m.bytes[address + data.length]? = some 0

/-- Where one byte string ends, a longer one has no zero. -/
theorem Terminated.length_le {other : Bytes} (h : m.Terminated address data)
    (h' : m.Terminated address other) : other.length ≤ data.length := by
  apply Nat.le_of_not_lt
  intro shorter
  have inside : other[data.length]? = some 0 := (h'.holds _ shorter).symm.trans h.zero
  exact h'.nonzero (List.mem_of_getElem? inside)

/-- No two byte strings are terminated at one address. -/
theorem Terminated.unique {other : Bytes} (h : m.Terminated address data)
    (h' : m.Terminated address other) : data = other := by
  have length : data.length = other.length := Nat.le_antisymm (h'.length_le h) (h.length_le h')
  rw [← h.holds.slice, ← h'.holds.slice, length]

/-- Bytes with a zero behind them are terminated at the first zero among them. -/
theorem Holds.terminated (h : m.Holds address (data ++ [0])) :
    m.Terminated address (data.takeWhile (· ≠ 0)) := by
  have split : data ++ [0] =
      data.takeWhile (· ≠ 0) ++ (data.dropWhile (· ≠ 0) ++ [0]) := by
    rw [← List.append_assoc, List.takeWhile_append_dropWhile]
  rw [split, holds_append] at h
  obtain ⟨front, back⟩ := h
  refine ⟨fun member => ?_, front, ?_⟩
  · have nonzero := List.mem_takeWhile_imp member
    simp at nonzero
  · have stops := data.head?_dropWhile_not (· ≠ 0)
    have first : (data.dropWhile (· ≠ 0) ++ [0])[0]? = some 0 := by
      cases behind : data.dropWhile (· ≠ 0) with
      | nil => rfl
      | cons b rest =>
        rw [behind] at stops
        simpa using stops
    rw [← first, ← back 0 (by simp), Nat.add_zero]

/-! ## Reading -/

/-- The search finds the first zero from its start on, or there is none. -/
theorem zeroFrom?_cases (bytes : Array UInt8) (start : Nat) :
    (∃ stop, zeroFrom? bytes start = some stop ∧ start ≤ stop ∧ bytes[stop]? = some 0 ∧
      ∀ i, start ≤ i → i < stop → bytes[i]? ≠ some 0) ∨
    zeroFrom? bytes start = none ∧ ∀ i, start ≤ i → bytes[i]? ≠ some 0 := by
  fun_induction zeroFrom? bytes start with
  | case1 start inside zero =>
    refine .inl ⟨start, rfl, Nat.le_refl _, ?_, fun i above below => by omega⟩
    rw [Array.getElem?_eq_getElem inside, zero]
  | case2 start inside nonzero ih =>
    have here : bytes[start]? ≠ some 0 := by
      rw [Array.getElem?_eq_getElem inside]
      exact fun zero => nonzero (Option.some.inj zero)
    rcases ih with ⟨stop, found, above, zero, before⟩ | ⟨missing, none⟩
    · refine .inl ⟨stop, found, by omega, zero, fun i from_ below => ?_⟩
      rcases Nat.eq_or_lt_of_le from_ with rfl | later
      · exact here
      · exact before i later below
    · refine .inr ⟨missing, fun i from_ => ?_⟩
      rcases Nat.eq_or_lt_of_le from_ with rfl | later
      · exact here
      · exact none i later
  | case3 start outside =>
    refine .inr ⟨rfl, fun i from_ => ?_⟩
    rw [Array.getElem?_eq_none (by omega)]
    nofun

theorem readCString_cases (m : Memory) (pos : UInt64) :
    (∃ data, m.readCString pos = .ok data ∧ m.Terminated pos.toNat data) ∨
    m.readCString pos = .error .outOfBounds ∧ ∀ i, pos.toNat ≤ i → m.bytes[i]? ≠ some 0 := by
  unfold readCString
  rcases zeroFrom?_cases m.bytes pos.toNat with ⟨stop, found, above, zero, before⟩ | ⟨missing, none⟩
  · rw [found]
    have inside : stop < m.size := (Array.getElem?_eq_some_iff.mp zero).1
    have length : (m.slice pos.toNat (stop - pos.toNat)).length = stop - pos.toNat := by
      rw [length_slice]
      omega
    have bytes : ∀ i, i < stop - pos.toNat →
        (m.slice pos.toNat (stop - pos.toNat))[i]? = m.bytes[pos.toNat + i]? := by
      intro i below
      rw [getElem?_slice, if_pos below]
    refine .inl ⟨_, rfl, ?_, ?_, ?_⟩
    · intro member
      obtain ⟨i, within⟩ := List.mem_iff_getElem?.mp member
      have below : i < stop - pos.toNat := by
        rw [← length]
        exact (List.getElem?_eq_some_iff.mp within).1
      rw [bytes i below] at within
      exact before _ (Nat.le_add_right _ _) (by omega) within
    · intro i below
      rw [length] at below
      exact (bytes i below).symm
    · rw [length, Nat.add_sub_cancel' above]
      exact zero
  · rw [missing]
    exact .inr ⟨rfl, none⟩

theorem readCString_eq_ok : m.readCString pos = .ok data ↔ m.Terminated pos.toNat data := by
  rcases m.readCString_cases pos with ⟨found, read, terminated⟩ | ⟨missing, none⟩
  · rw [read, Except.ok.injEq]
    constructor
    · rintro rfl
      exact terminated
    · exact terminated.unique
  · rw [missing]
    exact iff_of_false nofun fun h => none _ (Nat.le_add_right _ _) h.zero

theorem readCString_eq_outOfBounds :
    m.readCString pos = .error .outOfBounds ↔ ∀ i, pos.toNat ≤ i → m.bytes[i]? ≠ some 0 := by
  rcases m.readCString_cases pos with ⟨found, read, terminated⟩ | ⟨missing, none⟩
  · rw [read]
    exact iff_of_false nofun fun none => none _ (Nat.le_add_right _ _) terminated.zero
  · exact iff_of_true missing none

/-- Bytes that spell a text are read as that text. -/
theorem readText_of_readCString (read : m.readCString pos = .ok (Text.Utf8.encode text)) :
    m.readText pos = .ok text := by
  rw [readText, read, Except.map, Text.Utf8.decode_encode]

/-- There is a text, or memory ends before it does. -/
theorem readText_cases (m : Memory) (pos : UInt64) :
    (∃ text, m.readText pos = .ok text) ∨ m.readText pos = .error .outOfBounds := by
  unfold readText
  rcases m.readCString_cases pos with ⟨data, read, -⟩ | ⟨missing, -⟩
  · rw [read]
    exact .inl ⟨_, rfl⟩
  · rw [missing]
    exact .inr rfl

/-! ## Writing -/

/-- A text that was written is read back up to its first zero character. -/
theorem readCString_of_writeText (written : m.writeText pos text = .ok m') :
    m'.readCString pos = .ok (Text.Utf8.encode (Text.Utf8.beforeZero text)) := by
  obtain ⟨⟨-, fits⟩, rfl⟩ := writeBytes_eq_ok.mp written
  rw [readCString_eq_ok, Text.Utf8.encode_beforeZero]
  exact (holds_patch fits).terminated

/-- Writing a text is an access violation below the read-only barrier, out of bounds if the text and
its zero pass the end of memory, and succeeds otherwise; it then changes no byte outside of its
range. What is read back is the text up to its first zero character, as bytes and as a text, since
the reader of bytes that spell a text gives that text. In any memory, the byte string at an address
is what stands there up to the first zero, and it is out of bounds to look for one if no zero
follows, as at any address behind the end. -/
theorem text_read_back_exact (m : Memory) (pos : UInt64) (text : String) :
    (m.writeText pos text = .error .accessViolation ↔ pos.toNat < m.readonlyBarrier) ∧
    (m.writeText pos text = .error .outOfBounds ↔
      m.readonlyBarrier ≤ pos.toNat ∧ m.size < pos.toNat + text.utf8ByteSize + 1) ∧
    ((∃ m', m.writeText pos text = .ok m') ↔
      m.readonlyBarrier ≤ pos.toNat ∧ pos.toNat + text.utf8ByteSize + 1 ≤ m.size) ∧
    (∀ m', m.writeText pos text = .ok m' →
      m' = { m with bytes := m'.bytes } ∧ m'.size = m.size ∧
      (∀ i, i < pos.toNat ∨ pos.toNat + text.utf8ByteSize + 1 ≤ i →
        m'.bytes[i]? = m.bytes[i]?) ∧
      m'.Holds pos.toNat (text.toByteArray.data.toList ++ [0]) ∧
      m'.readCString pos = .ok (Text.Utf8.beforeZero text).toByteArray.data.toList ∧
      m'.readText pos = .ok (Text.Utf8.beforeZero text) ∧
      (Char.ofNat 0 ∉ text.toList → m'.readText pos = .ok text)) ∧
    (∀ t : String, Text.Utf8.decode t.toByteArray.data.toList = t) ∧
    (∀ bytes : Bytes, bytes.toByteArray.IsValidUTF8 →
      (Text.Utf8.decode bytes).toByteArray.data.toList = bytes) ∧
    (∀ data, m.readCString pos = .ok data ↔
      0 ∉ data ∧ m.Holds pos.toNat data ∧ m.bytes[pos.toNat + data.length]? = some 0) ∧
    (m.readCString pos = .error .outOfBounds ↔
      ∀ i, pos.toNat ≤ i → i < m.size → m.bytes[i]? ≠ some 0) ∧
    (m.size ≤ pos.toNat → m.readCString pos = .error .outOfBounds) := by
  have length := Text.Utf8.length_encode_append_zero text
  refine ⟨writeBytes_eq_accessViolation, ?_, ?_, ?_, ?_, ?_, ?_, ?_, ?_⟩
  · rw [writeText, writeBytes_eq_outOfBounds, length, Nat.add_assoc]
  · simp only [writeText, writeBytes_eq_ok, length, Nat.add_assoc, exists_and_left, exists_eq,
      and_true]
  · intro m' written
    have read := readCString_of_writeText written
    have whole := readText_of_readCString read
    obtain ⟨⟨-, fits⟩, rfl⟩ := writeBytes_eq_ok.mp written
    refine ⟨rfl, size_patch _ _ _, fun i outside => ?_, ?_, ?_, whole, fun none => ?_⟩
    · rw [getElem?_patch_of_outside m (by omega)]
    · rw [← Text.Utf8.encode_eq]
      exact holds_patch fits
    · rw [read, Text.Utf8.encode_eq]
    · rw [whole, Text.Utf8.beforeZero_eq_self none]
  · intro t
    rw [← Text.Utf8.encode_eq, Text.Utf8.decode_encode]
  · intro bytes valid
    rw [← Text.Utf8.encode_eq, Text.Utf8.encode_decode valid]
  · intro data
    rw [readCString_eq_ok]
    exact ⟨fun h => ⟨h.nonzero, h.holds, h.zero⟩, fun ⟨nonzero, holds, zero⟩ =>
      ⟨nonzero, holds, zero⟩⟩
  · rw [readCString_eq_outOfBounds]
    refine forall₂_congr fun i _ => ⟨fun none _ => none, fun none zero => ?_⟩
    exact none (Array.getElem?_eq_some_iff.mp zero).1 zero
  · intro outside
    rw [readCString_eq_outOfBounds]
    intro i above zero
    have inside : i < m.size := (Array.getElem?_eq_some_iff.mp zero).1
    omega

/-- Four characters, of which the second takes two bytes and the third is zero. -/
def interrupted : String := String.ofList ['h', 'é', Char.ofNat 0, 'x']

theorem text_read_back_exact_interrupted :
    ∃ m', filled.writeText 4 interrupted = .ok m' ∧
      m'.Holds 4 [0x68, 0xC3, 0xA9, 0, 0x78, 0] ∧ m'.bytes[10]? = some 0xEE ∧
      m'.readCString 4 = .ok [0x68, 0xC3, 0xA9] ∧
      m'.readText 4 = .ok (String.ofList ['h', 'é']) ∧
      filled.readCString 4 = .error .outOfBounds := by
  have kept : Text.Utf8.beforeZero interrupted = String.ofList ['h', 'é'] := by
    rw [Text.Utf8.beforeZero, interrupted, String.toList_ofList]
    rfl
  obtain ⟨-, -, succeeds, later, -, -, -, missing, -⟩ := text_read_back_exact filled 4 interrupted
  obtain ⟨m', written⟩ := succeeds.mpr (by decide)
  obtain ⟨-, -, outside, stored, bytes, read, -⟩ := later m' written
  rw [kept] at bytes read
  refine ⟨m', written, stored, ?_, bytes, read, missing.mpr ?_⟩
  · rw [outside 10 (by decide)]
    rfl
  · decide

end GuestMachine.Memory
