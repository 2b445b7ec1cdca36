import GuestMachine.Memory
import GuestMachine.Proofs.Bytes
import GuestMachine.Proofs.Width

/-!
# Reads and writes of memory

Which bytes a write reaches, what memory holds after it, and what no write can change: the size,
the barriers, and the bytes below the read-only barrier.
-/

namespace GuestMachine.Memory

theorem getElem?_overlay (bytes : Array UInt8) (start : Nat) (data : Bytes) (i : Nat) :
    (overlay bytes start data)[i]? =
      if start ≤ i ∧ i < start + data.length ∧ i < bytes.size then data[i - start]?
      else bytes[i]? := by
  induction data generalizing bytes start with
  | nil =>
    have outside : ¬(start ≤ i ∧ i < start + ([] : Bytes).length ∧ i < bytes.size) := by
      simp only [List.length_nil]
      omega
    rw [if_neg outside, overlay]
  | cons b rest ih =>
    rw [overlay, ih, Array.size_setIfInBounds, Array.getElem?_setIfInBounds, List.length_cons]
    by_cases here : start = i
    · subst here
      by_cases inside : start < bytes.size
      · have first : ¬(start + 1 ≤ start ∧ start < start + 1 + rest.length ∧
            start < bytes.size) := by omega
        have reached : start ≤ start ∧ start < start + (rest.length + 1) ∧
            start < bytes.size := by omega
        rw [if_neg first, if_pos reached]
        simp [inside]
      · have none : ∀ n, ¬(n ≤ start ∧ start < n + rest.length ∧ start < bytes.size) := by omega
        have none' : ¬(start ≤ start ∧ start < start + (rest.length + 1) ∧
            start < bytes.size) := by omega
        rw [if_neg (none _), if_neg none']
        simp [inside]
    · rw [if_neg here]
      by_cases reached : start ≤ i ∧ i < start + (rest.length + 1) ∧ i < bytes.size
      · have later : start + 1 ≤ i ∧ i < start + 1 + rest.length ∧ i < bytes.size := by omega
        have shift : i - start = i - (start + 1) + 1 := by omega
        rw [if_pos reached, if_pos later, shift, List.getElem?_cons_succ]
      · have none : ¬(start + 1 ≤ i ∧ i < start + 1 + rest.length ∧ i < bytes.size) := by omega
        rw [if_neg reached, if_neg none]

/-- A write changes no byte in front of it. -/
theorem getElem?_patch_of_lt (m : Memory) {start i : Nat} (data : Bytes) (h : i < start) :
    (m.patch start data).bytes[i]? = m.bytes[i]? := by
  rw [patch, getElem?_overlay, if_neg]
  omega

/-- A write changes no byte outside of its range. -/
theorem getElem?_patch_of_outside (m : Memory) {start i : Nat} {data : Bytes}
    (h : i < start ∨ start + data.length ≤ i) :
    (m.patch start data).bytes[i]? = m.bytes[i]? := by
  rw [patch, getElem?_overlay, if_neg]
  omega

theorem getElem?_slice (m : Memory) (start len i : Nat) :
    (m.slice start len)[i]? = if i < len then m.bytes[start + i]? else none := by
  unfold slice
  rw [Array.getElem?_toList, Array.getElem?_extract]
  by_cases inside : i < len
  · rw [if_pos inside]
    by_cases stored : start + i < m.bytes.size
    · rw [if_pos (by omega)]
    · rw [if_neg (by omega), Array.getElem?_eq_none (by omega)]
  · rw [if_neg inside, if_neg (by omega)]

theorem length_slice (m : Memory) (start len : Nat) :
    (m.slice start len).length = min len (m.size - start) := by
  unfold slice size
  rw [Array.length_toList, Array.size_extract]
  omega

theorem slice_eq_take_drop (m : Memory) (start len : Nat) :
    m.slice start len = (m.bytes.toList.drop start).take len := by
  rw [slice, Array.toList_extract, List.extract_eq_take_drop, Nat.add_sub_cancel_left]

theorem take_slice (m : Memory) (start : Nat) {len n : Nat} (le : n ≤ len) :
    (m.slice start len).take n = m.slice start n := by
  apply List.ext_getElem?
  intro i
  rw [List.getElem?_take, getElem?_slice, getElem?_slice]
  by_cases inside : i < n
  · rw [if_pos inside, if_pos inside, if_pos (Nat.lt_of_lt_of_le inside le)]
  · rw [if_neg inside, if_neg inside]

@[simp] theorem readonlyBarrier_patch (m : Memory) (start : Nat) (data : Bytes) :
    (m.patch start data).readonlyBarrier = m.readonlyBarrier := rfl

@[simp] theorem stackBarrier_patch (m : Memory) (start : Nat) (data : Bytes) :
    (m.patch start data).stackBarrier = m.stackBarrier := rfl

theorem overlay_append (bytes : Array UInt8) (start : Nat) (xs ys : Bytes) :
    overlay bytes start (xs ++ ys) = overlay (overlay bytes start xs) (start + xs.length) ys := by
  induction xs generalizing bytes start with
  | nil => rfl
  | cons b rest ih =>
    have next : start + (b :: rest).length = start + 1 + rest.length := by
      rw [List.length_cons]
      omega
    rw [List.cons_append, overlay, overlay, ih, next]

/-- Two writes side by side are one. -/
theorem patch_append (m : Memory) (start : Nat) (xs ys : Bytes) :
    m.patch start (xs ++ ys) = (m.patch start xs).patch (start + xs.length) ys := by
  rw [patch, overlay_append, patch, patch]

theorem read_eq (m : Memory) (pos : UInt64) (w : Width) :
    m.read pos w = if pos.toNat + w.bytes ≤ m.size then
        .ok (Bytes.toWord (m.slice pos.toNat w.bytes))
      else .error .outOfBounds := by
  rw [read, readBytes, readFault?]
  by_cases fits : pos.toNat + w.bytes ≤ m.size
  · rw [if_pos fits, if_pos fits]
    rfl
  · rw [if_neg fits, if_neg fits]
    rfl

/-- A read depends on the bytes it reads and on no others. -/
theorem read_congr {m m' : Memory} {pos : UInt64} {w : Width} (size : m'.size = m.size)
    (same : ∀ i, pos.toNat ≤ i → i < pos.toNat + w.bytes → m'.bytes[i]? = m.bytes[i]?) :
    m'.read pos w = m.read pos w := by
  have slices : m'.slice pos.toNat w.bytes = m.slice pos.toNat w.bytes := by
    apply List.ext_getElem?
    intro i
    rw [getElem?_slice, getElem?_slice]
    split
    · exact same _ (Nat.le_add_right _ _) (by omega)
    · rfl
  rw [read_eq, read_eq, size, slices]

/-! ## Bytes at an address -/

/-- The bytes `data` are in memory from `address` on. -/
def Holds (m : Memory) (address : Nat) (data : Bytes) : Prop :=
  ∀ i, i < data.length → m.bytes[address + i]? = data[i]?

theorem holds_append (m : Memory) (address : Nat) (xs ys : Bytes) :
    m.Holds address (xs ++ ys) ↔ m.Holds address xs ∧ m.Holds (address + xs.length) ys := by
  constructor
  · intro h
    constructor
    · intro i hi
      rw [h i (by rw [List.length_append]; omega), List.getElem?_append_left hi]
    · intro i hi
      rw [Nat.add_assoc, h _ (by rw [List.length_append]; omega),
        List.getElem?_append_right (Nat.le_add_right _ _), Nat.add_sub_cancel_left]
  · rintro ⟨first, second⟩ i hi
    rw [List.length_append] at hi
    by_cases early : i < xs.length
    · rw [first i early, List.getElem?_append_left early]
    · have late := second (i - xs.length) (by omega)
      rw [List.getElem?_append_right (by omega), ← late]
      congr 1
      omega

theorem holds_patch {m : Memory} {address : Nat} {data : Bytes}
    (fits : address + data.length ≤ m.size) : (m.patch address data).Holds address data := by
  intro i hi
  have reached : address ≤ address + i ∧ address + i < address + data.length ∧
      address + i < m.bytes.size := by
    unfold size at fits
    omega
  rw [patch, getElem?_overlay, if_pos reached, Nat.add_sub_cancel_left]

namespace Holds

variable {m : Memory} {address : Nat} {data : Bytes}

/-- A write elsewhere leaves the bytes where they are. -/
theorem patch {start : Nat} {other : Bytes} (h : m.Holds address data)
    (apart : address + data.length ≤ start ∨ start + other.length ≤ address) :
    (m.patch start other).Holds address data := by
  intro i hi
  have missed : ¬(start ≤ address + i ∧ address + i < start + other.length ∧
      address + i < m.bytes.size) := by omega
  rw [Memory.patch, getElem?_overlay, if_neg missed]
  exact h i hi

theorem slice (h : m.Holds address data) : m.slice address data.length = data := by
  apply List.ext_getElem?
  intro i
  rw [getElem?_slice]
  by_cases inside : i < data.length
  · rw [if_pos inside, h i inside]
  · rw [if_neg inside, List.getElem?_eq_none (Nat.le_of_not_lt inside)]

/-- The low bytes of a value are read back as the value, cut off at their width. -/
theorem read_sized {pos value : UInt64} {w : Width}
    (h : m.Holds pos.toNat (Bytes.ofNat w.bytes value.toNat)) :
    m.read pos w = .ok (w.truncate value) := by
  have positive := w.bytes_pos
  have length := Bytes.length_ofNat w.bytes value.toNat
  have stored : pos.toNat + (w.bytes - 1) < m.bytes.size := by
    have last := h (w.bytes - 1) (by omega)
    rw [List.getElem?_eq_getElem (by omega)] at last
    exact (Array.getElem?_eq_some_iff.mp last).1
  have readable : m.readFault? pos w.bytes = none := by
    unfold readFault? size
    rw [if_pos (by omega)]
  have bytes := h.slice
  rw [length] at bytes
  have word : Bytes.toWord (Bytes.ofNat w.bytes value.toNat) = w.truncate value := by
    apply UInt64.toNat_inj.mp
    rw [Bytes.toWord, Bytes.value_ofNat, ← Width.range_eq_pow, Width.toNat_truncate]
    exact UInt64.toNat_ofNat_of_lt (Nat.lt_of_le_of_lt (Nat.mod_le _ _) value.toNat_lt)
  rw [Memory.read, readBytes, readable]
  simp only [bytes, Except.map, word]

theorem read {pos w : UInt64} (h : m.Holds pos.toNat (Bytes.ofWord w)) :
    m.read pos .qword = .ok w := by
  rw [h.read_sized (w := .qword), Width.truncate_qword]

end Holds

/-- What was written is read back. -/
theorem slice_patch (m : Memory) {start : Nat} {data : Bytes} (h : start + data.length ≤ m.size) :
    (m.patch start data).slice start data.length = data := (holds_patch h).slice

/-! ## Checked writes -/

theorem readFault?_eq_none {m : Memory} {pos : UInt64} {len : Nat} :
    m.readFault? pos len = none ↔ pos.toNat + len ≤ m.size := by
  unfold readFault?
  split <;> simp_all

theorem writeFault?_eq_none {m : Memory} {pos : UInt64} {len : Nat} :
    m.writeFault? pos len = none ↔
      m.readonlyBarrier ≤ pos.toNat ∧ pos.toNat + len ≤ m.size := by
  unfold writeFault?
  split
  · simp only [reduceCtorEq, false_iff]
    omega
  · rw [readFault?_eq_none]
    omega

theorem readFault?_of_read {m : Memory} {pos : UInt64} {w : Width} {value : UInt64}
    (h : m.read pos w = .ok value) : m.readFault? pos w.bytes = none := by
  unfold read readBytes at h
  cases fault : m.readFault? pos w.bytes with
  | none => rfl
  | some reason =>
    rw [fault] at h
    cases h

/-- What can be read is not written for one reason only: it is below the read-only barrier. -/
theorem writeFault?_of_read {m : Memory} {pos : UInt64} {w : Width} {value : UInt64}
    {fault : Fault} (loaded : m.read pos w = .ok value)
    (refused : m.writeFault? pos w.bytes = some fault) : fault = .accessViolation := by
  unfold writeFault? at refused
  split at refused
  · exact (Option.some.inj refused).symm
  · rw [readFault?_of_read loaded] at refused
    cases refused

/-- A write is refused below the read-only barrier, and only then at the end of memory. -/
theorem writeBytes_outcome (m : Memory) (pos : UInt64) (data : Bytes) :
    m.writeBytes pos data =
      if pos.toNat < m.readonlyBarrier then .error .accessViolation
      else if pos.toNat + data.length ≤ m.size then .ok (m.patch pos.toNat data)
      else .error .outOfBounds := by
  unfold writeBytes writeFault? readFault?
  by_cases low : pos.toNat < m.readonlyBarrier
  · rw [if_pos low, if_pos low]
  · by_cases fits : pos.toNat + data.length ≤ m.size
    · rw [if_neg low, if_neg low, if_pos fits, if_pos fits]
    · rw [if_neg low, if_neg low, if_neg fits, if_neg fits]

theorem writeBytes_eq_accessViolation {m : Memory} {pos : UInt64} {data : Bytes} :
    m.writeBytes pos data = .error .accessViolation ↔ pos.toNat < m.readonlyBarrier := by
  rw [writeBytes_outcome]
  split
  · next low => exact iff_of_true rfl low
  · next high => split <;> exact iff_of_false nofun high

theorem writeBytes_eq_outOfBounds {m : Memory} {pos : UInt64} {data : Bytes} :
    m.writeBytes pos data = .error .outOfBounds ↔
      m.readonlyBarrier ≤ pos.toNat ∧ m.size < pos.toNat + data.length := by
  rw [writeBytes_outcome]
  split
  · next low => exact iff_of_false nofun (by omega)
  · next high =>
    split
    · next fits => exact iff_of_false nofun (by omega)
    · next long => exact iff_of_true rfl (by omega)

theorem writeBytes_eq_ok {m m' : Memory} {pos : UInt64} {data : Bytes} :
    m.writeBytes pos data = .ok m' ↔
      (m.readonlyBarrier ≤ pos.toNat ∧ pos.toNat + data.length ≤ m.size) ∧
        m' = m.patch pos.toNat data := by
  rw [writeBytes_outcome]
  split
  · next low => exact iff_of_false nofun (by omega)
  · next high =>
    split
    · next fits => simp [Nat.le_of_not_lt high, fits, eq_comm]
    · next long => exact iff_of_false nofun (by omega)

theorem writeBytes_of_fits {m : Memory} {address : Nat} {data : Bytes}
    (above : m.readonlyBarrier ≤ address) (fits : address + data.length ≤ m.size)
    (small : address < UInt64.size) :
    m.writeBytes (UInt64.ofNat address) data = .ok (m.patch address data) := by
  have number : (UInt64.ofNat address).toNat = address := UInt64.toNat_ofNat_of_lt small
  have writable : m.writeFault? (UInt64.ofNat address) data.length = none := by
    rw [writeFault?_eq_none, number]
    exact ⟨above, fits⟩
  rw [writeBytes, writable, number]

/-- `m'` has the size and the barriers of `m`, and its bytes below the read-only barrier. -/
structure Sealed (m m' : Memory) : Prop where
  size : m'.size = m.size
  exeBarrier : m'.exeBarrier = m.exeBarrier
  readonlyBarrier : m'.readonlyBarrier = m.readonlyBarrier
  stackBarrier : m'.stackBarrier = m.stackBarrier
  bytes : ∀ i, i < m.readonlyBarrier → m'.bytes[i]? = m.bytes[i]?

namespace Sealed

theorem refl (m : Memory) : Sealed m m := ⟨rfl, rfl, rfl, rfl, fun _ _ => rfl⟩

theorem trans {a b c : Memory} (hab : Sealed a b) (hbc : Sealed b c) : Sealed a c where
  size := hbc.size.trans hab.size
  exeBarrier := hbc.exeBarrier.trans hab.exeBarrier
  readonlyBarrier := hbc.readonlyBarrier.trans hab.readonlyBarrier
  stackBarrier := hbc.stackBarrier.trans hab.stackBarrier
  bytes i hi := by rw [hbc.bytes i (by rw [hab.readonlyBarrier]; exact hi), hab.bytes i hi]

/-- Nothing that starts at or above the read-only barrier reaches below it, however long. -/
theorem patch {m : Memory} {start : Nat} (data : Bytes) (h : m.readonlyBarrier ≤ start) :
    Sealed m (m.patch start data) where
  size := size_patch m start data
  exeBarrier := rfl
  readonlyBarrier := rfl
  stackBarrier := rfl
  bytes _ hi := m.getElem?_patch_of_lt data (Nat.lt_of_lt_of_le hi h)

theorem of_writeFault? {m : Memory} {pos : UInt64} {len : Nat} (data : Bytes)
    (h : m.writeFault? pos len = none) : Sealed m (m.patch pos.toNat data) :=
  patch data (writeFault?_eq_none.mp h).1

theorem writeBytes {m m' : Memory} {pos : UInt64} {data : Bytes}
    (h : m.writeBytes pos data = .ok m') : Sealed m m' := by
  obtain ⟨⟨above, -⟩, rfl⟩ := writeBytes_eq_ok.mp h
  exact patch data above

end Sealed

end GuestMachine.Memory
