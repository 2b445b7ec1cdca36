import GuestMachine.Proofs.Core.Access
import GuestMachine.Proofs.Memory

/-!
# Reading back what was written

A write of a value replaces the bytes of its range and no others, so a read finds new bytes where
it meets the range and old ones elsewhere, however the two overlap. Ranges are taken over the
integers: one that would wrap around is out of bounds.
-/

namespace GuestMachine.Memory

variable {m m' : Memory} {p q : UInt64} {w w' : Width} {v x : UInt64}

/-! ## Outcomes -/

theorem write_eq_accessViolation :
    m.write p w v = .error .accessViolation ↔ p.toNat < m.readonlyBarrier :=
  writeBytes_eq_accessViolation

theorem write_eq_outOfBounds :
    m.write p w v = .error .outOfBounds ↔
      m.readonlyBarrier ≤ p.toNat ∧ m.size < p.toNat + w.bytes := by
  rw [write, writeBytes_eq_outOfBounds, Bytes.length_ofNat]

theorem write_eq_ok :
    m.write p w v = .ok m' ↔ (m.readonlyBarrier ≤ p.toNat ∧ p.toNat + w.bytes ≤ m.size) ∧
      m' = m.patch p.toNat (Bytes.ofNat w.bytes v.toNat) := by
  rw [write, writeBytes_eq_ok, Bytes.length_ofNat]

theorem read_eq_outOfBounds :
    m.read q w = .error .outOfBounds ↔ m.size < q.toNat + w.bytes := by
  rw [read_eq]
  split
  · next fits => exact iff_of_false nofun (by omega)
  · next long => exact iff_of_true rfl (by omega)

theorem read_eq_error_iff {fault : Fault} :
    m.read q w = .error fault ↔ m.readBytes q w.bytes = .error fault := by
  unfold read
  cases m.readBytes q w.bytes with
  | error reason => simp [Except.map]
  | ok bytes => exact iff_of_false nofun nofun

/-- Reading a value is reading its bytes, and no byte string of a width is too large for a word. -/
theorem read_eq_ok_iff :
    m.read q w = .ok x ↔
      ∃ bytes, m.readBytes q w.bytes = .ok bytes ∧ x.toNat = Bytes.value bytes := by
  cases given : m.readBytes q w.bytes with
  | error fault => simp [read, given, Except.map]
  | ok bytes =>
    have short : bytes.length ≤ 8 := by
      unfold readBytes at given
      split at given
      · obtain rfl := Except.ok.inj given
        rw [length_slice]
        exact Nat.le_trans (Nat.min_le_left _ _) w.bytes_le
      · cases given
    have spelled := Bytes.toNat_toWord short
    simp only [read, given, Except.map, Except.ok.injEq, exists_eq_left', ← spelled,
      UInt64.toNat_inj, eq_comm]

/-- A value that is read is spelled by the bytes at its address. -/
theorem digit_of_read (given : m.read q w = .ok x) :
    x.toNat < w.range ∧ ∀ i < w.bytes, m.bytes[q.toNat + i]? = some (Bytes.digit x.toNat i) := by
  rw [read_eq] at given
  split at given
  · next fits =>
    obtain rfl := Except.ok.inj given
    have length : (m.slice q.toNat w.bytes).length = w.bytes := by
      rw [length_slice]
      omega
    have spelled : (Bytes.toWord (m.slice q.toNat w.bytes)).toNat =
        (m.slice q.toNat w.bytes).value :=
      Bytes.toNat_toWord (Nat.le_trans (Nat.le_of_eq length) w.bytes_le)
    rw [spelled]
    constructor
    · have bound := (m.slice q.toNat w.bytes).value_lt
      rwa [length, ← w.range_eq_pow] at bound
    · intro i inside
      rw [← Bytes.getElem?_eq_digit (by rwa [length]), getElem?_slice, if_pos inside]
  · cases given

/-! ## Memory after a write -/

/-- `m'` is `m` with the low bytes of `v` from `p` on. -/
structure Stored (m : Memory) (p : UInt64) (w : Width) (v : UInt64) (m' : Memory) : Prop where
  size : m'.size = m.size
  exeBarrier : m'.exeBarrier = m.exeBarrier
  readonlyBarrier : m'.readonlyBarrier = m.readonlyBarrier
  stackBarrier : m'.stackBarrier = m.stackBarrier
  bytes : ∀ r, m'.bytes[r]? =
    if p.toNat ≤ r ∧ r < p.toNat + w.bytes then some (Bytes.digit v.toNat (r - p.toNat))
    else m.bytes[r]?

theorem stored_of_write (written : m.write p w v = .ok m') : m.Stored p w v m' := by
  obtain ⟨⟨-, fits⟩, rfl⟩ := write_eq_ok.mp written
  refine ⟨size_patch _ _ _, rfl, rfl, rfl, fun r => ?_⟩
  unfold size at fits
  rw [patch, getElem?_overlay, Bytes.length_ofNat, Bytes.getElem?_ofNat]
  by_cases inside : p.toNat ≤ r ∧ r < p.toNat + w.bytes
  · rw [if_pos inside, if_pos (by omega), if_pos (by omega)]
  · rw [if_neg inside, if_neg (by omega)]

namespace Stored

theorem read_self (stored : m.Stored p w v m') : m'.read p w = .ok (w.truncate v) := by
  apply Holds.read_sized
  intro i inside
  rw [Bytes.length_ofNat] at inside
  rw [stored.bytes, if_pos (by omega), Nat.add_sub_cancel_left, Bytes.getElem?_ofNat,
    if_pos inside]

/-- A read that does not meet the range of a write is not changed by it. -/
theorem read_of_apart (stored : m.Stored p w v m')
    (apart : q.toNat + w'.bytes ≤ p.toNat ∨ p.toNat + w.bytes ≤ q.toNat) :
    m'.read q w' = m.read q w' := by
  refine read_congr stored.size fun i from_ upto => ?_
  rw [stored.bytes, if_neg (by omega)]

theorem read_eq_outOfBounds_iff (stored : m.Stored p w v m') :
    m'.read q w' = .error .outOfBounds ↔ m.read q w' = .error .outOfBounds := by
  rw [read_eq_outOfBounds, read_eq_outOfBounds, stored.size]

/-- Byte by byte, a read finds what was written where it meets the range and what was there before
everywhere else. -/
theorem read_mixed (stored : m.Stored p w v m') {old : UInt64} (before : m.read q w' = .ok old) :
    ∃ new, m'.read q w' = .ok new ∧ new.toNat < w'.range ∧ ∀ i < w'.bytes,
      Bytes.digit new.toNat i =
        if p.toNat ≤ q.toNat + i ∧ q.toNat + i < p.toNat + w.bytes then
          Bytes.digit v.toNat (q.toNat + i - p.toNat)
        else Bytes.digit old.toNat i := by
  cases after : m'.read q w' with
  | error fault =>
    rw [read_eq] at before after
    rw [stored.size] at after
    split at before
    · next fits =>
      rw [if_pos fits] at after
      cases after
    · cases before
  | ok new =>
    obtain ⟨small, digits⟩ := digit_of_read after
    refine ⟨new, rfl, small, fun i inside => ?_⟩
    have found := digits i inside
    rw [stored.bytes] at found
    split at found
    · next met =>
      rw [if_pos met]
      exact (Option.some.inj found).symm
    · next apart =>
      rw [if_neg apart]
      rw [(digit_of_read before).2 i inside] at found
      exact (Option.some.inj found).symm

end Stored

/-- A write is an access violation below the read-only barrier, out of bounds if its range passes
the end of memory, and succeeds otherwise; the guest's own write is this one, and leaves the core as
it was if it fails. It writes what the first bytes of the word would write as a byte string, and a
read gives the number that a read of the bytes spells. A write that succeeds leaves size and
barriers alone and replaces the bytes of its range and no others. So a read faults after it if and
only if it did before; at the same place it gives the value cut off at its width; apart from the
range it gives what it gave before; and in general each of its bytes is the one written or the one
there before, according to whether it lies in the range. -/
theorem read_write_exact (m : Memory) (p : UInt64) (w : Width) (v : UInt64) :
    (m.write p w v = .error .accessViolation ↔ p.toNat < m.readonlyBarrier) ∧
    (m.write p w v = .error .outOfBounds ↔
      m.readonlyBarrier ≤ p.toNat ∧ m.size < p.toNat + w.bytes) ∧
    ((∃ m', m.write p w v = .ok m') ↔
      m.readonlyBarrier ≤ p.toNat ∧ p.toNat + w.bytes ≤ m.size) ∧
    (∀ c : Core, c.memory = m → (Exec.writeMemory p w v).run c =
      match m.write p w v with
      | .ok m' => (.ok (), { c with memory := m' })
      | .error fault => (.error fault, c)) ∧
    m.write p w v = m.writeBytes p ((Bytes.ofWord v).take w.bytes) ∧
    (∀ (q : UInt64) (w' : Width),
      (m.read q w' = .error .outOfBounds ↔ m.size < q.toNat + w'.bytes) ∧
      (∀ fault, m.read q w' = .error fault ↔ m.readBytes q w'.bytes = .error fault) ∧
      ∀ x, m.read q w' = .ok x ↔
        ∃ bytes, m.readBytes q w'.bytes = .ok bytes ∧ x.toNat = Bytes.value bytes) ∧
    ∀ m', m.write p w v = .ok m' →
      m.Stored p w v m' ∧
      (∃ x, m'.read p w = .ok x ∧ x.toNat = v.toNat % 2 ^ (8 * w.bytes)) ∧
      ∀ (q : UInt64) (w' : Width),
        (m'.read q w' = .error .outOfBounds ↔ m.read q w' = .error .outOfBounds) ∧
        (q.toNat + w'.bytes ≤ p.toNat ∨ p.toNat + w.bytes ≤ q.toNat →
          m'.read q w' = m.read q w') ∧
        ∀ old, m.read q w' = .ok old →
          ∃ new, m'.read q w' = .ok new ∧ new.toNat < 2 ^ (8 * w'.bytes) ∧
            ∀ i < w'.bytes, Bytes.digit new.toNat i =
              if p.toNat ≤ q.toNat + i ∧ q.toNat + i < p.toNat + w.bytes then
                Bytes.digit v.toNat (q.toNat + i - p.toNat)
              else Bytes.digit old.toNat i := by
  refine ⟨write_eq_accessViolation, write_eq_outOfBounds, ?_, ?_, ?_, ?_, ?_⟩
  · constructor
    · rintro ⟨m', written⟩
      exact (write_eq_ok.mp written).1
    · exact fun fits => ⟨_, write_eq_ok.mpr ⟨fits, rfl⟩⟩
  · rintro c rfl
    exact Exec.run_writeMemory p w v c
  · rw [write, Bytes.ofWord, Bytes.take_ofNat w.bytes_le]
  · exact fun q w' => ⟨read_eq_outOfBounds, fun fault => read_eq_error_iff, fun x => read_eq_ok_iff⟩
  · intro m' written
    have stored := stored_of_write written
    refine ⟨stored, ⟨_, stored.read_self, Width.toNat_truncate w v⟩, fun q w' => ?_⟩
    exact ⟨stored.read_eq_outOfBounds_iff, stored.read_of_apart, fun old => stored.read_mixed⟩

/-- Twelve bytes, all of them `0xEE`, of which the first two are read-only. -/
def filled : Memory := ⟨.replicate 12 0xEE, 0, 2, 12⟩

/-- The upper half of a read lies on the lower half of what was written two bytes behind it. -/
theorem read_write_exact_filled :
    ∃ m' new, filled.write 6 .dword 0x44332211 = .ok m' ∧
      filled.read 4 .dword = .ok 0xEEEEEEEE ∧ m'.read 4 .dword = .ok new ∧
      m'.read 6 .dword = .ok 0x44332211 ∧ m'.read 10 .word = filled.read 10 .word ∧
      (List.range 4).map (Bytes.digit new.toNat) = [0xEE, 0xEE, 0x11, 0x22] := by
  obtain ⟨-, -, succeeds, -, -, -, later⟩ := read_write_exact filled 6 .dword 0x44332211
  obtain ⟨m', written⟩ := succeeds.mpr (by decide)
  obtain ⟨-, ⟨same, read, value⟩, overlaps⟩ := later m' written
  obtain rfl : same = 0x44332211 := UInt64.toNat_inj.mp value
  have before : filled.read 4 .dword = .ok 0xEEEEEEEE := by rfl
  obtain ⟨new, after, -, digits⟩ := (overlaps 4 .dword).2.2 _ before
  refine ⟨m', new, written, before, after, read, (overlaps 10 .word).2.1 (by decide), ?_⟩
  have zero := digits 0 (by decide)
  have one := digits 1 (by decide)
  have two := digits 2 (by decide)
  have three := digits 3 (by decide)
  simp only [List.range, List.range.loop, List.map, zero, one, two, three]
  decide

end GuestMachine.Memory
