import GuestMachine.Proofs.Confinement
import GuestMachine.Proofs.Instruction.Reading

/-!
# Where instruction bytes come from

The executable barrier is compared with the instruction pointer before an instruction is read, and
with nothing while it is read. So every instruction begins in the text segment of the image, and
comes from there as far as the text goes; one that begins in the last thirteen bytes of the text
may take its operands from whatever lies behind.
-/

namespace GuestMachine

/-- The bytes from an address of the text on: what is left of the text, and then what lies behind
the barrier. -/
theorem Memory.Carries.slice_text {m : Memory} {e : Image} {reserve : Nat}
    (h : m.Carries e reserve) {start : Nat} (below : start < m.exeBarrier) (len : Nat) :
    m.slice start len =
      (e.text.drop start).take len ++ m.slice m.exeBarrier (start + len - m.exeBarrier) := by
  have barrier := h.exeBarrier
  have length : ((e.text.drop start).take len).length = min len (m.exeBarrier - start) := by
    rw [List.length_take, List.length_drop, barrier]
  apply List.ext_getElem?
  intro i
  rw [getElem?_slice, List.getElem?_append, length, getElem?_slice, List.getElem?_take,
    List.getElem?_drop]
  by_cases inside : i < len
  · by_cases text : start + i < m.exeBarrier
    · obtain ⟨opcode, stored, fetched⟩ := h.fetch text
      rw [if_pos inside, if_pos (by omega), if_pos inside, stored, fetched]
    · have place : m.exeBarrier + (i - min len (m.exeBarrier - start)) = start + i := by omega
      rw [if_pos inside, if_neg (by omega), if_pos (by omega), place]
  · rw [if_neg inside, if_neg (by omega), if_neg (by omega)]

namespace Machine

/-- A tick that completes has read an instruction from memory and executed it. -/
theorem exists_spells_of_tick {table : SyscallTable} {m m' : Machine}
    (h : m.tick table = (true, m')) :
    ∃ taken i, Instruction.Spells taken i ∧
      m.core.memory.slice m.core.rip.toNat taken.length = taken ∧
      (proceed table ⟨taken.length, .ok i⟩).run m = (.ok (), m') := by
  obtain ⟨-, below, stepped⟩ := tick_eq_true h
  rw [run_step_of_below below] at stepped
  cases result : (Instruction.decode m.window).result with
  | error fault =>
    unfold proceed at stepped
    rw [result] at stepped
    cases stepped
  | ok i =>
    obtain ⟨taken, rest, split, length, spells⟩ := Instruction.exists_spells result
    have decoded : Instruction.decode m.window = ⟨taken.length, .ok i⟩ := by
      rw [← length, ← result]
    rw [decoded] at stepped
    refine ⟨taken, i, spells, ?_, stepped⟩
    rw [← Memory.take_slice _ _ spells.le, ← window, split, List.take_left]

/-- Over every history of a process, a tick that completes has taken one to fourteen bytes from
memory at the instruction pointer, which spell the instruction it executes whatever follows them.
The first is a byte of the text segment, and so are all that the text segment still holds; the
others lie at or above the executable barrier, and there are at most thirteen. So all of them come
from below the barrier if and only if the instruction ends there. -/
theorem fetched_from_text {noise : UInt64 → (size : Nat) → Noise size} {m₀ m next : Machine}
    {e : Image} {args : List String} {reserve : UInt64}
    (booted : m₀.bootWith noise e args reserve = .ok m) (actions : List Action)
    (completed : (m.performAll actions).tick SyscallTable.standard = (true, next)) :
    let now := m.performAll actions
    let rip := now.core.rip.toNat
    let barrier := now.core.memory.exeBarrier
    ∃ taken i, Instruction.Spells taken i ∧
      now.core.memory.slice rip taken.length = taken ∧
      (proceed SyscallTable.standard ⟨taken.length, .ok i⟩).run now = (.ok (), next) ∧
      (rip < barrier ∧ taken.head? = e.text[rip]?) ∧
      taken = (e.text.drop rip).take taken.length ++
        now.core.memory.slice barrier (rip + taken.length - barrier) ∧
      rip + taken.length ≤ barrier + 13 ∧
      ((∀ k < taken.length, rip + k < barrier) ↔ rip + taken.length ≤ barrier) := by
  intro now rip barrier
  have carries : now.core.memory.Carries e reserve.toNat :=
    (carries_boot booted).of_sealed (sealed_performAll actions m)
  have below : rip < barrier := (tick_eq_true completed).2.1
  obtain ⟨taken, i, spells, stored, executed⟩ := exists_spells_of_tick completed
  have parts := carries.slice_text below taken.length
  have pos := spells.pos
  have short : taken.length ≤ 14 := spells.le
  refine ⟨taken, i, spells, stored, executed, ⟨below, ?_⟩, ?_, by omega, ?_⟩
  · obtain ⟨opcode, text, fetched⟩ := carries.fetch below
    rw [List.head?_eq_getElem?, ← stored, Memory.getElem?_slice, if_pos pos, Nat.add_zero, fetched]
    exact text.symm
  · rw [← parts]
    exact stored.symm
  · constructor
    · intro all
      have last := all (taken.length - 1) (by omega)
      omega
    · intro ends k inside
      omega

/-- A program of one byte, the opcode of a flag instruction, in front of one byte of data. -/
def unfinished : Image := { text := [Opcode.flagOp.toByte], data := [0x01] }

theorem fetched_from_text_unfinished :
    ∃ m next, (new {} {}).boot unfinished [] 0 = .ok m ∧
      m.tick SyscallTable.standard = (true, next) ∧
      ∃ taken i, Instruction.Spells taken i ∧
        taken = [Opcode.flagOp.toByte].take taken.length ++
          m.core.memory.slice 1 (taken.length - 1) := by
  have started : ∃ m next, (new {} {}).boot unfinished [] 0 = .ok m ∧
      m.tick SyscallTable.standard = (true, next) ∧ m.core.rip = 0 ∧
      m.core.memory.exeBarrier = 1 := ⟨_, _, rfl, rfl, rfl, rfl⟩
  obtain ⟨m, next, booted, completed, rip, barrier⟩ := started
  obtain ⟨taken, i, spells, -, -, -, parts, -⟩ := fetched_from_text booted [] completed
  refine ⟨m, next, booted, completed, taken, i, spells, ?_⟩
  have start : (m.performAll []).core.rip = 0 := rip
  have behind : (m.performAll []).core.memory.exeBarrier = 1 := barrier
  rw [start, behind] at parts
  simpa [unfinished, performAll] using parts

/-- The only instruction of that program is finished by the byte of data, which may be written. -/
theorem fetched_from_data :
    ∃ m next, (new {} {}).boot unfinished [] 0 = .ok m ∧
      m.tick SyscallTable.standard = (true, next) ∧
      Instruction.decode m.window = ⟨2, .ok (.operation (.flags .setCarry))⟩ ∧
      next.core.rip.toNat = m.core.rip.toNat + 2 ∧
      (¬∀ k < 2, m.core.rip.toNat + k < m.core.memory.exeBarrier) ∧
      m.core.memory.writeFault? 1 1 = none :=
  ⟨_, _, rfl, rfl, rfl, rfl, by decide, rfl⟩

end Machine

end GuestMachine
