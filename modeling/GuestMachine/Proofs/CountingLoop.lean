import GuestMachine.Proofs.Comparison
import GuestMachine.Proofs.Operands

/-!
# Counting loops

A counting loop that jumps to itself does nothing but count down: it runs as many times as the view
of its counter says, and over the whole range of the view if that is zero to begin with. Only the
counter changes on the way, and above the view it changes as any register does that is written
through a view.
-/

namespace GuestMachine

/-! ## The bytes of a loop -/

/-- The bytes of a counting loop whose target is an immediate. -/
structure LoopCode where
  /-- The byte `[.... ss kk]`: the width of the counter and the kind of the loop. -/
  settings : UInt8
  /-- The operand byte of the target. -/
  operand : UInt8
  /-- The byte in front of the immediate. -/
  form : UInt8
  /-- The body of the immediate. -/
  body : Bytes

namespace LoopCode

variable (code : LoopCode)

def bytes : Bytes :=
  Opcode.loopCc.toByte :: code.settings :: code.operand :: code.form :: code.body

/-- The width of the view of the counter. -/
def counter : Width := Width.ofCode (code.settings >>> 2)

/-- The width of the target. -/
def width : Width := (OperandForm.ofByte code.operand).width

/-- The immediate, widened to a word. -/
def immediate : UInt64 :=
  (ImmediateForm.ofByte code.form).widen (Bytes.toWord code.body)

/-- The bytes are those of a loop that goes on as long as its count lasts, and its target is an
immediate indeed. Neither counter nor target is one byte wide. -/
structure Legal : Prop where
  kind : code.settings &&& 3 = 0
  counter : code.counter ≠ .byte
  width : code.width ≠ .byte
  mode : (OperandForm.ofByte code.operand).mode = 1
  body : code.body.length = (ImmediateForm.ofByte code.form).width.bytes

/-- The operation that the bytes stand for. -/
def operation : Operation := .loopCc .always code.counter code.width (.immediate code.immediate)

variable {code}

theorem Legal.length_le (legal : code.Legal) : code.bytes.length ≤ 12 := by
  have small := (ImmediateForm.ofByte code.form).width.bytes_le
  rw [← legal.body] at small
  simp only [bytes, List.length_cons]
  omega

theorem Legal.run_target (legal : code.Legal) (rest : Bytes) :
    Fetch.target.run (code.operand :: code.form :: (code.body ++ rest)) =
      (.ok (code.width, .immediate code.immediate), rest) := by
  have taken : Fetch.byte.run (code.operand :: code.form :: (code.body ++ rest)) =
      (.ok code.operand, code.form :: (code.body ++ rest)) := rfl
  have long : Fetch.immediateLength (code.form :: (code.body ++ rest)) ≤
      (code.form :: (code.body ++ rest)).length := by
    simp only [Fetch.immediateLength, List.headD_cons, List.length_cons, List.length_append,
      legal.body]
    omega
  have read := Fetch.reads_immediate.ok long
  have value : Fetch.immediateAt (code.form :: (code.body ++ rest)) = code.immediate := by
    simp only [Fetch.immediateAt, Fetch.immediateBody, List.headD_cons, List.drop_succ_cons,
      List.drop_zero, ← legal.body, List.take_left]
    rfl
  have left : (code.form :: (code.body ++ rest)).drop
      (Fetch.immediateLength (code.form :: (code.body ++ rest))) = rest := by
    simp only [Fetch.immediateLength, List.headD_cons, ← legal.body]
    rw [Nat.add_comm, List.drop_succ_cons, List.drop_left]
  have wide : ¬(OperandForm.ofByte code.operand).width = .byte := legal.width
  rw [value, left] at read
  unfold Fetch.target
  rw [Faulting.run_bind_ok taken]
  dsimp only
  rw [if_neg wide, legal.mode]
  exact Faulting.run_bind_ok read

/-- The bytes are read as the operation, whatever follows them. -/
theorem Legal.decode (legal : code.Legal) (rest : Bytes) :
    Instruction.decode (code.bytes ++ rest) =
      ⟨code.bytes.length, .ok (.operation code.operation)⟩ := by
  have taken : Fetch.byte.run (code.settings :: code.operand :: code.form :: (code.body ++ rest)) =
      (.ok code.settings, code.operand :: code.form :: (code.body ++ rest)) := rfl
  have named := Faulting.run_orFault Fault.undefinedBehavior
    (LoopKind.ofByte? (code.settings &&& 3)) (code.operand :: code.form :: (code.body ++ rest))
  have known : LoopKind.ofByte? (code.settings &&& 3) = some .always := by
    rw [legal.kind]
    rfl
  rw [known] at named
  have wide : ¬Width.ofCode (code.settings >>> 2) = .byte := legal.counter
  have looped : Fetch.countingLoop.run
      (code.settings :: code.operand :: code.form :: (code.body ++ rest)) =
      (.ok code.operation, rest) := by
    unfold Fetch.countingLoop
    rw [Faulting.run_bind_ok taken]
    dsimp only
    rw [if_neg wide, known, Faulting.run_bind_ok named,
      Faulting.run_bind_ok (legal.run_target rest)]
    rfl
  have read : Fetch.instruction.run (code.bytes ++ rest) =
      (.ok (.operation code.operation), rest) := by
    show Fetch.instruction.run (Opcode.loopCc.toByte :: _) = _
    rw [Fetch.run_instruction_cons]
    exact Faulting.run_bind_ok looped
  unfold Instruction.decode
  rw [read]
  simp

end LoopCode

/-! ## Counting down -/

section Counter

variable {w : Width} {a b c : UInt64} {k : Nat}

/-- How often a loop runs with a counter of this value. -/
def loopCount (w : Width) (counter : UInt64) : Nat :=
  if w.unsigned counter = 0 then w.range else w.unsigned counter

/-- The counter after one round. -/
def countDown (w : Width) (counter : UInt64) : UInt64 :=
  Registers.merge w counter (w.truncate (counter - 1))

/-- A loop runs once more than what is left after its first round. -/
theorem loopCount_eq (w : Width) (a : UInt64) : loopCount w a = w.unsigned (a - 1) + 1 := by
  have one := w.unsigned_one
  unfold loopCount
  rcases w.unsigned_sub_cases a 1 with ⟨_, _⟩ | ⟨_, _⟩
  · rw [if_neg (by omega)]
    omega
  · rw [if_pos (by omega)]
    omega

theorem loopCount_pos (w : Width) (a : UInt64) : 0 < loopCount w a := by
  rw [loopCount_eq]
  exact Nat.succ_pos _

theorem unsigned_countDown (w : Width) (a : UInt64) :
    w.unsigned (countDown w a) = w.unsigned (a - 1) := by
  have low := Registers.toNat_merge_mod w a (w.truncate (a - 1))
  rwa [Width.unsigned_truncate] at low

theorem loopCount_countDown (left : w.unsigned (a - 1) ≠ 0) :
    loopCount w (countDown w a) = w.unsigned (a - 1) := by
  rw [loopCount, unsigned_countDown, if_neg left]

/-- `b` is what becomes of the counter `a` in `k` rounds: its view has been counted down, over zero
if need be, and what lies above a narrow view is still there. -/
structure Counted (w : Width) (k : Nat) (a b : UInt64) : Prop where
  low : (w.unsigned b : Int) = (w.unsigned a - k) % w.range
  high : b.toNat / w.range = if k = 0 ∨ w.bytes ≤ 2 then a.toNat / w.range else 0

namespace Counted

theorem refl (w : Width) (a : UInt64) : Counted w 0 a a := by
  refine ⟨?_, (if_pos (.inl rfl)).symm⟩
  rw [Int.natCast_zero, Int.sub_zero, w.unsigned_emod]

theorem single (w : Width) (a : UInt64) : Counted w 1 a (countDown w a) := by
  constructor
  · rw [unsigned_countDown, w.unsigned_sub, w.unsigned_one]
  · rw [countDown, Registers.toNat_merge_div]
    simp

theorem countDown (h : Counted w k (countDown w a) b) : Counted w (k + 1) a b := by
  constructor
  · have low := h.low
    rw [unsigned_countDown, w.unsigned_sub, w.unsigned_one, Int.emod_sub_emod] at low
    rw [low]
    congr 1
    omega
  · have high := h.high
    rw [(single w a).high] at high
    by_cases narrow : w.bytes ≤ 2
    · rw [if_pos (.inr narrow), if_pos (.inr narrow)] at high
      rwa [if_pos (.inr narrow)]
    · have wide : ¬(1 = 0 ∨ w.bytes ≤ 2) := by omega
      rw [if_neg wide, ite_self] at high
      rwa [if_neg (by omega)]

/-- What is left of the count, as long as it lasts. -/
theorem unsigned_eq (h : Counted w k a b) (le : k ≤ loopCount w a) :
    w.unsigned b = (loopCount w a - k) % w.range := by
  have count : ((loopCount w a - k : Nat) : Int) % w.range = (w.unsigned a - k) % w.range := by
    rw [Int.ofNat_sub le, loopCount]
    split
    · next zero =>
      rw [zero, Int.natCast_zero, ← Int.add_emod_left (b := (0 : Int) - k)]
      congr 1
      omega
    · rfl
  apply Int.ofNat_inj.mp
  rw [h.low, ← count, Int.natCast_emod]

end Counted

end Counter

namespace Machine

variable {table : SyscallTable} {m : Machine} {code : LoopCode}

/-- The process is about to run a counting loop, all of it in the text, whose target is the loop
itself. -/
structure LoopsOnItself (m : Machine) (code : LoopCode) : Prop where
  running : m.status = .running
  legal : code.Legal
  stored : m.core.memory.Holds m.core.rip.toNat code.bytes
  inText : m.core.rip.toNat + code.bytes.length ≤ m.core.memory.exeBarrier
  target : code.width.truncate code.immediate = m.core.rip

/-- The machine with another counter and another instruction pointer. -/
def counting (counter rip : UInt64) (m : Machine) : Machine :=
  { m with core := { m.core with registers := m.core.registers.set .rcx counter, rip := rip } }

theorem counting_self (m : Machine) : m.counting (m.core.registers.get .rcx) m.core.rip = m := by
  unfold counting
  rw [Registers.set_get]

theorem counting_counting (m : Machine) (a b rip rip' : UInt64) :
    (m.counting a rip).counting b rip' = m.counting b rip' := by
  unfold counting
  dsimp only
  rw [Registers.set_set]

theorem rcx_counting (m : Machine) (counter rip : UInt64) :
    (m.counting counter rip).core.registers.get .rcx = counter := Registers.get_set_self _ _ _

/-- A counting loop whose target can be read completes. It counts down in any case, and jumps if it
goes on. -/
theorem tick_loopCc {kind : LoopKind} {counter w : Width} {target : Source} {address : UInt64}
    (running : m.status = .running) (executes : m.Executes (.loopCc kind counter w target))
    (read : target.value w m.core = .ok address) :
    m.tick table = (true, m.counting (countDown counter (m.core.registers.get .rcx))
      (if kind.taken (counter.truncate (m.core.registers.get .rcx - 1))
          (m.core.flags.get Flags.zero) then address
        else m.fetched.core.rip)) := by
  have flags : m.fetched.core.flags = m.core.flags := rfl
  have registers : m.fetched.core.registers = m.core.registers := rfl
  apply tick_of_step_ok running
  rw [run_step_of_executes executes, run_onCore, Exec.run_loopCc, source_fetched, read, flags,
    registers]
  cases kind.taken (counter.truncate (m.core.registers.get .rcx - 1))
    (m.core.flags.get Flags.zero) <;> rfl

namespace LoopsOnItself

theorem counting (h : m.LoopsOnItself code) (counter : UInt64) :
    (m.counting counter m.core.rip).LoopsOnItself code :=
  ⟨h.running, h.legal, h.stored, h.inText, h.target⟩

theorem decode_window (h : m.LoopsOnItself code) :
    Instruction.decode m.window =
      ⟨code.bytes.length, .ok (.operation code.operation)⟩ := by
  have short : code.bytes.length ≤ Instruction.maxLength :=
    Nat.le_trans h.legal.length_le (by decide)
  have front : m.window.take code.bytes.length = code.bytes := by
    rw [window, Memory.take_slice _ _ short, h.stored.slice]
  rw [← List.take_append_drop code.bytes.length m.window, front]
  exact h.legal.decode _

/-- One round counts down and jumps back, unless nothing is left of the count. -/
theorem tick_eq (table : SyscallTable) (h : m.LoopsOnItself code) :
    m.tick table = (true, m.counting (countDown code.counter (m.core.registers.get .rcx))
      (if code.counter.unsigned (m.core.registers.get .rcx - 1) = 0 then
        m.core.rip + UInt64.ofNat code.bytes.length
      else m.core.rip)) := by
  have positive : 0 < code.bytes.length := Nat.succ_pos _
  have decoded := h.decode_window
  have executes : m.Executes code.operation := by
    refine ⟨?_, by rw [decoded]⟩
    have := h.inText
    omega
  have fetched : m.fetched = { m with core := m.core.past code.bytes.length } := by
    rw [Machine.fetched, decoded]
  have address : (Source.immediate code.immediate).value code.width m.core = .ok m.core.rip :=
    congrArg Except.ok h.target
  rw [tick_loopCc h.running executes address, fetched]
  by_cases last : code.counter.unsigned (m.core.registers.get .rcx - 1) = 0
  · rw [if_pos last, if_neg (by simp [LoopKind.taken, Width.truncate_eq_zero_iff.mpr last])]
    rfl
  · rw [if_neg last, if_pos (by simp [LoopKind.taken, Width.truncate_eq_zero_iff, last])]

/-- After any number of rounds that the count allows for, the process is at the loop again, or
behind it if the count is used up. Only the counter has changed. -/
theorem runFrom_eq (table : SyscallTable) (h : m.LoopsOnItself code) (k count : Nat)
    (le : k ≤ loopCount code.counter (m.core.registers.get .rcx)) :
    ∃ counter,
      m.runFrom table k count = (count + k, m.counting counter
        (if k < loopCount code.counter (m.core.registers.get .rcx) then m.core.rip
          else m.core.rip + UInt64.ofNat code.bytes.length)) ∧
      Counted code.counter k (m.core.registers.get .rcx) counter := by
  -- By induction on the rounds, over all machines that stand at the loop: the first round leaves
  -- such a machine unless it is the last.
  induction k generalizing m count with
  | zero =>
    refine ⟨m.core.registers.get .rcx, ?_, .refl _ _⟩
    rw [if_pos (loopCount_pos _ _), counting_self]
    rfl
  | succ k ih =>
    have first := h.tick_eq table
    have length := loopCount_eq code.counter (m.core.registers.get .rcx)
    by_cases last : code.counter.unsigned (m.core.registers.get .rcx - 1) = 0
    · obtain rfl : k = 0 := by omega
      rw [if_pos last] at first
      refine ⟨_, ?_, .single _ _⟩
      rw [runFrom, first, if_neg (by omega)]
      rfl
    · rw [if_neg last] at first
      have rest := loopCount_countDown last
      obtain ⟨counter, ran, counted⟩ := ih (h.counting _) (count + 1) (by
        rw [rcx_counting, rest]
        omega)
      rw [rcx_counting] at ran counted
      refine ⟨counter, ?_, counted.countDown⟩
      rw [runFrom, first]
      dsimp only
      rw [ran, rest, counting_counting, length]
      simp only [Nat.add_lt_add_iff_right, Nat.add_assoc, Nat.add_comm 1 k]
      rfl

/-- Within an address space of 64 bits the loop does not wrap around. -/
theorem toNat_behind (h : m.LoopsOnItself code) (small : m.core.memory.size < UInt64.size) :
    (m.core.rip + UInt64.ofNat code.bytes.length).toNat =
      m.core.rip.toNat + code.bytes.length := by
  refine Core.toNat_rip_past (c := m.core) ?_ small
  have length := congrArg List.length h.stored.slice
  rw [Memory.length_slice] at length
  omega

end LoopsOnItself

/-- A loop that jumps to itself runs as often as the view of its counter says, and through the whole
range of the view if the counter is zero. Every tick on the way completes, and until the count is
used up each of them leads back to the loop; the last one leads behind it, with the view of the
counter at zero. The part of the counter above a view of 16 bits stays as it was, and that above a
view of 32 bits is cleared. Nothing else of the machine changes at any point. -/
theorem loop_runs_its_count (table : SyscallTable) (h : m.LoopsOnItself code) :
    let w := code.counter
    let rcx := m.core.registers.get .rcx
    let n := if w.unsigned rcx = 0 then 2 ^ w.bits else w.unsigned rcx
    let next := m.core.rip + UInt64.ofNat code.bytes.length
    (m.core.memory.size < UInt64.size →
      next.toNat = m.core.rip.toNat + code.bytes.length) ∧
    ∀ k ≤ n, ∃ counter,
      m.run table k = (k, { m with core := { m.core with
        registers := m.core.registers.set .rcx counter
        rip := if k < n then m.core.rip else next } }) ∧
      w.unsigned counter = (n - k) % 2 ^ w.bits ∧
      (w = .word → counter.toNat / 2 ^ 16 = rcx.toNat / 2 ^ 16) ∧
      (w = .dword → 0 < k → counter.toNat / 2 ^ 32 = 0) := by
  intro w rcx n next
  refine ⟨h.toNat_behind, fun k le => ?_⟩
  obtain ⟨counter, ran, counted⟩ := h.runFrom_eq table k 0 le
  rw [Nat.zero_add] at ran
  refine ⟨counter, ran, counted.unsigned_eq le, fun word => ?_, fun dword started => ?_⟩
  · have high := counted.high
    rw [show code.counter = .word from word, if_pos (.inr (by decide))] at high
    exact high
  · have high := counted.high
    have wide : ¬(k = 0 ∨ Width.dword.bytes ≤ 2) := by
      have : ¬Width.dword.bytes ≤ 2 := by decide
      omega
    rw [show code.counter = .dword from dword, if_neg wide] at high
    exact high

/-- A machine at a loop over the low 16 bits of RCX, which are all zero while others are not. -/
def spinning : Machine :=
  let m := protecting [Opcode.loopCc.toByte, 0x04, 0x05, 0x00, 0x00]
  { m with core := { m.core with registers := m.core.registers.set .rcx 0xABCD0000 } }

/-- The loop runs through the whole range of its counter. -/
theorem loop_runs_its_count_spinning :
    ∃ counter, spinning.run SyscallTable.standard 65536 = (65536, { spinning with
        core := { spinning.core with
          registers := spinning.core.registers.set .rcx counter
          rip := 5 } }) ∧
      counter.toNat % 65536 = 0 ∧ counter.toNat / 65536 = 0xABCD := by
  have loops : spinning.LoopsOnItself ⟨0x04, 0x05, 0x00, [0x00]⟩ := {
    running := rfl
    legal := ⟨rfl, by decide, by decide, rfl, rfl⟩
    stored := by
      unfold Memory.Holds
      decide
    inText := by decide
    target := rfl }
  obtain ⟨-, runs⟩ := loop_runs_its_count SyscallTable.standard loops
  obtain ⟨counter, ran, low, high, -⟩ := runs 65536 (by decide)
  exact ⟨counter, ran, low, high rfl⟩

end Machine

end GuestMachine
