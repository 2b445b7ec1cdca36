import GuestMachine.Proofs.Comparison
import GuestMachine.Proofs.Operands

/-!
# Instructions with two operands

A move, the arithmetic and the comparisons share one way to read their operands and one way to write
back. Both views are taken before anything is written, so it does not matter whether the operands,
or the registers of an address, are the same.
-/

namespace GuestMachine

namespace Opcode

/-- The opcodes with two operands of one width. -/
def twoOperand : List Opcode := [mov, add, sub, and, or, xor, cmp, test, imul]

/-- Comparisons leave flags and nothing else. -/
def stores : Opcode → Bool
  | cmp | test => false
  | _ => true

/-- The number that an opcode makes of the views of its destination and its source. A comparison
leaves its destination. The low bits of a product do not depend on how its factors are signed. -/
def combine (op : Opcode) (a b : Nat) : Int :=
  match op with
  | mov => b
  | add => a + b
  | sub => a - b
  | and => (a &&& b : Nat)
  | or => (a ||| b : Nat)
  | xor => (a ^^^ b : Nat)
  | imul => a * b
  | _ => a

end Opcode

def BinaryOp.opcode : BinaryOp → Opcode
  | add => .add
  | sub => .sub
  | and => .and
  | or => .or
  | xor => .xor
  | imul => .imul
  | cmp => .cmp
  | test => .test

theorem BinaryOp.stores_opcode (op : BinaryOp) : op.opcode.stores = op.writesBack := by
  cases op <;> rfl

/-- What is stored is the combination of the operands, cut off at the width. -/
theorem BinaryOp.unsigned_apply {op : BinaryOp} (stores : op.writesBack = true) (f : Flags)
    (w : Width) (a b : UInt64) :
    (w.unsigned (op.apply f w a b).1 : Int) = op.opcode.combine a.toNat b.toNat % w.range := by
  have unsigned : ∀ x : UInt64, (w.unsigned x : Int) ≡ x.toNat [ZMOD w.range] := by
    intro x
    rw [Width.natCast_unsigned]
    exact Int.mod_modEq _ _
  have signed : ∀ x : UInt64, w.signed x ≡ x.toNat [ZMOD w.range] := by
    intro x
    exact (w.signed_emod x).trans (w.natCast_unsigned x)
  have result : ((op.apply f w a b).1.toNat : Int) ≡ op.opcode.combine a.toNat b.toNat
      [ZMOD w.range] := by
    cases op with
    | add =>
      rw [apply, (Flags.reports_add w a b f).result]
      exact (Int.mod_modEq _ _).trans ((unsigned a).add (unsigned b))
    | sub =>
      rw [apply, (Flags.reports_sub w a b f).result]
      exact (Int.mod_modEq _ _).trans ((unsigned a).sub (unsigned b))
    | imul =>
      rw [apply, (Flags.reports_imul w a b f).result]
      exact (Int.mod_modEq _ _).trans ((signed a).mul (signed b))
    | and =>
      rw [apply, (Flags.reports_logic w f (a &&& b)).result]
      exact (Int.mod_modEq _ _).trans (unsigned (a &&& b))
    | or =>
      rw [apply, (Flags.reports_logic w f (a ||| b)).result]
      exact (Int.mod_modEq _ _).trans (unsigned (a ||| b))
    | xor =>
      rw [apply, (Flags.reports_logic w f (a ^^^ b)).result]
      exact (Int.mod_modEq _ _).trans (unsigned (a ^^^ b))
    | cmp => cases stores
    | test => cases stores
  exact (w.natCast_unsigned _).trans result

/-- An opcode with two operands stands for a kind of operation. -/
inductive Opcode.Runs : Opcode → (Width → Place → Source → Operation) → Prop
  | mov : Runs .mov .mov
  | binary (op : BinaryOp) : Runs op.opcode (.binary op)

theorem Fetch.operands_binary (op : BinaryOp) :
    operands op.opcode = (binaryOperation op >>= fun operation => pure (.operation operation)) := by
  cases op <;> rfl

/-- An opcode with two operands reads a pair of them and nothing else. -/
theorem Opcode.exists_runs {op : Opcode} (named : op ∈ twoOperand) :
    ∃ operation, op.Runs operation ∧ ∀ rest, ((Fetch.operands op).run rest).1 =
      (Fetch.binary.run rest).1.map fun parts =>
        .operation (operation parts.1 parts.2.1 parts.2.2) := by
  have computes : ∀ b : BinaryOp, ∀ rest, ((Fetch.operands b.opcode).run rest).1 =
      (Fetch.binary.run rest).1.map fun parts =>
        .operation (.binary b parts.1 parts.2.1 parts.2.2) := by
    intro b rest
    rw [Fetch.operands_binary, Faulting.run_bind_pure, Fetch.binaryOperation,
      Faulting.run_bind_pure]
    cases (Fetch.binary.run rest).1 <;> rfl
  have moves : ∀ rest, ((Fetch.operands .mov).run rest).1 =
      (Fetch.binary.run rest).1.map fun parts => .operation (.mov parts.1 parts.2.1 parts.2.2) := by
    intro rest
    rw [Fetch.operands, Faulting.run_bind_pure]
  simp only [twoOperand, List.mem_cons, List.not_mem_nil, or_false] at named
  rcases named with rfl | rfl | rfl | rfl | rfl | rfl | rfl | rfl | rfl
  · exact ⟨_, .mov, moves⟩
  · exact ⟨_, .binary .add, computes .add⟩
  · exact ⟨_, .binary .sub, computes .sub⟩
  · exact ⟨_, .binary .and, computes .and⟩
  · exact ⟨_, .binary .or, computes .or⟩
  · exact ⟨_, .binary .xor, computes .xor⟩
  · exact ⟨_, .binary .cmp, computes .cmp⟩
  · exact ⟨_, .binary .test, computes .test⟩
  · exact ⟨_, .binary .imul, computes .imul⟩

/-! ## Execution -/

namespace Exec

theorem run_mov (w : Width) (dst : Place) (src : Source) (c : Core) :
    (execute (.mov w dst src)).run c =
      match src.value w c with
      | .error fault => (.error fault, c)
      | .ok value => (store w (dst.locate c.registers) value).run c := by
  have located : (locate dst).run c = (.ok (dst.locate c.registers), c) := rfl
  rw [execute, Faulting.run_bind_ok located, run_source_bind]
  cases src.value w c <;> rfl

variable {o s : Operand} {w : Width} {c c' : Core} {dst : Place} {src : Source} {op : Opcode}
  {operation : Width → Place → Source → Operation}

/-- A store completes exactly if its operand lies in memory and is not protected. -/
theorem store_completes_iff (names : o.Names dst.toSource) (value : UInt64) :
    (∃ c', (store w (dst.locate c.registers) value).run c = (.ok (), c')) ↔
      (o.view w c).isSome ∧ ¬o.Protected c := by
  cases dst with
  | register r =>
    cases names
    exact iff_of_true ⟨_, rfl⟩ ⟨rfl, id⟩
  | memory a =>
    cases names with
    | @memory code _ same =>
      have viewed : ((Operand.memory code).view w c).isSome ↔
          code.target c.registers + w.bytes ≤ c.memory.size := by
        unfold Operand.view
        split <;> simp_all
      have writable : c.memory.writeFault? (a.resolve c.registers) w.bytes = none ↔
          ((Operand.memory code).view w c).isSome ∧ ¬(Operand.memory code).Protected c := by
        rw [Memory.writeFault?_eq_none, same, viewed, Operand.Protected]
        omega
      rw [← writable]
      constructor
      · rintro ⟨c', stored⟩
        exact (run_writeMemory_eq_ok stored).1
      · intro none
        exact ⟨_, run_writeMemory_ok value none⟩

theorem flags_of_store {l : Location} {value : UInt64}
    (stored : (store w l value).run c = (.ok (), c')) : c'.flags = c.flags := by
  cases l with
  | register r =>
    cases stored
    rfl
  | memory address =>
    obtain ⟨-, rfl⟩ := run_writeMemory_eq_ok stored
    rfl

/-- An instruction with two operands completes exactly if both can be read, and its destination can
be written if it is. -/
theorem completes_iff (runs : op.Runs operation) (destination : o.Names dst.toSource)
    (source : s.Names src) :
    (∃ c', (execute (operation w dst src)).run c = (.ok (), c')) ↔
      (o.view w c).isSome ∧ (s.view w c).isSome ∧ (op.stores = true → ¬o.Protected c) := by
  have given := source.view_eq w c
  have loaded := destination.view_eq w c
  rw [Place.value_toSource] at loaded
  cases runs with
  | mov =>
    have stored := store_completes_iff (w := w) (c := c) destination
    rw [run_mov]
    cases read : src.value w c with
    | error fault =>
      rw [read] at given
      simp [given, Except.toOption]
    | ok value =>
      rw [read] at given
      dsimp only
      rw [stored]
      simp [given, Except.toOption, Opcode.stores]
  | binary b =>
    rw [run_binary, b.stores_opcode]
    cases read : src.value w c with
    | error fault =>
      rw [read] at given
      simp [given, Except.toOption]
    | ok y =>
      rw [read] at given
      cases held : dst.value w c with
      | error fault =>
        rw [held] at loaded
        simp [loaded, Except.toOption]
      | ok x =>
        have stored := store_completes_iff (w := w)
          (c := { c with flags := (b.apply c.flags w x y).2 }) destination (b.apply c.flags w x y).1
        rw [held] at loaded
        dsimp only
        cases b.writesBack with
        | true =>
          rw [if_pos rfl, stored, Operand.view_congr rfl rfl]
          simp only [given, Except.toOption, Option.map_some, Option.isSome_some, true_and,
            forall_const]
          exact Iff.rfl
        | false => simp [given, loaded, Except.toOption]

/-- What an instruction with two operands has done once it completes. -/
theorem effect_of_ok (runs : op.Runs operation) (destination : o.Names dst.toSource)
    (source : s.Names src) (done : (execute (operation w dst src)).run c = (.ok (), c')) :
    ∃ a b, o.view w c = some a ∧ s.view w c = some b ∧
      (op.stores = true → o.Written w (op.combine a b % w.range).toNat c c') ∧
      (op.stores = false → c'.registers = c.registers ∧ c'.memory = c.memory) ∧
      (op = .mov → c'.flags = c.flags) := by
  obtain ⟨first, second, -⟩ := (completes_iff runs destination source).mp ⟨c', done⟩
  obtain ⟨a, left⟩ := Option.isSome_iff_exists.mp first
  obtain ⟨b, right⟩ := Option.isSome_iff_exists.mp second
  obtain ⟨x, held, rfl⟩ := destination.exists_value left
  obtain ⟨y, read, rfl⟩ := source.exists_value right
  rw [Place.value_toSource] at held
  refine ⟨x.toNat, y.toNat, left, right, ?_⟩
  cases runs with
  | mov =>
    rw [run_mov, read] at done
    have number : w.unsigned y = ((y.toNat : Int) % w.range).toNat := by
      rw [← Width.natCast_unsigned, Int.toNat_natCast]
    refine ⟨fun _ => ?_, fun idle => absurd idle (by decide), fun _ => flags_of_store done⟩
    rw [Opcode.combine, ← number]
    exact Operand.written_of_store destination done
  | binary op =>
    rw [run_binary, read, held] at done
    dsimp only at done
    rw [op.stores_opcode]
    refine ⟨fun stores => ?_, fun idle => ?_, fun move => ?_⟩
    · rw [if_pos stores] at done
      have written := Operand.written_of_store
        (c := { c with flags := (op.apply c.flags w x y).2 }) destination done
      have number := op.unsigned_apply stores c.flags w x y
      rw [← number, Int.toNat_natCast]
      exact written.congr rfl rfl
    · rw [if_neg (by rw [idle]; exact Bool.false_ne_true)] at done
      cases done
      exact ⟨rfl, rfl⟩
    · cases op <;> cases move

end Exec

namespace Machine

/-- Every instruction with two operands, whatever their forms and their width, leaves the
combination of their views in the view of its destination, cut off at the width, and a comparison
leaves everything but the flags; the views are those before the instruction. It completes exactly if
its bytes are all there and legal, no operand passes the end of memory and its destination, unless
it is a comparison, is not protected. -/
theorem two_operand_effect_exact (table : SyscallTable) (m : Machine) (op : Opcode) (rest : Bytes)
    (named : op ∈ Opcode.twoOperand) (bytes : m.core.ahead = op.toByte :: rest) :
    let p := OperandPair.ofBytes rest
    (∀ m', m.tick table = (true, m') →
      ∃ a b, p.destination.view p.width m.core = some a ∧ p.source.view p.width m.core = some b ∧
        (op.stores = true →
          p.destination.Written p.width (op.combine a b % p.width.range).toNat m.core m'.core) ∧
        (op.stores = false →
          m'.core.registers = m.core.registers ∧ m'.core.memory = m.core.memory) ∧
        (op = .mov → m'.core.flags = m.core.flags)) ∧
    (m.status = .running → m.core.rip.toNat < m.core.memory.exeBarrier →
      ((∃ m', m.tick table = (true, m')) ↔ p.Complete rest.length ∧
        (p.destination.view p.width m.core).isSome ∧ (p.source.view p.width m.core).isSome ∧
        (op.stores = true → ¬p.destination.Protected m.core))) := by
  intro p
  obtain ⟨operation, runs, reads⟩ := Opcode.exists_runs named
  have outcome := OperandPair.outcome_binary rest
  have read := reads rest
  generalize (Fetch.binary.run rest).1 = result at outcome read
  cases outcome with
  | refused incomplete =>
    have never : ∀ m', m.tick table ≠ (true, m') := by
      intro m' completed
      obtain ⟨i, decoded⟩ := operands_of_tick bytes completed
      rw [read] at decoded
      cases decoded
    refine ⟨fun m' completed => absurd completed (never m'), fun _ _ => ?_⟩
    exact iff_of_false (fun ⟨m', completed⟩ => never m' completed) fun held => incomplete held.1
  | @read dst src complete destination source =>
    have decoded : (Instruction.decode m.window).result =
        .ok (.operation (operation p.width dst src)) := (decode_window_iff bytes _).mpr read
    constructor
    · intro m' completed
      have executes : m.Executes (operation p.width dst src) :=
        ⟨(tick_eq_true completed).2.1, decoded⟩
      obtain ⟨executed, -⟩ := executed_of_tick executes completed
      obtain ⟨a, b, left, right, stored, kept, flags⟩ :=
        Exec.effect_of_ok runs destination source executed
      exact ⟨a, b, left, right, fun stores => (stored stores).congr rfl rfl, kept, flags⟩
    · intro running below
      have executes : m.Executes (operation p.width dst src) := ⟨below, decoded⟩
      have completes :=
        Exec.completes_iff (c := m.fetched.core) (w := p.width) runs destination source
      constructor
      · rintro ⟨m', completed⟩
        exact ⟨complete, completes.mp ⟨_, (executed_of_tick executes completed).1⟩⟩
      · rintro ⟨-, able⟩
        obtain ⟨c', executed⟩ := completes.mpr able
        refine ⟨{ m with core := c' }, tick_of_step_ok running ?_⟩
        rw [run_step_of_executes executes, run_onCore, executed]
        rfl

/-- A machine about to subtract the byte at its stack pointer from the low byte of the stack
pointer, which is 4 - 1. -/
def subtracting : Machine := protecting [Opcode.sub.toByte, 0x72, 0x0E, 0x70]

/-- A machine about to test the first byte of its text, which is protected. -/
def testing : Machine := protecting [Opcode.test.toByte, 0x03, 0x0C]

theorem two_operand_effect_exact_subtracting :
    (∃ m', subtracting.tick SyscallTable.standard = (true, m') ∧
      (m'.core.registers.get .rsp).toNat = 3) ∧
    ∃ m', testing.tick SyscallTable.standard = (true, m') ∧
      m'.core.memory = testing.core.memory := by
  obtain ⟨effect, completes⟩ := two_operand_effect_exact SyscallTable.standard subtracting .sub _
    (by decide) rfl
  obtain ⟨tested, allowed⟩ := two_operand_effect_exact SyscallTable.standard testing .test _
    (by decide) rfl
  constructor
  · obtain ⟨m', completed⟩ := (completes rfl (by decide)).mpr
      ⟨⟨by decide, by rintro code (⟨⟨⟩⟩ | ⟨⟨⟩⟩); decide⟩, by decide, by decide, fun _ => id⟩
    obtain ⟨a, b, left, right, written, -, -⟩ := effect m' completed
    obtain rfl : 4 = a := Option.some.inj left
    obtain rfl : 1 = b := Option.some.inj right
    have low : (m'.core.registers.get .rsp).toNat % 256 = 3 := Option.some.inj (written rfl).view
    have high : (m'.core.registers.get .rsp).toNat / 256 = 0 := (written rfl).upper .rsp rfl
    exact ⟨m', completed, by omega⟩
  · obtain ⟨m', completed⟩ := (allowed rfl (by decide)).mpr
      ⟨⟨by decide, by rintro code (⟨⟨⟩⟩ | ⟨⟨⟩⟩); decide⟩, by decide, by decide,
        fun stores => absurd stores (by decide)⟩
    obtain ⟨a, b, -, -, -, kept, -⟩ := tested m' completed
    exact ⟨m', completed, (kept rfl).2⟩

end Machine

end GuestMachine
