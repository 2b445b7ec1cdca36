import GuestMachine.Proofs.Arithmetic
import GuestMachine.Proofs.Core.Operand
import GuestMachine.Proofs.Fallout

/-!
# Comparisons and the jumps behind them

A comparison leaves nothing but flags, and a conditional jump reads nothing but flags. Between them
they decide the order of two numbers, unsigned or signed. The signed order is the delicate one: a
difference that does not fit has the wrong sign, and says so by the overflow flag.
-/

namespace GuestMachine

namespace Condition

/-- The relation between the operands of a comparison that a condition names. -/
def Compares (w : Width) (a b : UInt64) : Condition → Prop
  | equal => w.unsigned a = w.unsigned b
  | notEqual => w.unsigned a ≠ w.unsigned b
  | below => w.unsigned a < w.unsigned b
  | aboveOrEqual => w.unsigned b ≤ w.unsigned a
  | belowOrEqual => w.unsigned a ≤ w.unsigned b
  | above => w.unsigned b < w.unsigned a
  | less => w.signed a < w.signed b
  | greaterOrEqual => w.signed b ≤ w.signed a
  | lessOrEqual => w.signed a ≤ w.signed b
  | greater => w.signed b < w.signed a
  | sign => w.half ≤ ((w.unsigned a : Int) - w.unsigned b) % w.range
  | notSign => ((w.unsigned a : Int) - w.unsigned b) % w.range < w.half
  | overflow => ¬w.Fits (w.signed a - w.signed b)
  | notOverflow => w.Fits (w.signed a - w.signed b)
  | parity => Flags.ones (((w.unsigned a : Int) - w.unsigned b) % w.range).toNat % 2 = 0
  | notParity => Flags.ones (((w.unsigned a : Int) - w.unsigned b) % w.range).toNat % 2 = 1

/-- The other condition of a pair. -/
def negation : Condition → Condition
  | overflow => notOverflow
  | notOverflow => overflow
  | below => aboveOrEqual
  | aboveOrEqual => below
  | equal => notEqual
  | notEqual => equal
  | belowOrEqual => above
  | above => belowOrEqual
  | sign => notSign
  | notSign => sign
  | parity => notParity
  | notParity => parity
  | less => greaterOrEqual
  | greaterOrEqual => less
  | lessOrEqual => greater
  | greater => lessOrEqual

/-- Pairs have consecutive codes, the first of them even. -/
theorem ofByte?_pair (k : Fin 8) :
    ∃ cond, ofByte? (UInt8.ofNat (2 * k)) = some cond ∧
      ofByte? (UInt8.ofNat (2 * k + 1)) = some cond.negation := by
  have first : ∀ k : Fin 8, (ofByte? (UInt8.ofNat (2 * k))).isSome := by decide
  have second : ∀ k : Fin 8, ofByte? (UInt8.ofNat (2 * k + 1)) =
      (ofByte? (UInt8.ofNat (2 * k))).map negation := by decide
  obtain ⟨cond, named⟩ := Option.isSome_iff_exists.mp (first k)
  exact ⟨cond, named, by rw [second, named, Option.map_some]⟩

theorem compares_negation (cond : Condition) (w : Width) (a b : UInt64) :
    cond.negation.Compares w a b ↔ ¬cond.Compares w a b := by
  cases cond <;> simp [negation, Compares]

end Condition

namespace Flags

theorem holds_negation (f : Flags) (cond : Condition) :
    f.holds cond.negation = !f.holds cond := by
  cases cond <;> simp [Condition.negation, holds, bne]

variable (w : Width) (a b : UInt64) (f : Flags)

theorem fst_sub : (f.sub w a b).1 = w.truncate (a - b) := by
  have value := (reports_sub w a b f).result
  rw [← Width.unsigned_sub] at value
  apply UInt64.toNat_inj.mp
  rw [Width.toNat_truncate]
  exact Int.ofNat_inj.mp value

theorem zero_sub_iff : (f.sub w a b).2.get zero = true ↔ w.unsigned a = w.unsigned b := by
  have left := w.unsigned_lt a
  have right := w.unsigned_lt b
  rw [(reports_sub w a b f).zero, fst_sub, ← UInt64.toNat_inj, Width.toNat_truncate,
    UInt64.toNat_zero]
  rcases w.unsigned_sub_cases a b with ⟨_, _⟩ | ⟨_, _⟩ <;> omega

theorem sign_sub : (f.sub w a b).2.get sign = w.isNegative (a - b) := by
  rw [Bool.eq_iff_iff, (reports_sub w a b f).sign, fst_sub, Width.signed_neg_iff,
    Width.isNegative_truncate]

/-- The sign of a difference that does not fit is the wrong one, so sign and overflow together
decide the order of signed operands. -/
theorem sign_ne_overflow_iff :
    (f.sub w a b).2.get sign ≠ (f.sub w a b).2.get overflow ↔ w.signed a < w.signed b := by
  have double := w.range_eq
  have left := w.unsigned_lt a
  have right := w.unsigned_lt b
  have overflow := (reports_sub w a b f).overflow
  unfold Width.Fits at overflow
  rw [sign_sub, ne_eq, Bool.eq_iff_iff, overflow]
  rcases w.signed_cases a with ⟨_, _, _⟩ | ⟨_, _, _⟩ <;>
    rcases w.signed_cases b with ⟨_, _, _⟩ | ⟨_, _, _⟩ <;>
    rcases w.signed_cases (a - b) with ⟨negative, _, _⟩ | ⟨negative, _, _⟩ <;>
    rcases w.unsigned_sub_cases a b with ⟨_, _⟩ | ⟨_, _⟩ <;>
    simp [negative] <;> omega

/-- A comparison leaves flags under which a condition holds exactly if the operands are in the
relation it names. -/
theorem holds_sub_iff (cond : Condition) :
    (f.sub w a b).2.holds cond = true ↔ cond.Compares w a b := by
  have reports := reports_sub w a b f
  have carry := reports.carry
  have overflow := reports.overflow
  have zero := zero_sub_iff w a b f
  have order := sign_ne_overflow_iff w a b f
  have sign : (f.sub w a b).2.get sign = true ↔
      w.half ≤ ((w.unsigned a : Int) - w.unsigned b) % w.range := by
    rw [sign_sub, Width.isNegative_eq_decide, ← Width.unsigned_sub, decide_eq_true_iff,
      Int.ofNat_le]
  have parity : (f.sub w a b).2.get parity = true ↔
      ones (((w.unsigned a : Int) - w.unsigned b) % w.range).toNat % 2 = 0 := by
    rw [reports.parity, ← reports.result, Int.toNat_natCast]
  have belowOrEqual : (f.sub w a b).2.holds .belowOrEqual = true ↔
      w.unsigned a ≤ w.unsigned b := by
    simp [holds, carry, zero, Nat.le_iff_lt_or_eq]
  have less : (f.sub w a b).2.holds .less = true ↔ w.signed a < w.signed b := by
    simp [holds, order]
  have lessOrEqual : (f.sub w a b).2.holds .lessOrEqual = true ↔ w.signed a ≤ w.signed b := by
    simp [holds, order, zero, Width.unsigned_eq_iff, Int.le_iff_eq_or_lt]
  have opposite : ∀ cond : Condition,
      ((f.sub w a b).2.holds cond = true ↔ cond.Compares w a b) →
      ((f.sub w a b).2.holds cond.negation = true ↔ cond.negation.Compares w a b) := by
    intro cond decided
    rw [holds_negation, Bool.not_eq_true', ← Bool.not_eq_true, decided, cond.compares_negation]
  cases cond with
  | overflow => exact overflow
  | notOverflow => exact opposite .overflow overflow
  | below => exact carry
  | aboveOrEqual => exact opposite .below carry
  | equal => exact zero
  | notEqual => exact opposite .equal zero
  | belowOrEqual => exact belowOrEqual
  | above => exact opposite .belowOrEqual belowOrEqual
  | sign => exact sign
  | notSign => exact opposite .sign sign
  | parity => exact parity
  | notParity => exact opposite .parity parity
  | less => exact less
  | greaterOrEqual => exact opposite .less less
  | lessOrEqual => exact lessOrEqual
  | greater => exact opposite .lessOrEqual lessOrEqual

end Flags

namespace Machine

variable {table : SyscallTable} {m m' : Machine}

theorem source_fetched (w : Width) (src : Source) :
    src.value w m.fetched.core = src.value w m.core := Source.value_congr rfl rfl w src

theorem place_fetched (w : Width) (place : Place) :
    place.value w m.fetched.core = place.value w m.core := Place.value_congr rfl rfl w place

/-- A comparison that completes has read both operands, and has changed nothing but the flags. -/
theorem core_of_tick_cmp {w : Width} {dst : Place} {src : Source}
    (executes : m.Executes (.binary .cmp w dst src)) (completed : m.tick table = (true, m')) :
    ∃ a b, dst.value w m.core = .ok a ∧ src.value w m.core = .ok b ∧
      m'.status = .running ∧
      m'.core = { m.fetched.core with flags := (m.core.flags.sub w a b).2 } := by
  obtain ⟨executed, rest⟩ := executed_of_tick executes completed
  rw [Exec.run_binary, source_fetched, place_fetched] at executed
  have running : m'.status = .running := by
    rw [rest]
    exact (tick_eq_true completed).1
  cases given : src.value w m.core with
  | error fault =>
    rw [given] at executed
    cases executed
  | ok b =>
    rw [given] at executed
    cases loaded : dst.value w m.core with
    | error fault =>
      rw [loaded] at executed
      cases executed
    | ok a =>
      rw [loaded] at executed
      exact ⟨a, b, rfl, rfl, running, (Prod.mk.inj executed).2.symm⟩

/-- A conditional jump whose target can be read completes, and goes where its condition says. -/
theorem tick_jcc {cond : Condition} {w : Width} {target : Source} {address : UInt64}
    (running : m.status = .running) (executes : m.Executes (.jcc cond w target))
    (read : target.value w m.core = .ok address) :
    m.tick table = (true,
      if m.core.flags.holds cond then { m with core := { m.core with rip := address } }
      else m.fetched) := by
  have flags : m.fetched.core.flags = m.core.flags := rfl
  apply tick_of_step_ok running
  rw [run_step_of_executes executes, run_onCore, Exec.run_jcc, source_fetched, read, flags]
  cases m.core.flags.holds cond <;> rfl

/-- Whenever a comparison completes, whatever the form of its operands, a conditional jump executed
next whose target can be read completes as well, and it jumps exactly if the operands are in the
relation that its condition names; otherwise it falls through. Conditions come in pairs with
consecutive codes, of which exactly one holds whatever the flags are. -/
theorem comparison_decides_jump :
    (∀ (table : SyscallTable) (m m₁ : Machine) (w : Width) (dst : Place) (src : Source),
      m.Executes (.binary .cmp w dst src) → m.tick table = (true, m₁) →
      ∃ a b, dst.value w m.core = .ok a ∧ src.value w m.core = .ok b ∧
        ∀ (cond : Condition) (v : Width) (target : Source) (address : UInt64),
          m₁.Executes (.jcc cond v target) → target.value v m₁.core = .ok address →
          (cond.Compares w a b →
            m₁.tick table = (true, { m₁ with core := { m₁.core with rip := address } })) ∧
          (¬cond.Compares w a b → m₁.tick table = (true, m₁.fetched))) ∧
    ∀ k : Fin 8, ∃ first second, Condition.ofByte? (UInt8.ofNat (2 * k)) = some first ∧
      Condition.ofByte? (UInt8.ofNat (2 * k + 1)) = some second ∧
      ∀ f : Flags, f.holds second = !f.holds first := by
  constructor
  · intro table m m₁ w dst src executes completed
    obtain ⟨a, b, loaded, given, running, core⟩ := core_of_tick_cmp executes completed
    refine ⟨a, b, loaded, given, ?_⟩
    intro cond v target address next read
    have decided : m₁.core.flags.holds cond = true ↔ cond.Compares w a b := by
      rw [core]
      exact Flags.holds_sub_iff w a b m.core.flags cond
    have jumps : m₁.tick table = _ := tick_jcc running next read
    constructor
    · intro related
      rw [jumps, if_pos (decided.mpr related)]
    · intro unrelated
      rw [jumps, if_neg (mt decided.mp unrelated)]
  · intro k
    obtain ⟨cond, first, second⟩ := Condition.ofByte?_pair k
    exact ⟨cond, cond.negation, first, second, fun f => f.holds_negation cond⟩

/-- A machine about to compare the low byte of RAX, which is zero, with -128, and to jump to address
5 if it is greater. -/
def comparing : Machine :=
  protecting [Opcode.cmp.toByte, 0x01, 0x00, 0x80, Opcode.jcc.toByte, 0x0F, 0x05, 0x00, 0x05]

/-- The difference does not fit, and the jump is taken nevertheless. -/
theorem comparison_decides_jump_comparing :
    ∃ m₁, comparing.tick SyscallTable.standard = (true, m₁) ∧
      m₁.core.flags.get Flags.overflow = true ∧
      m₁.tick SyscallTable.standard = (true, { m₁ with core := { m₁.core with rip := 5 } }) := by
  have executes : comparing.Executes (.binary .cmp .byte (.register .rax) (.immediate 0x80)) :=
    ⟨by decide, rfl⟩
  obtain ⟨m₁, completed, overflow, next, read⟩ : ∃ m₁,
      comparing.tick SyscallTable.standard = (true, m₁) ∧
      m₁.core.flags.get Flags.overflow = true ∧
      m₁.Executes (.jcc .greater .word (.immediate 5)) ∧
      (Source.immediate 5).value .word m₁.core = .ok 5 :=
    ⟨_, rfl, by decide, ⟨by decide, rfl⟩, rfl⟩
  obtain ⟨a, b, loaded, given, jumps⟩ :=
    comparison_decides_jump.1 _ _ _ _ _ _ executes completed
  obtain rfl : 0 = a := Except.ok.inj loaded
  obtain rfl : 0x80 = b := Except.ok.inj given
  have related : Condition.greater.Compares .byte 0 0x80 := by
    unfold Condition.Compares
    decide
  exact ⟨m₁, completed, overflow, (jumps _ _ _ _ next read).1 related⟩

end Machine

end GuestMachine
