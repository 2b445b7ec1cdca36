import GuestMachine.Proofs.Core.Operand
import GuestMachine.Proofs.EffectiveAddress

/-!
# Operands as numbers

The bytes of an instruction with two operands name registers, an immediate or memory. Each operand
stands for a number of the width of the instruction, its view, and a result is written back through
the view of the destination.
-/

namespace GuestMachine

/-- The memory address that an encoded address points to. -/
def AddressCode.target (code : AddressCode) (r : Registers) : Nat :=
  (code.sum r % 2 ^ code.bits).toNat

/-- The number of the immediate at the front: its body, which is read as a signed number if the form
in front of it says so. -/
def immediateNumber (input : Bytes) : Int :=
  let form := ImmediateForm.ofByte (input.headD 0)
  if form.signed then form.width.signed (Fetch.immediateBody input)
  else form.width.unsigned (Fetch.immediateBody input)

/-- An operand as its bytes tell it. -/
inductive Operand where
  | register (r : Register)
  | immediate (number : Int)
  | memory (code : AddressCode)

namespace Operand

/-- The number that an operand stands for at width `w`, if it does not pass the end of memory. -/
def view (w : Width) (c : Core) : Operand → Option Nat
  | register r => some ((c.registers.get r).toNat % w.range)
  | immediate number => some (number % w.range).toNat
  | memory code =>
    let address := code.target c.registers
    if address + w.bytes ≤ c.memory.size then
      some (Bytes.value (c.memory.slice address w.bytes))
    else none

/-- The byte at address `i` belongs to the operand. -/
def Covers (w : Width) (c : Core) (i : Nat) : Operand → Prop
  | memory code => code.target c.registers ≤ i ∧ i < code.target c.registers + w.bytes
  | _ => False

/-- The operand lies below the read-only barrier. -/
def Protected (c : Core) : Operand → Prop
  | memory code => code.target c.registers < c.memory.readonlyBarrier
  | _ => False

/-- The core `c'` is `c` with the number `n` written to an operand through its view of width `w`.
The part of a register above a narrow view is kept, and above a wide one it is cleared. -/
structure Written (o : Operand) (w : Width) (n : Nat) (c c' : Core) : Prop where
  view : o.view w c' = some n
  upper : ∀ r, o = .register r → (c'.registers.get r).toNat / w.range =
    if w.bytes ≤ 2 then (c.registers.get r).toNat / w.range else 0
  registers : ∀ r, o ≠ .register r → c'.registers.get r = c.registers.get r
  bytes : ∀ i, ¬o.Covers w c i → c'.memory.bytes[i]? = c.memory.bytes[i]?

end Operand

/-- The operands of an instruction with two of them. -/
structure OperandPair where
  width : Width
  destination : Operand
  source : Operand
  /-- The number of bytes that tell the operands. -/
  length : Nat

namespace OperandPair

/-- The operands of the form `[rrrr ss mm]` whose other bytes are `tail`. The mode tells register
from register, register from immediate, register from memory and memory from register. -/
def ofForm (form : OperandForm) (tail : Bytes) : OperandPair :=
  let register := Operand.register (Register.ofByte form.register)
  let address := AddressCode.ofBytes tail
  match form.mode with
  | 0 => ⟨form.width, register, .register (Register.ofByte (tail.headD 0)), 2⟩
  | 1 => ⟨form.width, register, .immediate (immediateNumber tail), 1 + Fetch.immediateLength tail⟩
  | 2 => ⟨form.width, register, .memory address, 1 + address.length⟩
  | _ => ⟨form.width, .memory address, register, 1 + address.length⟩

def ofBytes (input : Bytes) : OperandPair :=
  ofForm (OperandForm.ofByte (input.headD 0)) input.tail

/-- Of the bytes of the operands, `available` are there, which is enough, and an address among the
operands has a legal form. -/
structure Complete (p : OperandPair) (available : Nat) : Prop where
  long : p.length ≤ available
  legal : ∀ code, p.destination = .memory code ∨ p.source = .memory code → code.size ≠ 0

end OperandPair

/-- Places can be read as well as written. -/
def Place.toSource : Place → Source
  | .register r => .register r
  | .memory a => .memory a

theorem Place.value_toSource (w : Width) (c : Core) (place : Place) :
    place.toSource.value w c = place.value w c := by
  cases place <;> rfl

/-- The operand and the source are the same register, the same immediate up to whole words, or the
same address whatever the registers hold. -/
inductive Operand.Names : Operand → Source → Prop
  | register (r : Register) : Names (.register r) (.register r)
  | immediate {number : Int} {value : UInt64}
      (same : (value.toNat : Int) ≡ number [ZMOD 2 ^ 64]) :
      Names (.immediate number) (.immediate value)
  | memory {code : AddressCode} {a : Address}
      (same : ∀ r, (a.resolve r).toNat = code.target r) : Names (.memory code) (.memory a)

/-! ## Reading operands -/

theorem Operand.names_immediateAt (input : Bytes) :
    Names (.immediate (immediateNumber input)) (.immediate (Fetch.immediateAt input)) :=
  .immediate (ImmediateForm.toNat_widen_modEq _ _)

theorem Operand.names_addressAt (input : Bytes) :
    Names (.memory (AddressCode.ofBytes input))
      (.memory (Fetch.addressAt (AddressForm.ofByte (input.headD 0)) input.tail)) := by
  refine .memory fun r => ?_
  have sum := AddressCode.toNat_resolve input r
  rw [AddressCode.target, ← sum, Int.toNat_natCast]

/-- An address is read exactly if its bytes are all there and its form is a legal one. -/
theorem Operand.address_cases (input : Bytes) :
    ((AddressCode.ofBytes input).size ≠ 0 ∧ (AddressCode.ofBytes input).length ≤ input.length ∧
      ∃ a, (Fetch.address.run input).1 = .ok a ∧
        Names (.memory (AddressCode.ofBytes input)) (.memory a)) ∨
    (¬((AddressCode.ofBytes input).size ≠ 0 ∧
        (AddressCode.ofBytes input).length ≤ input.length) ∧
      ∃ fault, (Fetch.address.run input).1 = .error fault) := by
  have positive := (AddressCode.ofBytes input).length_pos
  rcases AddressCode.run_address_cases input with
    ⟨missing, read⟩ | ⟨-, zero, read⟩ | ⟨-, cut, _, read⟩ | ⟨legal, long, read⟩
  all_goals rw [read]
  · have short : input.length = 0 := by rw [missing, List.length_nil]
    exact .inr ⟨by omega, _, rfl⟩
  · exact .inr ⟨fun held => held.1 zero, _, rfl⟩
  · exact .inr ⟨by omega, _, rfl⟩
  · exact .inl ⟨legal, long, _, rfl, names_addressAt input⟩

namespace OperandPair

/-- What reading a pair of operands can give. -/
inductive Outcome (p : OperandPair) (available : Nat) : Except Fault (Width × Place × Source) → Prop
  | read {dst : Place} {src : Source} (complete : p.Complete available)
      (destination : p.destination.Names dst.toSource) (source : p.source.Names src) :
      Outcome p available (.ok (p.width, dst, src))
  | refused {fault : Fault} (incomplete : ¬p.Complete available) :
      Outcome p available (.error fault)

/-- What reading a pair of operands can give, if all that is to be read is one part `x`. -/
theorem outcome_of_reads {α : Type} {length : Bytes → Nat} {v : Bytes → α} {x : Fetch α}
    (hx : Fetch.Reads length v x) {p : OperandPair} {tail : Bytes} {dst : α → Place}
    {src : α → Source} (size : p.length = 1 + length tail)
    (legal : ∀ code, p.destination = .memory code ∨ p.source = .memory code → code.size ≠ 0)
    (destination : p.destination.Names (dst (v tail)).toSource)
    (source : p.source.Names (src (v tail))) :
    Outcome p (tail.length + 1)
      ((x >>= fun a => pure (p.width, dst a, src a)).run tail).1 := by
  rw [Faulting.run_bind_pure]
  by_cases long : length tail ≤ tail.length
  · rw [hx.ok long]
    exact .read ⟨by omega, legal⟩ destination source
  · obtain ⟨rest, -, cut⟩ := hx.short long
    rw [cut]
    exact .refused fun complete => long (by have := complete.long; omega)

/-- The same, if that part is an address. -/
theorem outcome_of_address {p : OperandPair} {tail : Bytes} {dst : Address → Place}
    {src : Address → Source} (size : p.length = 1 + (AddressCode.ofBytes tail).length)
    (only : ∀ code, p.destination = .memory code ∨ p.source = .memory code ↔
      code = AddressCode.ofBytes tail)
    (destination : ∀ a, Operand.Names (.memory (AddressCode.ofBytes tail)) (.memory a) →
      p.destination.Names (dst a).toSource)
    (source : ∀ a, Operand.Names (.memory (AddressCode.ofBytes tail)) (.memory a) →
      p.source.Names (src a)) :
    Outcome p (tail.length + 1)
      ((Fetch.address >>= fun a => pure (p.width, dst a, src a)).run tail).1 := by
  rw [Faulting.run_bind_pure]
  rcases Operand.address_cases tail with ⟨legal, long, a, read, named⟩ | ⟨illegal, fault, read⟩
  · rw [read]
    refine .read ⟨by omega, ?_⟩ (destination a named) (source a named)
    intro code mentioned
    rw [(only code).mp mentioned]
    exact legal
  · rw [read]
    refine .refused fun complete => illegal ⟨?_, ?_⟩
    · exact complete.legal _ ((only _).mpr rfl)
    · have long := complete.long
      omega

/-- A pair of operands is read exactly if its bytes are all there and legal. -/
theorem outcome_binary (input : Bytes) :
    Outcome (ofBytes input) input.length (Fetch.binary.run input).1 := by
  cases input with
  | nil => exact .refused fun complete => absurd complete.long (by decide)
  | cons b tail =>
    have taken : Fetch.byte.run (b :: tail) = (.ok b, tail) := rfl
    unfold ofBytes ofForm Fetch.binary
    rw [Faulting.run_bind_ok taken, List.headD_cons, List.tail_cons]
    dsimp only
    rcases OperandForm.mode_cases b with mode | mode | mode | mode <;> rw [mode]
    · exact outcome_of_reads Fetch.reads_byte rfl (by simp) (.register _) (.register _)
    · exact outcome_of_reads Fetch.reads_immediate rfl (by simp) (.register _)
        (Operand.names_immediateAt tail)
    · exact outcome_of_address rfl (by simp [eq_comm]) (fun _ _ => .register _) fun _ named => named
    · exact outcome_of_address rfl (by simp [eq_comm]) (fun _ named => named) fun _ _ => .register _

end OperandPair

/-! ## Views and writes -/

/-- A write through a view keeps the part above it if the view is narrow, and clears it else. -/
theorem Registers.toNat_merge (w : Width) (old value : UInt64) :
    (merge w old value).toNat =
      w.range * (if w.bytes ≤ 2 then old.toNat / w.range else 0) + w.unsigned value := by
  have narrow : ((old &&& ~~~w.mask) ||| w.truncate value).toNat =
      w.range * (old.toNat / w.range) + w.unsigned value := by
    have small : w.unsigned value < 2 ^ w.bits := w.unsigned_lt value
    rw [UInt64.toNat_or, Width.toNat_and_not_mask, Width.toNat_truncate,
      ← Nat.two_pow_add_eq_or_of_lt small]
    rfl
  cases w with
  | byte => exact narrow
  | word => exact narrow
  | dword => exact (Width.toNat_truncate .dword value).trans (by simp [Width.bytes])
  | qword =>
    have whole : Width.qword.unsigned value = value.toNat := Nat.mod_eq_of_lt value.toNat_lt
    rw [whole]
    simp [merge, Width.bytes]

theorem Registers.toNat_merge_mod (w : Width) (old value : UInt64) :
    (merge w old value).toNat % w.range = w.unsigned value := by
  rw [toNat_merge, Nat.mul_add_mod, Nat.mod_eq_of_lt (w.unsigned_lt value)]

theorem Registers.toNat_merge_div (w : Width) (old value : UInt64) :
    (merge w old value).toNat / w.range = if w.bytes ≤ 2 then old.toNat / w.range else 0 := by
  have positive : 0 < w.range := Nat.two_pow_pos _
  rw [toNat_merge, Nat.mul_add_div positive, Nat.div_eq_of_lt (w.unsigned_lt value), Nat.add_zero]

namespace Operand

variable {o : Operand} {src : Source} {w : Width} {c c' : Core}

/-- The view of an operand is the value of the source that it names. -/
theorem Names.view_eq (names : o.Names src) (w : Width) (c : Core) :
    o.view w c = (src.value w c).toOption.map UInt64.toNat := by
  cases names with
  | register r =>
    rw [view, Source.value, Registers.getSized, Except.toOption, Option.map_some,
      Width.toNat_truncate, Width.unsigned]
  | @immediate number value same =>
    have cut : (w.unsigned value : Int) = number % w.range := by
      rw [Width.natCast_unsigned]
      exact w.modEq_of_word same
    rw [view, Source.value, Except.toOption, Option.map_some, Width.toNat_truncate, ← cut,
      Int.toNat_natCast]
  | @memory code a same =>
    rw [view, Source.value, Memory.read_eq, same]
    split
    · have short : (c.memory.slice (code.target c.registers) w.bytes).length ≤ w.bytes := by
        rw [Memory.length_slice]
        exact Nat.min_le_left _ _
      rw [Except.toOption, Option.map_some, Bytes.toNat_toWord (Nat.le_trans short w.bytes_le)]
    · rfl

/-- No operand depends on the instruction pointer, the flags or the floating-point stack. -/
theorem view_congr {d : Core} (registers : d.registers = c.registers) (memory : d.memory = c.memory)
    (w : Width) (o : Operand) : o.view w d = o.view w c := by
  cases o <;> simp only [view, registers, memory]

theorem Written.congr {d : Core} {n : Nat} (written : o.Written w n d c')
    (registers : d.registers = c.registers) (memory : d.memory = c.memory) :
    o.Written w n c c' where
  view := written.view
  upper r named := by rw [written.upper r named, registers]
  registers r other := by rw [written.registers r other, registers]
  bytes i outside := by
    rw [written.bytes i, memory]
    cases o with
    | memory code =>
      unfold Covers at outside ⊢
      rw [registers]
      exact outside
    | _ => exact id

theorem Names.exists_value (names : o.Names src) {n : Nat} (viewed : o.view w c = some n) :
    ∃ value, src.value w c = .ok value ∧ value.toNat = n := by
  rw [names.view_eq] at viewed
  cases read : src.value w c with
  | error fault =>
    rw [read] at viewed
    cases viewed
  | ok value =>
    rw [read] at viewed
    exact ⟨value, rfl, Option.some.inj viewed⟩

/-- A store to a place writes to the operand that names it. -/
theorem written_of_store {dst : Place} {value : UInt64} (names : o.Names dst.toSource)
    (stored : (Exec.store w (dst.locate c.registers) value).run c = (.ok (), c')) :
    o.Written w (w.unsigned value) c c' := by
  cases dst with
  | register r =>
    cases names
    cases stored
    have here : (c.registers.setSized r w value).get r =
        Registers.merge w (c.registers.get r) value := Registers.get_set_self _ _ _
    constructor
    · rw [view, here, Registers.toNat_merge_mod]
    · rintro _ ⟨⟩
      rw [here, Registers.toNat_merge_div]
    · intro r' other
      exact Registers.get_set_of_ne _ _ fun same => other (congrArg Operand.register same)
    · intro i _
      rfl
  | memory a =>
    obtain ⟨writable, rfl⟩ := Exec.run_writeMemory_eq_ok stored
    have fits := (Memory.writeFault?_eq_none.mp writable).2
    have length := Bytes.length_ofNat w.bytes value.toNat
    cases names with
    | @memory code _ same =>
      rw [same] at fits
      constructor
      · have back : Memory.slice
            (c.memory.patch (code.target c.registers) (Bytes.ofNat w.bytes value.toNat))
            (code.target c.registers) (Bytes.ofNat w.bytes value.toNat).length = _ :=
          Memory.slice_patch c.memory (by omega)
        rw [length] at back
        rw [view, if_pos (by rw [Memory.size_patch]; exact fits), same, back, Bytes.value_ofNat,
          ← Width.range_eq_pow, Width.unsigned]
      · rintro _ ⟨⟩
      · intro r _
        rfl
      · intro i outside
        apply Memory.getElem?_patch_of_outside
        unfold Covers at outside
        rw [same]
        omega

end Operand

end GuestMachine
