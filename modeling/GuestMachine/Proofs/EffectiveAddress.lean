import GuestMachine.Proofs.Fallout
import GuestMachine.Proofs.Instruction.Address
import GuestMachine.Proofs.Width
import Mathlib.Data.Int.ModEq

/-!
# Effective addresses

The bytes of an address are numbers: five fields in the first byte, two registers in the second,
and a displacement. The address they stand for is a sum over the integers, cut off once at the
address width, although the processor cuts off registers, shifts and sums one by one.
-/

namespace GuestMachine

/-! ## Words modulo the range of a width -/

namespace Width

theorem modEq_of_word {m n : Int} (w : Width) (same : m ≡ n [ZMOD 2 ^ 64]) :
    m ≡ n [ZMOD w.range] :=
  same.of_dvd (by exact_mod_cast w.range_dvd)

theorem toNat_truncate_modEq (w : Width) (a : UInt64) :
    ((w.truncate a).toNat : Int) ≡ a.toNat [ZMOD w.range] := by
  rw [toNat_truncate, natCast_unsigned]
  exact Int.mod_modEq _ _

theorem toNat_add_modEq (w : Width) (a b : UInt64) :
    ((a + b).toNat : Int) ≡ a.toNat + b.toNat [ZMOD w.range] := by
  apply w.modEq_of_word
  rw [UInt64.toNat_add]
  push_cast
  exact Int.mod_modEq _ _

/-- A shift by less than the word multiplies by a power of two. -/
theorem toNat_shiftLeft_modEq (w : Width) (a : UInt64) {s : UInt8} (small : s.toNat < 64) :
    ((a <<< s.toUInt64).toNat : Int) ≡ a.toNat * 2 ^ s.toNat [ZMOD w.range] := by
  apply w.modEq_of_word
  rw [UInt64.toNat_shiftLeft, UInt8.toNat_toUInt64, Nat.mod_eq_of_lt small, Nat.shiftLeft_eq]
  push_cast
  exact Int.mod_modEq _ _

theorem toNat_signExtend_modEq (w : Width) (a : UInt64) :
    ((w.signExtend a).toNat : Int) ≡ w.signed a [ZMOD 2 ^ 64] := by
  rw [toNat_signExtend]
  exact Int.mod_modEq _ _

theorem bytes_eq_one_iff {w : Width} : w.bytes = 1 ↔ w = .byte := by
  cases w <;> decide

/-- A byte string no longer than the width spells a number of the width. -/
theorem value_lt_range {w : Width} {bytes : Bytes} (short : bytes.length ≤ w.bytes) :
    Bytes.value bytes < w.range := by
  rw [range_eq_pow]
  exact Nat.lt_of_lt_of_le bytes.value_lt (Nat.pow_le_pow_right (by decide) short)

theorem unsigned_toWord {w : Width} {bytes : Bytes} (short : bytes.length ≤ w.bytes) :
    w.unsigned (Bytes.toWord bytes) = Bytes.value bytes := by
  rw [unsigned, Bytes.toWord, UInt64.toNat_ofNat', Nat.mod_mod_of_dvd _ w.range_dvd,
    Nat.mod_eq_of_lt (value_lt_range short)]

end Width

/-! ## The numbers in the bytes -/

/-- The parts of an encoded address, as numbers. -/
structure AddressCode where
  /-- One if there is a displacement, else zero. -/
  displaced : Nat
  /-- The power of two by which the base is scaled. -/
  scale : Nat
  /-- The number of the width: an address has `8 * 2 ^ size` bits. -/
  size : Nat
  /-- One if there is a base, else zero. -/
  based : Nat
  /-- One if there is an index, else zero. -/
  indexed : Nat
  base : Register
  index : Register
  /-- The number of bytes in the body of the displacement. -/
  bytes : Nat
  displacement : Int

namespace AddressCode

/-- Reads the parts off the byte `[i.ss cc b x]`, the byte `[bbbb xxxx]` that follows if `b` or `x`
is set, and the byte `[s... ..ww]` and the little-endian body that follow if `i` is set. -/
def ofBytes (input : Bytes) : AddressCode :=
  let settings := (input.headD 0).toNat
  let names := (input.tail.headD 0).toNat
  let behind := input.tail.drop (max (settings / 2 % 2) (settings % 2))
  let form := (behind.headD 0).toNat
  let bytes := 2 ^ (form % 4)
  let body := Bytes.value (behind.tail.take bytes)
  { displaced := settings / 128
    scale := settings / 16 % 4
    size := settings / 4 % 4
    based := settings / 2 % 2
    indexed := settings % 2
    base := Register.ofByte (UInt8.ofNat (names / 16))
    index := Register.ofByte (UInt8.ofNat (names % 16))
    bytes := bytes
    displacement :=
      if form < 128 ∨ body < 2 ^ (8 * bytes - 1) then body else body - 2 ^ (8 * bytes) }

/-- The number of bytes of the address. -/
def length (e : AddressCode) : Nat :=
  1 + max e.based e.indexed + e.displaced * (1 + e.bytes)

theorem length_pos (e : AddressCode) : 0 < e.length := by
  unfold length
  omega

/-- The number of bits of the address. -/
def bits (e : AddressCode) : Nat := 8 * 2 ^ e.size

/-- Displacement, scaled base and index, as far as they are there, with nothing cut off. -/
def sum (e : AddressCode) (r : Registers) : Int :=
  e.displaced * e.displacement + e.based * (r.get e.base).toNat * 2 ^ e.scale +
    e.indexed * (r.get e.index).toNat

end AddressCode

/-- The fields of the byte in front of an address. -/
theorem AddressForm.ofByte_fields (b : UInt8) :
    (ofByte b).hasDisplacement.toNat = b.toNat / 128 ∧ (ofByte b).scale.toNat = b.toNat / 16 % 4 ∧
      (ofByte b).width.bytes = 2 ^ (b.toNat / 4 % 4) ∧
      (ofByte b).hasBase.toNat = b.toNat / 2 % 2 ∧ (ofByte b).hasIndex.toNat = b.toNat % 2 := by
  revert b
  apply Bytes.forall_byte
  decide +kernel

/-- The fields of the byte in front of an immediate. -/
theorem ImmediateForm.ofByte_fields (b : UInt8) :
    (ofByte b).signed = decide (128 ≤ b.toNat) ∧ (ofByte b).width.bytes = 2 ^ (b.toNat % 4) := by
  revert b
  apply Bytes.forall_byte
  decide +kernel

theorem Register.pair_fields (b : UInt8) :
    pair b = (ofByte (UInt8.ofNat (b.toNat / 16)), ofByte (UInt8.ofNat (b.toNat % 16))) := by
  revert b
  apply Bytes.forall_byte
  decide +kernel

/-! ## Reading the numbers -/

/-- The word of an immediate, and the number it stands for. -/
theorem ImmediateForm.toNat_widen_modEq (p : ImmediateForm) (body : UInt64) :
    ((p.widen body).toNat : Int) ≡
      if p.signed then p.width.signed body else p.width.unsigned body [ZMOD 2 ^ 64] := by
  unfold widen
  split
  · exact p.width.toNat_signExtend_modEq body
  · rw [Width.toNat_truncate]

theorem Fetch.registersLength_eq (form : AddressForm) :
    registersLength form = max form.hasBase.toNat form.hasIndex.toNat := by
  unfold registersLength AddressForm.hasRegisters
  cases form.hasBase <;> cases form.hasIndex <;> rfl

theorem Fetch.displacementLength_eq (form : AddressForm) (input : Bytes) :
    displacementLength form input = form.hasDisplacement.toNat * immediateLength input := by
  unfold displacementLength
  cases form.hasDisplacement <;> simp

namespace AddressCode

variable (input : Bytes)

theorem size_eq_zero_iff :
    (ofBytes input).size = 0 ↔ (AddressForm.ofByte (input.headD 0)).width = .byte := by
  have bytes := (AddressForm.ofByte_fields (input.headD 0)).2.2.1
  rw [← Width.bytes_eq_one_iff, bytes, Nat.pow_eq_one]
  simp [ofBytes]

theorem two_pow_bits :
    2 ^ (ofBytes input).bits = (AddressForm.ofByte (input.headD 0)).width.range := by
  have bytes := (AddressForm.ofByte_fields (input.headD 0)).2.2.1
  rw [Width.range, Width.bits, bytes]
  rfl

/-- Where the form and the body of a displacement are. -/
def behind : Bytes := input.tail.drop (max (ofBytes input).based (ofBytes input).indexed)

theorem behind_eq : behind input =
    input.tail.drop (Fetch.registersLength (AddressForm.ofByte (input.headD 0))) := by
  obtain ⟨-, -, -, based, indexed⟩ := AddressForm.ofByte_fields (input.headD 0)
  rw [Fetch.registersLength_eq, based, indexed]
  rfl

theorem bytes_eq :
    (ofBytes input).bytes = (ImmediateForm.ofByte ((behind input).headD 0)).width.bytes :=
  (ImmediateForm.ofByte_fields _).2.symm

theorem length_eq : (ofBytes input).length = Fetch.addressLength input := by
  obtain ⟨displaced, -, -, based, indexed⟩ := AddressForm.ofByte_fields (input.headD 0)
  rw [Fetch.addressLength, Fetch.addressBodyLength, ← behind_eq, Fetch.displacementLength_eq,
    Fetch.immediateLength, ← bytes_eq, Fetch.registersLength_eq, displaced, based, indexed,
    ← Nat.add_assoc]
  rfl

/-- The displacement is the number of the immediate behind the registers. -/
theorem displacement_eq :
    let form := ImmediateForm.ofByte ((behind input).headD 0)
    let body := Fetch.immediateBody (behind input)
    (ofBytes input).displacement =
      if form.signed then form.width.signed body else form.width.unsigned body := by
  intro form body
  obtain ⟨signed, bytes⟩ := ImmediateForm.ofByte_fields ((behind input).headD 0)
  have value : form.width.unsigned body =
      Bytes.value ((behind input).tail.take form.width.bytes) := by
    rw [← List.drop_one]
    exact Width.unsigned_toWord (List.length_take_le _ _)
  rw [signed, Width.signed, value, Width.half, Width.range, Width.bits, bytes]
  rcases Nat.lt_or_ge ((behind input).headD 0).toNat 128 with zero | sign
  · rw [if_neg (by simpa using zero)]
    exact if_pos (.inl zero)
  · rw [if_pos (decide_eq_true sign)]
    exact if_congr (or_iff_right (Nat.not_lt_of_le sign)) rfl (by push_cast; rfl)

theorem displacementAt_modEq :
    ((Fetch.displacementAt (AddressForm.ofByte (input.headD 0)) (behind input)).toNat : Int) ≡
      (ofBytes input).displaced * (ofBytes input).displacement [ZMOD 2 ^ 64] := by
  obtain ⟨displaced, -⟩ := AddressForm.ofByte_fields (input.headD 0)
  rw [displacement_eq, show (ofBytes input).displaced = _ from displaced.symm,
    Fetch.displacementAt]
  cases (AddressForm.ofByte (input.headD 0)).hasDisplacement with
  | true =>
    rw [if_pos rfl, Bool.toNat_true, Nat.cast_one, one_mul]
    exact ImmediateForm.toNat_widen_modEq _ _
  | false => simp

end AddressCode

namespace Address

/-- What the scaled base adds to an address. -/
def baseTerm (a : Address) (r : Registers) : UInt64 :=
  match a.base with
  | some (b, scale) => r.getSized b a.width <<< scale.toUInt64
  | none => 0

/-- What the index adds to an address. -/
def indexTerm (a : Address) (r : Registers) : UInt64 :=
  match a.index with
  | some i => r.getSized i a.width
  | none => 0

theorem resolve_eq (a : Address) (r : Registers) :
    a.resolve r = a.width.truncate (a.displacement + a.baseTerm r + a.indexTerm r) := rfl

/-- Cutting off at the end is as good as not cutting off anything on the way. -/
theorem toNat_resolve {a : Address} {r : Registers} {d b i : Int}
    (displacement : (a.displacement.toNat : Int) ≡ d [ZMOD a.width.range])
    (base : ((a.baseTerm r).toNat : Int) ≡ b [ZMOD a.width.range])
    (index : ((a.indexTerm r).toNat : Int) ≡ i [ZMOD a.width.range]) :
    ((a.resolve r).toNat : Int) = (d + b + i) % a.width.range := by
  have sum := (a.width.toNat_add_modEq _ _).trans
    (((a.width.toNat_add_modEq _ _).trans (displacement.add base)).add index)
  rw [resolve_eq, Width.toNat_truncate, Width.natCast_unsigned, sum]

/-- The bits of the registers above the address width do not matter. -/
theorem resolve_congr {a : Address} {r r' : Registers}
    (same : ∀ i, r.getSized i a.width = r'.getSized i a.width) : a.resolve r = a.resolve r' := by
  simp only [resolve, same]

end Address

namespace Fetch

variable (form : AddressForm) (input : Bytes) (r : Registers)

theorem baseTerm_modEq (small : form.scale.toNat < 64) :
    (((addressAt form input).baseTerm r).toNat : Int) ≡
      form.hasBase.toNat * (r.get (Register.pair (input.headD 0)).1).toNat * 2 ^ form.scale.toNat
      [ZMOD form.width.range] := by
  unfold Address.baseTerm addressAt registersAt
  cases form.hasBase with
  | false => simp
  | true =>
    simp only [if_true, Bool.toNat_true, Nat.cast_one, one_mul]
    exact (form.width.toNat_shiftLeft_modEq _ small).trans
      ((form.width.toNat_truncate_modEq _).mul_right _)

theorem indexTerm_modEq :
    (((addressAt form input).indexTerm r).toNat : Int) ≡
      form.hasIndex.toNat * (r.get (Register.pair (input.headD 0)).2).toNat
      [ZMOD form.width.range] := by
  unfold Address.indexTerm addressAt registersAt
  cases form.hasIndex with
  | false => simp
  | true =>
    simp only [if_true, Bool.toNat_true, Nat.cast_one, one_mul]
    exact form.width.toNat_truncate_modEq _

end Fetch

/-- The address that is read off the bytes is the sum of their numbers, cut off at its width. -/
theorem AddressCode.toNat_resolve (input : Bytes) (r : Registers) :
    (((Fetch.addressAt (AddressForm.ofByte (input.headD 0)) input.tail).resolve r).toNat : Int) =
      (ofBytes input).sum r % 2 ^ (ofBytes input).bits := by
  obtain ⟨-, scale, -, based, indexed⟩ := AddressForm.ofByte_fields (input.headD 0)
  have names := Register.pair_fields (input.tail.headD 0)
  have displacement := displacementAt_modEq input
  rw [behind_eq] at displacement
  have base := Fetch.baseTerm_modEq (AddressForm.ofByte (input.headD 0)) input.tail r (by omega)
  have index := Fetch.indexTerm_modEq (AddressForm.ofByte (input.headD 0)) input.tail r
  rw [scale, based, names] at base
  rw [indexed, names] at index
  have range : (2 : Int) ^ (ofBytes input).bits =
      (AddressForm.ofByte (input.headD 0)).width.range := by
    exact_mod_cast two_pow_bits input
  rw [range]
  exact Address.toNat_resolve
    (a := Fetch.addressAt (AddressForm.ofByte (input.headD 0)) input.tail)
    (Width.modEq_of_word _ displacement) base index

/-! ## Fetching an address -/

/-- The bytes are missing, illegal, cut short or an address. -/
theorem AddressCode.run_address_cases (input : Bytes) :
    (input = [] ∧ Fetch.address.run input = (.error .outOfBounds, [])) ∨
    (input ≠ [] ∧ (ofBytes input).size = 0 ∧
      Fetch.address.run input = (.error .undefinedBehavior, input.tail)) ∨
    ((ofBytes input).size ≠ 0 ∧ input.length < (ofBytes input).length ∧
      ∃ rest, Fetch.address.run input = (.error .outOfBounds, rest)) ∨
    ((ofBytes input).size ≠ 0 ∧ (ofBytes input).length ≤ input.length ∧
      Fetch.address.run input =
        (.ok (Fetch.addressAt (AddressForm.ofByte (input.headD 0)) input.tail),
          input.drop (ofBytes input).length)) := by
  simp only [ne_eq, size_eq_zero_iff, length_eq]
  by_cases missing : input = []
  · subst missing
    exact .inl ⟨rfl, rfl⟩
  · by_cases byte : (AddressForm.ofByte (input.headD 0)).width = .byte
    · exact .inr (.inl ⟨missing, byte, Fetch.run_address_of_byte missing byte⟩)
    · have outcome := Fetch.run_address_of_ne_byte input byte
      by_cases long : Fetch.addressLength input ≤ input.length
      · rw [if_pos long] at outcome
        exact .inr (.inr (.inr ⟨byte, long, outcome⟩))
      · rw [if_neg long] at outcome
        obtain ⟨rest, -, cut⟩ := outcome
        exact .inr (.inr (.inl ⟨byte, Nat.lt_of_not_le long, rest, cut⟩))

/-- The bytes from the instruction pointer to the end of memory. -/
def Core.ahead (c : Core) : Bytes := c.memory.bytes.toList.drop c.rip.toNat

theorem Core.length_ahead (c : Core) : c.ahead.length = c.memory.size - c.rip.toNat := by
  simp [ahead, Memory.size]

theorem Core.ahead_past {c : Core} {n : Nat} (inside : n ≤ c.ahead.length)
    (small : c.memory.size < UInt64.size) : (c.past n).ahead = c.ahead.drop n := by
  rw [length_ahead] at inside
  have moved := toNat_rip_past inside small
  unfold ahead
  rw [moved, List.drop_drop]
  rfl

namespace Exec

/-- Takes an address at the instruction pointer, moves behind what was taken, and finds the address
by the present registers. -/
def fetchAddress : Exec UInt64 := fun c =>
  let (result, rest) := Fetch.address.run c.ahead
  (result.map fun a => a.resolve c.registers, c.past (c.ahead.length - rest.length))

theorem run_fetchAddress (c : Core) : fetchAddress.run c =
    ((Fetch.address.run c.ahead).1.map fun a => a.resolve c.registers,
      c.past (c.ahead.length - (Fetch.address.run c.ahead).2.length)) := rfl

theorem fetchAddress_error {c : Core} {fault : Fault} {rest : Bytes}
    (read : Fetch.address.run c.ahead = (.error fault, rest)) :
    (fetchAddress.run c).1 = .error fault := by
  rw [run_fetchAddress, read]
  rfl

theorem fetchAddress_ok {c : Core} {a : Address} {rest : Bytes}
    (read : Fetch.address.run c.ahead = (.ok a, rest)) :
    (fetchAddress.run c).1 = .ok (a.resolve c.registers) := by
  rw [run_fetchAddress, read]
  rfl

/-- Nothing but the instruction pointer moves. -/
theorem core_fetchAddress (c : Core) :
    (fetchAddress.run c).2 = { c with rip := (fetchAddress.run c).2.rip } := by
  rw [run_fetchAddress]
  rfl

theorem run_fetchAddress_of_ok {c : Core} {a : Address} {n : Nat} (inside : n ≤ c.ahead.length)
    (read : Fetch.address.run c.ahead = (.ok a, c.ahead.drop n)) :
    fetchAddress.run c = (.ok (a.resolve c.registers), c.past n) := by
  have taken : c.ahead.length - (c.ahead.drop n).length = n := by
    rw [List.length_drop]
    omega
  rw [run_fetchAddress, read, taken]
  rfl

/-- The outcomes of fetching an address, told apart by the bytes and the size of memory. -/
theorem fetchAddress_cases {c : Core} {code : AddressCode}
    (encoded : AddressCode.ofBytes c.ahead = code) :
    (c.memory.size ≤ c.rip.toNat ∧ (fetchAddress.run c).1 = .error .outOfBounds) ∨
    (c.rip.toNat < c.memory.size ∧ code.size = 0 ∧
      (fetchAddress.run c).1 = .error .undefinedBehavior) ∨
    (code.size ≠ 0 ∧ c.memory.size < c.rip.toNat + code.length ∧
      (fetchAddress.run c).1 = .error .outOfBounds) ∨
    (code.size ≠ 0 ∧ c.rip.toNat + code.length ≤ c.memory.size ∧
      ∃ address, fetchAddress.run c = (.ok address, c.past code.length) ∧
        (address.toNat : Int) = code.sum c.registers % 2 ^ code.bits) := by
  have length := c.length_ahead
  have positive := code.length_pos
  have sum := AddressCode.toNat_resolve c.ahead c.registers
  have outcome := AddressCode.run_address_cases c.ahead
  rw [encoded] at sum outcome
  rcases outcome with
    ⟨missing, read⟩ | ⟨present, zero, read⟩ | ⟨legal, cut, _, read⟩ | ⟨legal, long, read⟩
  · rw [missing, List.length_nil] at length
    exact .inl ⟨by omega, fetchAddress_error read⟩
  · rw [← List.length_pos_iff] at present
    exact .inr (.inl ⟨by omega, zero, fetchAddress_error read⟩)
  · exact .inr (.inr (.inl ⟨legal, by omega, fetchAddress_error read⟩))
  · exact .inr (.inr (.inr ⟨legal, by omega, _, run_fetchAddress_of_ok long read, sum⟩))

/-- Registers that agree up to the address width give the same address. -/
theorem fetchAddress_congr (c : Core) (registers : Registers)
    (same : ∀ i, (registers.get i).toNat % 2 ^ (AddressCode.ofBytes c.ahead).bits =
      (c.registers.get i).toNat % 2 ^ (AddressCode.ofBytes c.ahead).bits) :
    (fetchAddress.run { c with registers := registers }).1 = (fetchAddress.run c).1 := by
  have error : ∀ fault rest, Fetch.address.run c.ahead = (.error fault, rest) →
      (fetchAddress.run { c with registers := registers }).1 = (fetchAddress.run c).1 := by
    intro fault rest read
    rw [fetchAddress_error read]
    exact fetchAddress_error read
  rcases AddressCode.run_address_cases c.ahead with
    ⟨-, read⟩ | ⟨-, -, read⟩ | ⟨-, -, _, read⟩ | ⟨-, -, read⟩
  · exact error _ _ read
  · exact error _ _ read
  · exact error _ _ read
  · rw [fetchAddress_ok read, fetchAddress_ok (c := { c with registers := registers }) read]
    apply congrArg Except.ok
    apply Address.resolve_congr
    intro i
    apply UInt64.toNat_inj.mp
    rw [AddressCode.two_pow_bits] at same
    rw [Registers.getSized, Registers.getSized, Width.toNat_truncate, Width.toNat_truncate]
    exact same i

end Exec

/-! ## Loading an effective address -/

theorem Fetch.run_effectiveAddress {operand : UInt8} (tail : Bytes)
    (legal : (OperandForm.ofByte operand).width ≠ .byte) :
    effectiveAddress.run (operand :: tail) =
      ((address.run tail).1.map (.lea (OperandForm.ofByte operand).width
        (Register.ofByte (OperandForm.ofByte operand).register)), (address.run tail).2) := by
  have reader : effectiveAddress.run (operand :: tail) =
      (if (OperandForm.ofByte operand).width = .byte then Faulting.fail .undefinedBehavior
        else address >>= fun a => pure (.lea (OperandForm.ofByte operand).width
          (Register.ofByte (OperandForm.ofByte operand).register) a) :
        Fetch Operation).run tail := rfl
  rw [reader, if_neg legal, Faulting.run_bind_pure]

theorem Fetch.run_instruction_lea (tail : Bytes) :
    instruction.run (Opcode.lea.toByte :: tail) =
      ((effectiveAddress.run tail).1.map .operation, (effectiveAddress.run tail).2) := by
  rw [run_instruction_cons, operands, Faulting.run_bind_pure]

namespace Machine

variable {table : SyscallTable} {m : Machine} {operand : UInt8} {rest : Bytes}

theorem window_eq_take (m : Machine) : m.window = m.core.ahead.take Instruction.maxLength :=
  Memory.slice_eq_take_drop _ _ _

/-- The window is long enough for every instruction. -/
theorem decode_window_iff {op : Opcode} (bytes : m.core.ahead = op.toByte :: rest)
    (i : Instruction) :
    (Instruction.decode m.window).result = .ok i ↔ ((Fetch.operands op).run rest).1 = .ok i := by
  have same := Fetch.takes_instruction.run_take (Nat.le_refl _) m.core.ahead i
  rw [← window_eq_take, bytes, Fetch.run_instruction_cons] at same
  exact same

/-- A tick completes only on bytes that are an instruction. -/
theorem exists_decoded_of_tick {m' : Machine} (completed : m.tick table = (true, m')) :
    ∃ i, (Instruction.decode m.window).result = .ok i := by
  obtain ⟨-, below, stepped⟩ := tick_eq_true completed
  cases result : (Instruction.decode m.window).result with
  | error fault =>
    rw [run_step_of_error below result] at stepped
    cases stepped
  | ok i => exact ⟨i, rfl⟩

theorem exists_opcode_of_tick {m' : Machine} (completed : m.tick table = (true, m')) :
    ∃ (op : Opcode) (rest : Bytes), m.core.ahead = op.toByte :: rest := by
  obtain ⟨i, decoded⟩ := exists_decoded_of_tick completed
  have same := Fetch.takes_instruction.run_take (Nat.le_refl _) m.core.ahead i
  rw [← window_eq_take] at same
  exact Fetch.exists_opcode_of_run_ok (Prod.ext (same.mp decoded) rfl)

theorem operands_of_tick {op : Opcode} {m' : Machine} (bytes : m.core.ahead = op.toByte :: rest)
    (completed : m.tick table = (true, m')) : ∃ i, ((Fetch.operands op).run rest).1 = .ok i := by
  obtain ⟨i, decoded⟩ := exists_decoded_of_tick completed
  exact ⟨i, (decode_window_iff bytes i).mp decoded⟩

/-- The window is long enough for every address. -/
theorem decode_lea (bytes : m.core.ahead = Opcode.lea.toByte :: operand :: rest)
    (legal : (OperandForm.ofByte operand).width ≠ .byte) :
    let decoded := Instruction.decode m.window
    decoded.length = 2 + (rest.length - (Fetch.address.run rest).2.length) ∧
      decoded.result = (Fetch.address.run rest).1.map fun a =>
        .operation (.lea (OperandForm.ofByte operand).width
          (Register.ofByte (OperandForm.ofByte operand).register) a) := by
  have window : m.window = Opcode.lea.toByte :: operand :: rest.take 12 := by
    rw [window_eq_take, bytes]
    rfl
  obtain ⟨result, taken⟩ := Fetch.run_address_take rest (n := 12) (by decide)
  have suffix := (Fetch.suffix_address (rest.take 12)).length_le
  rw [← result, ← taken]
  unfold Instruction.decode
  rw [window, Fetch.run_instruction_lea, Fetch.run_effectiveAddress _ legal]
  constructor
  · simp only [List.length_cons]
    omega
  · cases (Fetch.address.run (rest.take 12)).1 <;> rfl

theorem run_step_lea (small : m.core.memory.size < UInt64.size)
    (below : m.core.rip.toNat < m.core.memory.exeBarrier)
    (bytes : m.core.ahead = Opcode.lea.toByte :: operand :: rest)
    (legal : (OperandForm.ofByte operand).width ≠ .byte) :
    (step table).run m = (onCore (do
        Exec.setRegisterSized (Register.ofByte (OperandForm.ofByte operand).register)
          (OperandForm.ofByte operand).width (← Exec.fetchAddress))).run
      { m with core := m.core.past 2 } := by
  obtain ⟨length, result⟩ := decode_lea bytes legal
  have ahead : (m.core.past 2).ahead = rest := by
    rw [Core.ahead_past (by simp [bytes]) small, bytes]
    rfl
  have fetched : m.fetched.core =
      (m.core.past 2).past (rest.length - (Fetch.address.run rest).2.length) := by
    rw [Core.past_past, ← length]
    rfl
  have address := Exec.run_fetchAddress (m.core.past 2)
  rw [ahead] at address
  rw [run_onCore, Faulting.run_bind, address]
  cases read : (Fetch.address.run rest).1 with
  | error fault =>
    rw [read] at result
    rw [run_step_of_error below result]
    exact Prod.ext rfl (congrArg (fun c => { m with core := c }) fetched)
  | ok a =>
    rw [read] at result
    rw [run_step_of_executes ⟨below, result⟩, run_onCore, fetched]
    rfl

/-- Whatever is at the instruction pointer, fetching an address has one of three outcomes. If the
first byte is in memory and its width is the illegal one, the fetch is undefined behavior. If a byte
that the address needs is not in memory, the fetch is out of bounds. In all other cases it gives the
sum of displacement, scaled base and index, each as far as it is there and taken as a whole number,
modulo two to the power of the address width, and has moved the instruction pointer behind the
address. No outcome touches anything else, and the bits of the registers above the address width
do not matter. A load of an effective address does no more than fetch the address behind its first
two bytes and write it to its register. -/
theorem effective_address_exact :
    (∀ c : Core,
      let code := AddressCode.ofBytes c.ahead
      let outcome := Exec.fetchAddress.run c
      (outcome.1 = .error .undefinedBehavior ↔ c.rip.toNat < c.memory.size ∧ code.size = 0) ∧
      (outcome.1 = .error .outOfBounds ↔ c.memory.size ≤ c.rip.toNat ∨
        code.size ≠ 0 ∧ c.memory.size < c.rip.toNat + code.length) ∧
      (code.size ≠ 0 → c.rip.toNat + code.length ≤ c.memory.size →
        ∃ address, outcome = (.ok address, { c with rip := c.rip + UInt64.ofNat code.length }) ∧
          (address.toNat : Int) = code.sum c.registers % 2 ^ code.bits) ∧
      outcome.2 = { c with rip := outcome.2.rip } ∧
      ∀ registers : Registers, (∀ i, (registers.get i).toNat % 2 ^ code.bits =
          (c.registers.get i).toNat % 2 ^ code.bits) →
        (Exec.fetchAddress.run { c with registers := registers }).1 = outcome.1) ∧
    ∀ (table : SyscallTable) (m : Machine) (operand : UInt8) (rest : Bytes),
      m.core.memory.size < UInt64.size → m.core.rip.toNat < m.core.memory.exeBarrier →
      m.core.ahead = Opcode.lea.toByte :: operand :: rest →
      (OperandForm.ofByte operand).width ≠ .byte →
      let form := OperandForm.ofByte operand
      (step table).run m = (onCore (do
        Exec.setRegisterSized (Register.ofByte form.register) form.width
          (← Exec.fetchAddress))).run { m with core := m.core.past 2 } := by
  constructor
  · intro c
    have untouched := Exec.core_fetchAddress c
    have ignored := Exec.fetchAddress_congr c
    have cases := Exec.fetchAddress_cases (c := c) rfl
    generalize AddressCode.ofBytes c.ahead = code at cases ignored ⊢
    generalize Exec.fetchAddress.run c = outcome at cases untouched ignored ⊢
    have positive := code.length_pos
    refine ⟨?_, ?_, ?_, untouched, ignored⟩
    · rcases cases with ⟨beyond, result⟩ | ⟨inside, zero, result⟩ | ⟨legal, cut, result⟩ |
        ⟨legal, long, address, rfl, -⟩
      · exact iff_of_false (by simp [result]) (by omega)
      · exact iff_of_true result ⟨inside, zero⟩
      · exact iff_of_false (by simp [result]) (by omega)
      · exact iff_of_false (by simp) (by omega)
    · rcases cases with ⟨beyond, result⟩ | ⟨inside, zero, result⟩ | ⟨legal, cut, result⟩ |
        ⟨legal, long, address, rfl, -⟩
      · exact iff_of_true result (.inl beyond)
      · exact iff_of_false (by simp [result]) (by omega)
      · exact iff_of_true result (.inr ⟨legal, cut⟩)
      · exact iff_of_false (by simp) (by omega)
    · intro legal long
      rcases cases with ⟨beyond, -⟩ | ⟨-, zero, -⟩ | ⟨-, cut, -⟩ | ⟨-, -, found⟩
      · omega
      · exact absurd zero legal
      · omega
      · exact found
  · intro table m operand rest small below bytes legal
    exact run_step_lea small below bytes legal

/-- A machine about to load an address of sixteen bits: minus sixteen, plus four times a base that
holds more than sixteen bits, plus an index. -/
def loading : Machine :=
  { new {} {} with
    core := { Core.blank with
      memory := ⟨[Opcode.lea.toByte, 0x0C, 0xA7, 0x14, 0x80, 0xF0].toArray, 6, 6, 6⟩
      registers := (Registers.empty.set .rbx 0xFFFF000000004001).set .rsi 3 }
    life := .started }

theorem effective_address_exact_loading :
    (∃ address, Exec.fetchAddress.run (loading.core.past 2) = (.ok address, loading.core.past 6) ∧
      address.toNat = 0xFFF7) ∧
    (Exec.fetchAddress.run { loading.core.past 2 with
      registers := (Registers.empty.set .rbx 0x4001).set .rsi 3 }).1 =
        (Exec.fetchAddress.run (loading.core.past 2)).1 ∧
    loading.core.memory.size < UInt64.size ∧
    (step SyscallTable.standard).run loading = (onCore (do
      Exec.setRegisterSized .rax .qword (← Exec.fetchAddress))).run
        { loading with core := loading.core.past 2 } := by
  obtain ⟨-, -, found, -, ignored⟩ := effective_address_exact.1 (loading.core.past 2)
  obtain ⟨address, run, value⟩ := found (by decide) (by decide)
  have sum : (AddressCode.ofBytes (loading.core.past 2).ahead).sum
      (loading.core.past 2).registers % 2 ^ 16 = 0xFFF7 := by decide
  refine ⟨⟨address, run, ?_⟩, ignored _ (by decide), by decide, ?_⟩
  · exact_mod_cast value.trans sum
  · exact effective_address_exact.2 SyscallTable.standard loading 0x0C _ (by decide) (by decide)
      rfl (by decide)

end Machine

end GuestMachine
