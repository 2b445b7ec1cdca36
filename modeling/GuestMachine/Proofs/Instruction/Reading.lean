import GuestMachine.Proofs.Instruction.Length

/-!
# What a reader of instructions takes

A reader takes bytes off the front and looks at nothing behind them: what it gives depends on the
bytes it takes and on no other. No instruction takes more than fourteen.
-/

namespace GuestMachine

theorem Opcode.toByte_of_ofByte? {first : UInt8} {op : Opcode} (h : ofByte? first = some op) :
    op.toByte = first := by
  unfold ofByte? at h
  split at h <;> cases h <;> rfl

namespace Fetch

variable {α : Type} {n : Nat} {x : Fetch α}

/-- Whenever the reader gives something, it has taken at most `n` bytes off the front, and would
give the same whatever came behind them. -/
def Takes (n : Nat) (x : Fetch α) : Prop :=
  ∀ input result rest, x.run input = (.ok result, rest) →
    ∃ taken : Bytes, input = taken ++ rest ∧ taken.length ≤ n ∧
      ∀ other, x.run (taken ++ other) = (.ok result, other)

namespace Takes

/-- What is taken is needed to the last byte: no shorter beginning of it is enough. -/
theorem ne_ok_take (hx : Takes n x) {taken : Bytes} {result : α}
    (read : x.run taken = (.ok result, [])) {k : Nat} (shorter : k < taken.length) (result' : α)
    (rest : Bytes) : x.run (taken.take k) ≠ (.ok result', rest) := by
  intro early
  obtain ⟨front, split, -, same⟩ := hx _ _ _ early
  have whole : front ++ (rest ++ taken.drop k) = taken := by
    rw [← List.append_assoc, ← split, List.take_append_drop]
  have read' := same (rest ++ taken.drop k)
  rw [whole, read] at read'
  have nothing : rest ++ taken.drop k = [] := (Prod.mk.inj read').2.symm
  have past : taken.length ≤ k := List.drop_eq_nil_iff.mp (List.append_eq_nil_iff.mp nothing).2
  omega

/-- Bytes behind those that a reader may take do not matter. -/
theorem run_take (hx : Takes n x) {k : Nat} (enough : n ≤ k) (input : Bytes) (result : α) :
    (x.run (input.take k)).1 = .ok result ↔ (x.run input).1 = .ok result := by
  constructor
  · intro read
    obtain ⟨taken, split, -, same⟩ := hx _ _ _ (Prod.ext read rfl)
    have whole := List.take_append_drop k input
    rw [split, List.append_assoc] at whole
    rw [← whole, same]
  · intro read
    obtain ⟨taken, split, le, same⟩ := hx _ _ _ (Prod.ext read rfl)
    have front : input.take k = taken ++ (x.run input).2.take (k - taken.length) := by
      rw [split, List.take_append, List.take_of_length_le (Nat.le_trans le enough), ← split]
    rw [front, same]

end Takes

/-- A reader that takes what a length says takes at most what bounds the length. -/
theorem Spans.takes {length : Bytes → Nat} (hx : Spans length x) (le : ∀ input, length input ≤ n) :
    Takes n x := by
  intro input result rest read
  obtain ⟨long, rfl, same⟩ := hx input result rest read
  refine ⟨input.take (length input), (List.take_append_drop _ _).symm, ?_, same⟩
  rw [List.length_take_of_le long]
  exact le input

theorem takes_instruction : Takes Instruction.maxLength instruction :=
  spans_instruction.takes Instruction.length_le

/-- An instruction is an opcode and whatever follows it. -/
theorem run_instruction_cons (op : Opcode) (rest : Bytes) :
    instruction.run (op.toByte :: rest) = (operands op).run rest := by
  have taken : byte.run (op.toByte :: rest) = (.ok op.toByte, rest) := rfl
  have named := Faulting.run_orFault Fault.undefinedBehavior (Opcode.ofByte? op.toByte) rest
  rw [Opcode.ofByte?_toByte] at named
  unfold instruction
  rw [Faulting.run_bind_ok taken, Opcode.ofByte?_toByte, Faulting.run_bind_ok named]

/-- Bytes that are read as an instruction start with an opcode. -/
theorem exists_opcode_of_run_ok {input rest : Bytes} {i : Instruction}
    (read : instruction.run input = (.ok i, rest)) :
    ∃ (op : Opcode) (tail : Bytes), input = op.toByte :: tail := by
  obtain ⟨first, tail, taken, later⟩ := Faulting.run_bind_eq_ok read
  cases input with
  | nil => cases taken
  | cons first' tail' =>
    cases taken
    have named := Faulting.run_orFault Fault.undefinedBehavior (Opcode.ofByte? first) tail
    cases found : Opcode.ofByte? first with
    | none =>
      rw [found] at named later
      rw [Faulting.run_bind_error named] at later
      cases later
    | some op => exact ⟨op, tail, by rw [Opcode.toByte_of_ofByte? found]⟩

/-! ## What a reader can give -/

variable {β : Type}

/-- Whatever the reader gives from this input satisfies `P`. -/
def Gives (P : α → Prop) (x : Fetch α) (input : Bytes) : Prop :=
  ∀ a rest, x.run input = (.ok a, rest) → P a

namespace Gives

variable {P : α → Prop} {Q : β → Prop} {f : α → Fetch β} {input : Bytes}

theorem pure {a : α} (holds : P a) : Gives P (Pure.pure a) input := by
  intro _ _ given
  cases given
  exact holds

theorem fail (fault : Fault) : Gives P (Faulting.fail fault) input := by
  intro _ _ given
  cases given

theorem bind (hf : ∀ a rest, x.run input = (.ok a, rest) → Gives Q (f a) rest) :
    Gives Q (x >>= f) input := by
  intro b rest given
  obtain ⟨a, middle, first, second⟩ := Faulting.run_bind_eq_ok given
  exact hf a middle first b rest second

/-- A part that says something about its result, and one that only passes it on. -/
theorem bind_pure {g : α → β} (hx : Gives (fun a => Q (g a)) x input) :
    Gives Q (x >>= fun a => Pure.pure (g a)) input :=
  .bind fun a rest given => .pure (hx a rest given)

theorem byte_bind {f : UInt8 → Fetch β}
    (hf : ∀ b tail, input = b :: tail → Gives Q (f b) tail) : Gives Q (byte >>= f) input := by
  refine .bind fun b tail given => ?_
  cases input with
  | nil => cases given
  | cons b' tail' =>
    cases given
    exact hf b tail rfl

theorem guarded {p : Prop} [Decidable p] {fault : Fault} (hx : Gives P x input) :
    Gives P (if p then Faulting.fail fault else x) input := by
  split
  · exact .fail fault
  · exact hx

end Gives

/-! ## System calls -/

/-- The reader never gives a system call. -/
def NoCall (x : Fetch Instruction) : Prop := ∀ input rest, x.run input ≠ (.ok .syscall, rest)

theorem NoCall.operation (op : Operation) : NoCall (pure (.operation op)) := by
  intro input rest read
  cases read

theorem NoCall.bind {f : α → Fetch Instruction} (hf : ∀ a, NoCall (f a)) : NoCall (x >>= f) := by
  intro input rest read
  cases first : x.run input with
  | mk outcome middle =>
    cases outcome with
    | error fault =>
      rw [Faulting.run_bind_error first] at read
      cases read
    | ok a =>
      rw [Faulting.run_bind_ok first] at read
      exact hf a middle rest read

theorem noCall_operands {op : Opcode} (other : op ≠ .syscall) : NoCall (operands op) := by
  cases op with
  | syscall => exact absurd rfl other
  | nop | hlt | ret | pushf | popf | finit => exact .operation _
  | flagOp | funary => exact .bind fun code => .bind fun change => .operation _
  | _ => exact .bind fun parts => .operation _

/-- Nothing but the opcode of a system call is read as one. -/
theorem opcode_of_run_eq_syscall {input rest : Bytes}
    (read : instruction.run input = (.ok .syscall, rest)) :
    input.head? = some Opcode.syscall.toByte := by
  obtain ⟨op, tail, rfl⟩ := exists_opcode_of_run_ok read
  rw [run_instruction_cons] at read
  by_cases call : op = .syscall
  · rw [call, List.head?_cons]
  · exact absurd read (noCall_operands call tail rest)

end Fetch

namespace Instruction

/-- The bytes `taken` are the instruction `i`, whatever comes behind them, and no shorter beginning
of them is an instruction. -/
structure Spells (taken : Bytes) (i : Instruction) : Prop where
  decode : ∀ rest, decode (taken ++ rest) = ⟨taken.length, .ok i⟩
  shortest : ∀ k < taken.length, ∀ i', (Instruction.decode (taken.take k)).result ≠ .ok i'
  pos : 0 < taken.length
  le : taken.length ≤ maxLength

/-- The bytes that were taken for an instruction are what spells it. -/
theorem exists_spells {input : Bytes} {i : Instruction} (h : (decode input).result = .ok i) :
    ∃ taken rest, input = taken ++ rest ∧ (decode input).length = taken.length ∧
      Spells taken i := by
  have read : Fetch.instruction.run input = (.ok i, (Fetch.instruction.run input).2) :=
    Prod.ext h rfl
  obtain ⟨taken, split, le, same⟩ := Fetch.takes_instruction _ _ _ read
  generalize (Fetch.instruction.run input).2 = rest at read split
  have decoded : ∀ other, decode (taken ++ other) = ⟨taken.length, .ok i⟩ := by
    intro other
    unfold decode
    rw [same other]
    simp
  refine ⟨taken, rest, split, by rw [split, decoded], decoded, ?_, ?_, le⟩
  · intro k shorter i' early
    have whole := same []
    rw [List.append_nil] at whole
    exact Fetch.takes_instruction.ne_ok_take whole shorter i' _ (Prod.ext early rfl)
  · cases taken with
    | nil => cases same []
    | cons opcode operands => exact Nat.succ_pos _

/-- The bytes of an instruction tell its length. -/
theorem Spells.length_append {taken : Bytes} {i : Instruction} (h : Spells taken i)
    (other : Bytes) : length (taken ++ other) = taken.length := by
  have decoded := h.decode other
  have read : (Instruction.decode (taken ++ other)).result = .ok i := by rw [decoded]
  rw [← (length_decode read).2, decoded]

/-- An instruction that is cut short is not read as another one. -/
theorem Spells.exists_error {taken input : Bytes} {i : Instruction} (h : Spells taken i)
    (begins : input <+: taken) (short : input ≠ taken) :
    ∃ fault, (Instruction.decode input).result = .error fault := by
  have part := List.prefix_iff_eq_take.mp begins
  have shorter : input.length < taken.length :=
    Nat.lt_of_le_of_ne begins.length_le fun same => short (begins.eq_of_length same)
  cases result : (Instruction.decode input).result with
  | error fault => exact ⟨fault, rfl⟩
  | ok i' =>
    rw [part] at result
    exact absurd result (h.shortest _ shorter i')

end Instruction

end GuestMachine
