import GuestMachine.Proofs.EffectiveAddress

/-!
# Memory operands

An instruction names at most one address, whatever it uses it for, and it is the last thing that is
read of the instruction. When the instruction is executed, the address is resolved by the registers
as they were before it, whatever else the instruction does to them. So every memory operand is the
address that `Exec.fetchAddress` gives at its place.
-/

namespace GuestMachine

/-! ## The addresses that an operation names -/

namespace Address

/-- The address that is `value`, whatever is in the registers. -/
def absolute (value : UInt64) : Address := ⟨.qword, value, none, none⟩

@[simp] theorem resolve_absolute (value : UInt64) (r : Registers) :
    (absolute value).resolve r = value := by
  simp [absolute, resolve, Width.truncate_qword]

end Address

namespace Place

def addresses : Place → List Address
  | .register _ => []
  | .memory a => [a]

def mapAddresses (f : Address → Address) : Place → Place
  | .register r => .register r
  | .memory a => .memory (f a)

@[simp] theorem addresses_mapAddresses (f : Address → Address) (p : Place) :
    (p.mapAddresses f).addresses = p.addresses.map f := by
  cases p <;> rfl

end Place

namespace Source

def addresses : Source → List Address
  | .register _ | .immediate _ => []
  | .memory a => [a]

def mapAddresses (f : Address → Address) : Source → Source
  | .register r => .register r
  | .immediate value => .immediate value
  | .memory a => .memory (f a)

@[simp] theorem addresses_mapAddresses (f : Address → Address) (src : Source) :
    (src.mapAddresses f).addresses = src.addresses.map f := by
  cases src <;> rfl

end Source

namespace FloatSource

def addresses : FloatSource → List Address
  | .entry _ | .constant _ => []
  | .double a | .single a | .integer a => [a]

def mapAddresses (f : Address → Address) : FloatSource → FloatSource
  | .entry i => .entry i
  | .double a => .double (f a)
  | .single a => .single (f a)
  | .integer a => .integer (f a)
  | .constant value => .constant value

@[simp] theorem addresses_mapAddresses (f : Address → Address) (src : FloatSource) :
    (src.mapAddresses f).addresses = src.addresses.map f := by
  cases src <;> rfl

end FloatSource

namespace FloatTarget

def addresses : FloatTarget → List Address
  | .entry _ => []
  | .double a | .single a | .integer a => [a]

def mapAddresses (f : Address → Address) : FloatTarget → FloatTarget
  | .entry i => .entry i
  | .double a => .double (f a)
  | .single a => .single (f a)
  | .integer a => .integer (f a)

@[simp] theorem addresses_mapAddresses (f : Address → Address) (dst : FloatTarget) :
    (dst.mapAddresses f).addresses = dst.addresses.map f := by
  cases dst <;> rfl

end FloatTarget

namespace FloatOperands

def addresses : FloatOperands → List Address
  | .top _ | .entry _ _ => []
  | .memory a => [a]

def mapAddresses (f : Address → Address) : FloatOperands → FloatOperands
  | .top i => .top i
  | .entry i pop => .entry i pop
  | .memory a => .memory (f a)

@[simp] theorem addresses_mapAddresses (f : Address → Address) (operands : FloatOperands) :
    (operands.mapAddresses f).addresses = operands.addresses.map f := by
  cases operands <;> rfl

end FloatOperands

namespace Operation

/-- The addresses among the operands. -/
def addresses : Operation → List Address
  | .lea _ _ a => [a]
  | .mov _ dst src | .binary _ _ dst src => dst.addresses ++ src.addresses
  | .xchg _ _ place | .unary _ _ place | .pop _ place => place.addresses
  | .jmp _ src | .jcc _ _ src | .loopCc _ _ _ src | .call _ src | .push _ src => src.addresses
  | .fld src => src.addresses
  | .fst dst _ => dst.addresses
  | .farith _ operands => operands.addresses
  | _ => []

/-- The same operation on other addresses. -/
def mapAddresses (f : Address → Address) : Operation → Operation
  | .lea w dst a => .lea w dst (f a)
  | .mov w dst src => .mov w (dst.mapAddresses f) (src.mapAddresses f)
  | .xchg w r place => .xchg w r (place.mapAddresses f)
  | .binary op w dst src => .binary op w (dst.mapAddresses f) (src.mapAddresses f)
  | .unary op w place => .unary op w (place.mapAddresses f)
  | .jmp w src => .jmp w (src.mapAddresses f)
  | .jcc cond w src => .jcc cond w (src.mapAddresses f)
  | .loopCc kind counter w src => .loopCc kind counter w (src.mapAddresses f)
  | .call w src => .call w (src.mapAddresses f)
  | .push w src => .push w (src.mapAddresses f)
  | .pop w place => .pop w (place.mapAddresses f)
  | .fld src => .fld (src.mapAddresses f)
  | .fst dst popped => .fst (dst.mapAddresses f) popped
  | .farith op operands => .farith op (operands.mapAddresses f)
  | op => op

@[simp] theorem addresses_mapAddresses (f : Address → Address) (op : Operation) :
    (op.mapAddresses f).addresses = op.addresses.map f := by
  cases op <;> simp [mapAddresses, addresses]

/-- The operation with its addresses replaced by what they come to by the registers `r`. -/
def resolved (r : Registers) (op : Operation) : Operation :=
  op.mapAddresses fun a => .absolute (a.resolve r)

end Operation

/-! ## Reading -/

namespace Fetch

variable {α β : Type} {length : Bytes → Nat} {x : Fetch α}

/-- What the reader gives names no address, or the one that it took last. -/
def Names (addresses : α → List Address) (x : Fetch α) : Prop :=
  ∀ input result rest, x.run input = (.ok result, rest) →
    addresses result = [] ∨ ∃ a head tail, addresses result = [a] ∧ input = head ++ tail ∧
      address.run tail = (.ok a, rest)

namespace Names

variable {addresses : α → List Address} {later : β → List Address}

theorem pure {a : α} (none : addresses a = []) : Names addresses (Pure.pure a) := by
  intro input result rest read
  cases read
  exact .inl none

theorem fail (fault : Fault) : Names addresses (Faulting.fail fault) := by
  intro input result rest read
  cases read

theorem bind {f : α → Fetch β} (hx : Spans length x) (hf : ∀ a, Names later (f a)) :
    Names later (x >>= f) := by
  intro input result rest read
  obtain ⟨a, middle, first, second⟩ := Faulting.run_bind_eq_ok read
  obtain ⟨-, rfl, -⟩ := hx input a middle first
  rcases hf a _ result rest second with none | ⟨last, head, tail, named, split, taken⟩
  · exact .inl none
  · refine .inr ⟨last, input.take (length input) ++ head, tail, named, ?_, taken⟩
    rw [List.append_assoc, ← split, List.take_append_drop]

/-- A part that names an address, and one that only passes it on. -/
theorem map (hx : Names addresses x) (g : α → β) (same : ∀ a, later (g a) = addresses a) :
    Names later (x >>= fun a => Pure.pure (g a)) := by
  intro input result rest read
  obtain ⟨a, middle, first, second⟩ := Faulting.run_bind_eq_ok read
  cases second
  rw [same]
  exact hx input a _ first

theorem orFault_bind {fault : Fault} {o : Option α} {f : α → Fetch β}
    (hf : ∀ a, Names later (f a)) : Names later (Faulting.orFault fault o >>= f) := by
  cases o with
  | none => exact fail fault
  | some a => exact hf a

theorem guarded {p : Prop} [Decidable p] {fault : Fault} (hx : Names addresses x) :
    Names addresses (if p then Faulting.fail fault else x) := by
  split
  · exact fail fault
  · exact hx

end Names

theorem names_address {addresses : α → List Address} (g : Address → α)
    (named : ∀ a, addresses (g a) = [a]) :
    Names addresses (address >>= fun a => pure (g a)) :=
  have whole : Names (fun a => [a]) address :=
    fun input a _ read => .inr ⟨a, [], input, rfl, rfl, read⟩
  whole.map g named

theorem names_binary : Names (fun (_, dst, src) => dst.addresses ++ src.addresses) binary := by
  refine .bind spans_byte fun b => ?_
  dsimp only
  rcases OperandForm.mode_cases b with mode | mode | mode | mode <;> rw [mode]
  · exact .bind spans_byte fun _ => .pure rfl
  · exact .bind spans_immediate fun _ => .pure rfl
  · exact names_address _ fun _ => rfl
  · exact names_address _ fun _ => rfl

theorem names_unary : Names (fun (_, dst) => dst.addresses) unary := by
  refine .bind spans_byte fun b => ?_
  dsimp only
  split
  · exact .pure rfl
  · exact names_address _ fun _ => rfl

theorem names_exchange : Names (fun (_, _, other) => other.addresses) exchange := by
  refine .bind spans_byte fun b => ?_
  dsimp only
  split
  · exact .bind spans_byte fun _ => .pure rfl
  · exact names_address _ fun _ => rfl

theorem names_target : Names (fun (_, src) => src.addresses) target := by
  refine .bind spans_byte fun b => .guarded ?_
  split
  · exact .pure rfl
  · exact .bind spans_immediate fun _ => .pure rfl
  · exact names_address _ fun _ => rfl
  · exact .fail _

theorem names_popTarget : Names Operation.addresses popTarget := by
  refine .bind spans_byte fun b => .guarded ?_
  split
  · exact .pure rfl
  · exact names_address _ fun _ => rfl
  · exact .fail _

theorem names_floatLoad : Names Operation.addresses floatLoad := by
  refine .bind spans_byte fun b => ?_
  split
  · exact .pure rfl
  · exact names_address _ fun _ => rfl
  · exact names_address _ fun _ => rfl
  · exact names_address _ fun _ => rfl
  · exact .orFault_bind fun _ => .pure rfl
  · exact .fail _

theorem names_floatStore : Names Operation.addresses floatStore := by
  refine .bind spans_byte fun b => ?_
  dsimp only
  split
  · exact .pure rfl
  · exact names_address _ fun _ => rfl
  · exact names_address _ fun _ => rfl
  · exact names_address _ fun _ => rfl
  · exact .fail _

theorem names_floatArithmetic : Names Operation.addresses floatArithmetic := by
  refine .bind spans_byte fun b => .orFault_bind fun op => ?_
  dsimp only
  split
  · exact .pure rfl
  · exact .pure rfl
  · exact .pure rfl
  · exact names_address _ fun _ => rfl

theorem names_floatStackChange : Names Operation.addresses floatStackChange := by
  refine .bind spans_byte fun b => ?_
  split
  · exact .pure rfl
  · exact .pure rfl
  · exact .pure rfl
  · exact .fail _

end Fetch

/-- The addresses among the operands of an instruction. -/
def Instruction.addresses : Instruction → List Address
  | .syscall => []
  | .operation op => op.addresses

namespace Fetch

theorem names_operands (op : Opcode) : Names Instruction.addresses (operands op) := by
  cases op with
  | syscall | nop | hlt | ret | pushf | popf | finit => exact .pure rfl
  | lea =>
    have named : Names Operation.addresses effectiveAddress :=
      .bind spans_byte fun _ => .guarded (names_address _ fun _ => rfl)
    exact named.map _ fun _ => rfl
  | mov => exact names_binary.map _ fun _ => rfl
  | xchg => exact names_exchange.map _ fun _ => rfl
  | add | sub | and | or | xor | cmp | test | imul =>
    have named (op : BinaryOp) : Names Operation.addresses (binaryOperation op) :=
      names_binary.map _ fun _ => rfl
    exact (named _).map _ fun _ => rfl
  | inc | dec | neg | not =>
    have named (op : UnaryOp) : Names Operation.addresses (unaryOperation op) :=
      names_unary.map _ fun _ => rfl
    exact (named _).map _ fun _ => rfl
  | jmp | call | push => exact names_target.map _ fun _ => rfl
  | jcc =>
    have named : Names Operation.addresses conditionalJump :=
      .bind spans_byte fun _ => .orFault_bind fun _ => names_target.map _ fun _ => rfl
    exact named.map _ fun _ => rfl
  | loopCc =>
    have named : Names Operation.addresses countingLoop :=
      .bind spans_byte fun _ => .guarded (.orFault_bind fun _ => names_target.map _ fun _ => rfl)
    exact named.map _ fun _ => rfl
  | pop => exact names_popTarget.map _ fun _ => rfl
  | flagOp | funary => exact .bind spans_byte fun _ => .orFault_bind fun _ => .pure rfl
  | fld => exact names_floatLoad.map _ fun _ => rfl
  | fst => exact names_floatStore.map _ fun _ => rfl
  | fxch | fcomi => exact .bind spans_byte fun _ => .pure rfl
  | farith => exact names_floatArithmetic.map _ fun _ => rfl
  | fstack => exact names_floatStackChange.map _ fun _ => rfl

theorem names_instruction : Names Instruction.addresses instruction :=
  .bind spans_byte fun _ => .orFault_bind names_operands

end Fetch

/-! ## Execution -/

namespace Faulting

variable {σ α β : Type} {x y : Faulting σ α} {f g : α → Faulting σ β} {s : σ}

/-- Computations that start alike go on alike. -/
theorem run_bind_congr (same : x.run s = y.run s) (f : α → Faulting σ β) :
    (x >>= f).run s = (y >>= f).run s := by
  rw [run_bind, run_bind, same]

/-- Behind a part that only looks, the state is what it was. -/
theorem run_bind_congr_right (hx : Observes x) (same : ∀ a, (f a).run s = (g a).run s) :
    (x >>= f).run s = (x >>= g).run s := by
  have kept := hx s
  rw [run_bind, run_bind]
  cases first : x.run s with
  | mk result s' =>
    rw [first] at kept
    subst kept
    cases result with
    | error fault => rfl
    | ok a => exact same a

end Faulting

namespace Exec

open Faulting (run_bind_congr run_bind_congr_right Observes)

variable {c : Core}

theorem run_resolve_resolved (a : Address) (c : Core) :
    (resolve (.absolute (a.resolve c.registers))).run c = (resolve a).run c :=
  congrArg (fun value => (Except.ok value, c)) (Address.resolve_absolute _ _)

theorem run_locate_resolved (p : Place) (c : Core) :
    (locate (p.mapAddresses fun a => .absolute (a.resolve c.registers))).run c =
      (locate p).run c := by
  cases p with
  | register r => rfl
  | memory a =>
    exact congrArg (fun value => (Except.ok (Location.memory value), c))
      (Address.resolve_absolute _ _)

theorem run_source_resolved (w : Width) (src : Source) (c : Core) :
    (source w (src.mapAddresses fun a => .absolute (a.resolve c.registers))).run c =
      (source w src).run c := by
  cases src with
  | register r => rfl
  | immediate value => rfl
  | memory a => exact run_bind_congr (run_resolve_resolved a c) _

theorem run_floatSource_resolved (src : FloatSource) (c : Core) :
    (floatSource (src.mapAddresses fun a => .absolute (a.resolve c.registers))).run c =
      (floatSource src).run c := by
  cases src with
  | entry i => rfl
  | constant value => rfl
  | double a | single a | integer a => exact run_bind_congr (run_resolve_resolved a c) _

theorem run_storeFloat_resolved (value : Double) (dst : FloatTarget) (c : Core) :
    (storeFloat value (dst.mapAddresses fun a => .absolute (a.resolve c.registers))).run c =
      (storeFloat value dst).run c := by
  cases dst with
  | entry i => rfl
  | double a | single a | integer a => exact run_bind_congr (run_resolve_resolved a c) _

/-- An operation does what it would do on the addresses that its operands come to before it. -/
theorem run_execute_resolved (op : Operation) (c : Core) :
    (execute (op.resolved c.registers)).run c = (execute op).run c := by
  cases op with
  | lea w dst a => exact run_bind_congr (run_resolve_resolved a c) _
  | mov w dst src =>
    refine (run_bind_congr (run_locate_resolved dst c) _).trans ?_
    exact run_bind_congr_right (.read _) fun _ => run_bind_congr (run_source_resolved w src c) _
  | binary op w dst src =>
    refine (run_bind_congr (run_locate_resolved dst c) _).trans ?_
    exact run_bind_congr_right (.read _) fun _ => run_bind_congr (run_source_resolved w src c) _
  | xchg w r place | unary op w place | pop w place =>
    exact run_bind_congr (run_locate_resolved place c) _
  | jmp w src | jcc cond w src | loopCc kind counter w src | call w src | push w src =>
    exact run_bind_congr (run_source_resolved w src c) _
  | fld src => exact run_bind_congr (run_floatSource_resolved src c) _
  | fst dst popped =>
    exact run_bind_congr_right (.query _) fun value =>
      run_bind_congr (run_storeFloat_resolved value dst c) _
  | farith op operands =>
    cases operands with
    | top i => rfl
    | entry i popped => rfl
    | memory a => exact run_bind_congr (run_resolve_resolved a c) _
  | _ => rfl

end Exec

namespace Machine

variable {table : SyscallTable} {m : Machine} {op : Operation}

/-- What is read in the window is read from the bytes ahead. -/
theorem run_instruction_ahead {i : Instruction}
    (decoded : (Instruction.decode m.window).result = .ok i) :
    ∃ rest, Fetch.instruction.run m.core.ahead = (.ok i, rest) ∧
      (Instruction.decode m.window).length + rest.length = m.core.ahead.length := by
  have same := Fetch.takes_instruction.run_take (Nat.le_refl _) m.core.ahead i
  rw [← window_eq_take] at same
  have result := same.mp decoded
  cases read : Fetch.instruction.run m.core.ahead with
  | mk outcome rest =>
    obtain rfl : outcome = .ok i := by rwa [read] at result
    obtain ⟨taken, split, le, again⟩ := Fetch.takes_instruction _ _ _ read
    have window : m.window = taken ++ rest.take (Instruction.maxLength - taken.length) := by
      rw [window_eq_take, split, List.take_append, List.take_of_length_le le]
    have length : (Instruction.decode m.window).length = taken.length := by
      rw [window]
      unfold Instruction.decode
      rw [again]
      simp
    exact ⟨rest, rfl, by rw [length, split, List.length_append]⟩

/-- A step that has read an operation has read at most one address for it, and has read it last and
as `Exec.fetchAddress` does. It then does what the operation does on the address that
`Exec.fetchAddress` gives, whatever else becomes of the registers. -/
theorem run_step_resolved (small : m.core.memory.size < UInt64.size) (executes : m.Executes op) :
    let resolved := op.resolved m.core.registers
    (step table).run m = (onCore (Exec.execute resolved)).run m.fetched ∧
    (op.addresses = [] ∨ ∃ k address, resolved.addresses = [.absolute address] ∧
      Exec.fetchAddress.run (m.core.past k) = (.ok address, m.fetched.core)) := by
  intro resolved
  constructor
  · have same : (Exec.execute resolved).run m.fetched.core = (Exec.execute op).run m.fetched.core :=
      Exec.run_execute_resolved op m.fetched.core
    rw [run_step_of_executes executes, run_onCore, run_onCore, same]
  · obtain ⟨rest, read, length⟩ := run_instruction_ahead executes.2
    rcases Fetch.names_instruction _ _ _ read with none | ⟨a, head, tail, named, split, taken⟩
    · exact .inl none
    · have suffix : rest.length ≤ tail.length := by
        have suffix := (Fetch.suffix_address tail).length_le
        rwa [taken] at suffix
      rw [split, List.length_append] at length
      have ahead : (m.core.past head.length).ahead = tail := by
        rw [Core.ahead_past (by simp [split]) small, split, List.drop_left]
      have behind : head.length + (tail.length - rest.length) =
          (Instruction.decode m.window).length := by omega
      refine .inr ⟨head.length, a.resolve m.core.registers, ?_, ?_⟩
      · have named : op.addresses = [a] := named
        show (op.mapAddresses _).addresses = _
        rw [Operation.addresses_mapAddresses, named]
        rfl
      · rw [Exec.run_fetchAddress, ahead, taken, Core.past_past, behind]
        rfl

end Machine

end GuestMachine
