import GuestMachine.Proofs.Instruction.Length

/-!
# Reading an address

Once the form of an address is known to be a legal one, nothing but the end of the bytes can stop
the reader. What it then gives is a function of the bytes: the registers named by one byte, and the
displacement behind it.
-/

namespace GuestMachine.Fetch

variable {α β : Type} {length : Bytes → Nat} {v : Bytes → α} {x : Fetch α}

/-- Nothing but a lack of bytes stops the reader: if there are as many as `length` says, it takes
them and gives what `v` says, and otherwise it takes what it can use. -/
def Reads (length : Bytes → Nat) (v : Bytes → α) (x : Fetch α) : Prop :=
  ∀ input, if length input ≤ input.length then
      x.run input = (.ok (v input), input.drop (length input))
    else ∃ rest, rest <:+ input ∧ x.run input = (.error .outOfBounds, rest)

namespace Reads

theorem ok (hx : Reads length v x) {input : Bytes} (long : length input ≤ input.length) :
    x.run input = (.ok (v input), input.drop (length input)) := by
  have outcome := hx input
  rwa [if_pos long] at outcome

theorem short (hx : Reads length v x) {input : Bytes} (cut : ¬length input ≤ input.length) :
    ∃ rest, rest <:+ input ∧ x.run input = (.error .outOfBounds, rest) := by
  have outcome := hx input
  rwa [if_neg cut] at outcome

theorem pure (a : α) : Reads (fun _ => 0) (fun _ => a) (Pure.pure a : Fetch α) := by
  intro input
  rw [if_pos (Nat.zero_le _)]
  rfl

/-- One reader after another needs what both need, and gives what the second gives on the rest. -/
theorem bind {k : α → Bytes → Nat} {u : α → Bytes → β} {f : α → Fetch β} (hx : Reads length v x)
    (hf : ∀ a, Reads (k a) (u a) (f a)) :
    Reads (fun input => length input + k (v input) (input.drop (length input)))
      (fun input => u (v input) (input.drop (length input))) (x >>= f) := by
  intro input
  dsimp only
  by_cases front : length input ≤ input.length
  · rw [Faulting.run_bind_ok (hx.ok front)]
    have rest : (input.drop (length input)).length = input.length - length input :=
      List.length_drop
    by_cases back : k (v input) (input.drop (length input)) ≤ (input.drop (length input)).length
    · rw [if_pos (by omega), (hf _).ok back, List.drop_drop]
    · rw [if_neg (by omega)]
      obtain ⟨left, suffix, cut⟩ := (hf _).short back
      exact ⟨left, suffix.trans (List.drop_suffix _ _), cut⟩
  · rw [if_neg (by omega)]
    obtain ⟨left, suffix, cut⟩ := hx.short front
    exact ⟨left, suffix, Faulting.run_bind_error cut⟩

end Reads

theorem reads_byte : Reads (fun _ => 1) (fun input => input.headD 0) byte := by
  intro input
  cases input with
  | nil => exact ⟨[], List.suffix_rfl, rfl⟩
  | cons b tail => exact if_pos (Nat.le_add_left 1 _) ▸ rfl

theorem reads_value (w : Width) :
    Reads (fun _ => w.bytes) (fun input => Bytes.toWord (input.take w.bytes)) (value w) := by
  intro input
  dsimp only [value, Faulting.run]
  split
  · rfl
  · exact ⟨input, List.suffix_rfl, rfl⟩

/-- The body of the immediate at the front, as a word. -/
def immediateBody (input : Bytes) : UInt64 :=
  Bytes.toWord ((input.drop 1).take (ImmediateForm.ofByte (input.headD 0)).width.bytes)

/-- The word that the immediate at the front stands for. -/
def immediateAt (input : Bytes) : UInt64 :=
  (ImmediateForm.ofByte (input.headD 0)).widen (immediateBody input)

theorem reads_immediate : Reads immediateLength immediateAt immediate :=
  reads_byte.bind fun b => (reads_value (ImmediateForm.ofByte b).width).bind fun body =>
    .pure ((ImmediateForm.ofByte b).widen body)

/-- The registers that the byte at the front names, as far as they take part. -/
def registersAt (form : AddressForm) (input : Bytes) :
    Option (Register × UInt8) × Option Register :=
  (if form.hasBase then some ((Register.pair (input.headD 0)).1, form.scale) else none,
    if form.hasIndex then some (Register.pair (input.headD 0)).2 else none)

theorem reads_addressRegisters (form : AddressForm) :
    Reads (fun _ => registersLength form) (registersAt form) (addressRegisters form) := by
  unfold addressRegisters registersLength
  split
  · exact reads_byte.bind fun b => .pure _
  · next absent =>
    obtain ⟨base, index⟩ : form.hasBase = false ∧ form.hasIndex = false := by
      simpa [AddressForm.hasRegisters] using absent
    have unnamed : registersAt form = fun _ => (none, none) := by
      funext input
      simp [registersAt, base, index]
    rw [unnamed]
    exact .pure _

/-- The displacement at the front, zero if there is none. -/
def displacementAt (form : AddressForm) (input : Bytes) : UInt64 :=
  if form.hasDisplacement then immediateAt input else 0

/-- The address whose registers and displacement are at the front. -/
def addressAt (form : AddressForm) (input : Bytes) : Address where
  width := form.width
  displacement := displacementAt form (input.drop (registersLength form))
  base := (registersAt form input).1
  index := (registersAt form input).2

theorem reads_addressBody (form : AddressForm) :
    Reads (addressBodyLength form) (addressAt form) (addressBody form) := by
  have displaced : ∀ registers : Option (Register × UInt8) × Option Register,
      Reads (displacementLength form)
        (fun input => Address.mk form.width (displacementAt form input) registers.1 registers.2)
        (if form.hasDisplacement then do
            return ⟨form.width, ← immediate, registers.1, registers.2⟩
          else pure ⟨form.width, 0, registers.1, registers.2⟩) := by
    intro registers
    unfold displacementLength displacementAt
    split
    · exact reads_immediate.bind fun displacement => .pure _
    · exact .pure _
  exact (reads_addressRegisters form).bind displaced

/-- A form with a width of one byte is refused before anything else is read. -/
theorem run_address_cons (b : UInt8) (tail : Bytes) :
    address.run (b :: tail) =
      if (AddressForm.ofByte b).width = .byte then (.error .undefinedBehavior, tail)
      else (addressBody (AddressForm.ofByte b)).run tail := by
  show (if (AddressForm.ofByte b).width = .byte then (Faulting.fail .undefinedBehavior)
    else addressBody (AddressForm.ofByte b) : Fetch Address).run tail = _
  split <;> rfl

theorem run_address_of_byte {input : Bytes} (readable : input ≠ [])
    (illegal : (AddressForm.ofByte (input.headD 0)).width = .byte) :
    address.run input = (.error .undefinedBehavior, input.tail) := by
  cases input with
  | nil => exact absurd rfl readable
  | cons b tail =>
    rw [run_address_cons]
    exact if_pos illegal

/-- An address of any other form is read unless the bytes run out. -/
theorem run_address_of_ne_byte (input : Bytes)
    (legal : (AddressForm.ofByte (input.headD 0)).width ≠ .byte) :
    if addressLength input ≤ input.length then
      address.run input = (.ok (addressAt (AddressForm.ofByte (input.headD 0)) input.tail),
        input.drop (addressLength input))
    else ∃ rest, rest <:+ input ∧ address.run input = (.error .outOfBounds, rest) := by
  cases input with
  | nil => exact absurd rfl legal
  | cons b tail =>
    have body := reads_addressBody (AddressForm.ofByte b) tail
    have length : addressLength (b :: tail) = addressBodyLength (AddressForm.ofByte b) tail + 1 :=
      Nat.add_comm _ _
    rw [List.headD_cons] at legal ⊢
    rw [run_address_cons, if_neg legal, length, List.length_cons]
    simp only [Nat.add_le_add_iff_right, List.tail_cons, List.drop_succ_cons]
    split at body
    · next long => rwa [if_pos long]
    · next short =>
      obtain ⟨rest, suffix, cut⟩ := body
      rw [if_neg short]
      exact ⟨rest, suffix.trans (List.suffix_cons b tail), cut⟩

/-- Bytes behind an address change nothing. -/
theorem run_address_append {input : Bytes} (long : addressLength input ≤ input.length)
    (other : Bytes) : address.run (input ++ other) =
      ((address.run input).1, (address.run input).2 ++ other) := by
  cases input with
  | nil => cases long
  | cons b tail =>
    by_cases byte : (AddressForm.ofByte b).width = .byte
    · rw [List.cons_append, run_address_cons, run_address_cons, if_pos byte, if_pos byte]
    · have read := run_address_of_ne_byte (b :: tail) byte
      rw [if_pos long] at read
      obtain ⟨-, -, same⟩ := spans_address _ _ _ read
      rw [read, ← same, ← List.append_assoc, List.take_append_drop]

/-- No more than the first eleven bytes matter, neither to the address nor to its length. -/
theorem run_address_take (input : Bytes) {n : Nat} (enough : 11 ≤ n) :
    (address.run (input.take n)).1 = (address.run input).1 ∧
      (input.take n).length - (address.run (input.take n)).2.length =
        input.length - (address.run input).2.length := by
  rcases Nat.le_total input.length n with short | long
  · rw [List.take_of_length_le short]
    exact ⟨rfl, rfl⟩
  · have inside : addressLength (input.take n) ≤ (input.take n).length := by
      rw [List.length_take_of_le long]
      exact Nat.le_trans (addressLength_le _) enough
    have whole := run_address_append inside (input.drop n)
    have length := congrArg List.length (List.take_append_drop n input)
    rw [List.take_append_drop] at whole
    rw [whole]
    rw [List.length_append] at length ⊢
    exact ⟨rfl, by omega⟩

/-- Only bytes at the front are ever taken. -/
theorem suffix_address (input : Bytes) : (address.run input).2 <:+ input := by
  cases input with
  | nil => exact List.suffix_rfl
  | cons b tail =>
    by_cases byte : (AddressForm.ofByte b).width = .byte
    · rw [run_address_cons, if_pos byte]
      exact List.suffix_cons b tail
    · have outcome := run_address_of_ne_byte (b :: tail) byte
      split at outcome
      · rw [outcome]
        exact List.drop_suffix _ _
      · obtain ⟨rest, suffix, cut⟩ := outcome
        rw [cut]
        exact suffix

end GuestMachine.Fetch
