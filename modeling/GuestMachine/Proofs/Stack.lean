import GuestMachine.Proofs.Core.Stack
import GuestMachine.Proofs.Core.Write

/-!
# The stack of a process

How much the stack takes, and what comes back from it. Values of mixed widths are pushed until
the next one would pass the stack barrier; they are popped in reverse order, each cut off at its
width.
-/

namespace GuestMachine

/-- The stack pointer stands on the stack: not below the stack barrier, not past the end of
memory. No read-only memory is part of the stack. -/
structure Core.StackReady (c : Core) : Prop where
  apart : c.memory.readonlyBarrier ≤ c.memory.stackBarrier
  above : c.memory.stackBarrier ≤ (c.registers.get .rsp).toNat
  inside : (c.registers.get .rsp).toNat ≤ c.memory.size

/-- The bytes that can still be pushed. -/
def Core.room (c : Core) : Nat := (c.registers.get .rsp).toNat - c.memory.stackBarrier

/-- `c'` is `c` with `n` more bytes on its stack; nothing outside of them is written. -/
structure Core.Grown (c c' : Core) (n : Nat) : Prop where
  depth : (c'.registers.get .rsp).toNat + n = (c.registers.get .rsp).toNat
  size : c'.memory.size = c.memory.size
  exeBarrier : c'.memory.exeBarrier = c.memory.exeBarrier
  readonlyBarrier : c'.memory.readonlyBarrier = c.memory.readonlyBarrier
  stackBarrier : c'.memory.stackBarrier = c.memory.stackBarrier
  bytes : ∀ i, i < (c'.registers.get .rsp).toNat ∨ (c.registers.get .rsp).toNat ≤ i →
    c'.memory.bytes[i]? = c.memory.bytes[i]?

namespace Core.Grown

variable {c c' c'' : Core} {n k : Nat}

theorem refl (c : Core) : Grown c c 0 := ⟨rfl, rfl, rfl, rfl, rfl, fun _ _ => rfl⟩

theorem trans (first : Grown c c' n) (second : Grown c' c'' k) : Grown c c'' (n + k) where
  depth := by
    have upper := first.depth
    have lower := second.depth
    omega
  size := second.size.trans first.size
  exeBarrier := second.exeBarrier.trans first.exeBarrier
  readonlyBarrier := second.readonlyBarrier.trans first.readonlyBarrier
  stackBarrier := second.stackBarrier.trans first.stackBarrier
  bytes i outside := by
    have upper := first.depth
    have lower := second.depth
    rw [second.bytes i (by omega), first.bytes i (by omega)]

theorem room (grown : Grown c c' n) : c'.room = c.room - n := by
  have depth := grown.depth
  unfold Core.room
  rw [grown.stackBarrier]
  omega

theorem ready (grown : Grown c c' n) (fits : n ≤ c.room) (ready : c.StackReady) :
    c'.StackReady := by
  have depth := grown.depth
  have above := ready.above
  have inside := ready.inside
  unfold Core.room at fits
  constructor
  · rw [grown.readonlyBarrier, grown.stackBarrier]
    exact ready.apart
  · rw [grown.stackBarrier]
    omega
  · rw [grown.size]
    omega

end Core.Grown

/-- The bytes that values of mixed widths take on the stack. -/
def stackBytes : List (Width × UInt64) → Nat
  | [] => 0
  | (w, _) :: rest => w.bytes + stackBytes rest

namespace Exec

/-- Pushes values one after another. -/
def pushAll : List (Width × UInt64) → Exec Unit
  | [] => pure ()
  | (w, value) :: rest => do
    push w value
    pushAll rest

/-- Pops values of the given widths one after another. -/
def popAll : List Width → Exec (List UInt64)
  | [] => pure []
  | w :: rest => do
    let value ← pop w
    let values ← popAll rest
    return value :: values

variable {c c' : Core} {w : Width}

/-! ## One push, one pop -/

theorem pushTarget?_of_room (fits : w.bytes ≤ c.room) :
    pushTarget? c.memory.stackBarrier (c.registers.get .rsp) w.bytes =
      some (c.registers.get .rsp - UInt64.ofNat w.bytes) := by
  have positive := w.bytes_pos
  unfold Core.room at fits
  exact if_pos (by omega)

theorem pushTarget?_of_full (full : c.room < w.bytes) (above : c.StackReady) :
    pushTarget? c.memory.stackBarrier (c.registers.get .rsp) w.bytes = none := by
  have above := above.above
  unfold Core.room at full
  exact if_neg (by omega)

theorem toNat_ofNat_bytes (w : Width) : (UInt64.ofNat w.bytes).toNat = w.bytes := by
  cases w <;> rfl

theorem toNat_sub_bytes {rsp : UInt64} (le : w.bytes ≤ rsp.toNat) :
    (rsp - UInt64.ofNat w.bytes).toNat = rsp.toNat - w.bytes := by
  have le' : UInt64.ofNat w.bytes ≤ rsp := by
    rw [UInt64.le_iff_toNat_le, toNat_ofNat_bytes]
    exact le
  rw [UInt64.toNat_sub_of_le _ _ le', toNat_ofNat_bytes]

theorem grown_pushed (value : UInt64) (le : w.bytes ≤ (c.registers.get .rsp).toNat) :
    Core.Grown c (pushed w (c.registers.get .rsp - UInt64.ofNat w.bytes) value c) w.bytes := by
  have number := toNat_sub_bytes le
  have stored : (pushed w (c.registers.get .rsp - UInt64.ofNat w.bytes) value c).registers.get
      .rsp = c.registers.get .rsp - UInt64.ofNat w.bytes := Registers.get_set_self _ _ _
  constructor
  · rw [stored, number]
    omega
  · exact Memory.size_patch _ _ _
  · rfl
  · rfl
  · rfl
  · intro i outside
    rw [stored] at outside
    apply Memory.getElem?_patch_of_outside
    rw [Bytes.length_ofNat]
    omega

/-- A push that fits is done. The barriers are in order, so its slot is writable. -/
theorem run_push_of_room (value : UInt64) (ready : c.StackReady) (fits : w.bytes ≤ c.room) :
    (push w value).run c =
      (.ok (), pushed w (c.registers.get .rsp - UInt64.ofNat w.bytes) value c) := by
  have apart := ready.apart
  have above := ready.above
  have inside := ready.inside
  have target := pushTarget?_of_room fits
  unfold Core.room at fits
  have number : (c.registers.get .rsp - UInt64.ofNat w.bytes).toNat =
      (c.registers.get .rsp).toNat - w.bytes := toNat_sub_bytes (by omega)
  have writable : c.memory.writeFault? (c.registers.get .rsp - UInt64.ofNat w.bytes) w.bytes =
      none := by
    rw [Memory.writeFault?_eq_none, number]
    omega
  rw [run_push, target]
  dsimp only
  rw [writable]

/-- A push that does not fit changes nothing. -/
theorem run_push_of_full (value : UInt64) (ready : c.StackReady) (full : c.room < w.bytes) :
    (push w value).run c = (.error .stackOverflow, c) := by
  rw [run_push, pushTarget?_of_full full ready]

/-- Below the read-only barrier the stack barrier is met first. -/
theorem push_ne_accessViolation (value : UInt64)
    (apart : c.memory.readonlyBarrier ≤ c.memory.stackBarrier) :
    ((push w value).run c).1 ≠ .error .accessViolation := by
  rw [run_push]
  split
  · simp
  · next slot target =>
    have above : c.memory.stackBarrier ≤ slot.toNat := by
      have chosen := pushTarget?_eq_some target
      unfold pushTarget? at target
      split at target
      · next room => rw [chosen, toNat_sub_bytes room.1]; exact room.2
      · cases target
    have writable : ¬slot.toNat < c.memory.readonlyBarrier := by omega
    rw [Memory.writeFault?, if_neg writable, Memory.readFault?]
    by_cases fits : slot.toNat + w.bytes ≤ c.memory.size
    · rw [if_pos fits]
      simp
    · rw [if_neg fits]
      simp

/-- All outcomes of a pop, by where its slot lies. -/
theorem run_pop_cases (w : Width) (c : Core) :
    (pop w).run c =
      if (c.registers.get .rsp).toNat < c.memory.stackBarrier then (.error .stackOverflow, c)
      else if c.memory.size < (c.registers.get .rsp).toNat + w.bytes then (.error .outOfBounds, c)
      else (.ok (Bytes.toWord (c.memory.slice (c.registers.get .rsp).toNat w.bytes)),
        popped w c) := by
  rw [run_pop, Memory.read_eq]
  by_cases outside : c.memory.size < (c.registers.get .rsp).toNat + w.bytes
  · rw [if_neg (Nat.not_le_of_lt outside), if_pos outside]
  · rw [if_pos (Nat.le_of_not_lt outside), if_neg outside]

theorem pop_eq_stackOverflow (w : Width) (c : Core) :
    ((pop w).run c).1 = .error .stackOverflow ↔
      (c.registers.get .rsp).toNat < c.memory.stackBarrier := by
  rw [run_pop_cases]
  split
  · next below => simp [below]
  · next above => split <;> simp [above]

theorem pop_eq_outOfBounds (w : Width) (c : Core) :
    ((pop w).run c).1 = .error .outOfBounds ↔
      c.memory.stackBarrier ≤ (c.registers.get .rsp).toNat ∧
        c.memory.size < (c.registers.get .rsp).toNat + w.bytes := by
  rw [run_pop_cases]
  split
  · next below => simp [below]
  · next above =>
    split
    · next outside => simp [Nat.le_of_not_lt above, outside]
    · next inside => simp [Nat.le_of_not_lt inside]

/-- A slot inside of memory ends inside of memory, so the stack pointer does not wrap around. -/
theorem toNat_rsp_popped (addressable : c.memory.size < UInt64.size)
    (inside : (c.registers.get .rsp).toNat + w.bytes ≤ c.memory.size) :
    ((popped w c).registers.get .rsp).toNat = (c.registers.get .rsp).toNat + w.bytes := by
  rw [popped, Registers.get_set_self, UInt64.toNat_add, toNat_ofNat_bytes]
  exact Nat.mod_eq_of_lt (Nat.lt_of_le_of_lt inside addressable)

/-- A value that was pushed is popped again as long as nothing at or above its slot is written. -/
theorem run_pop_of_pushed {n : Nat} {value : UInt64} {c₁ : Core} (ready : c.StackReady)
    (fits : w.bytes ≤ c.room)
    (first : c₁ = pushed w (c.registers.get .rsp - UInt64.ofNat w.bytes) value c)
    (rest : Core.Grown c₁ c' n) :
    (pop w).run { c' with registers := c₁.registers } =
      (.ok (w.truncate value), { c' with registers := c.registers }) := by
  have above := ready.above
  have inside := ready.inside
  unfold Core.room at fits
  have grown : Core.Grown c c₁ w.bytes := by
    rw [first]
    exact grown_pushed value (by omega)
  have depth := grown.depth
  have pointer : c₁.registers.get .rsp = c.registers.get .rsp - UInt64.ofNat w.bytes := by
    rw [first]
    exact Registers.get_set_self _ _ _
  have reached : ¬(c₁.registers.get .rsp).toNat < c'.memory.stackBarrier := by
    rw [rest.stackBarrier, grown.stackBarrier]
    omega
  have kept : c'.memory.read (c₁.registers.get .rsp) w = .ok (w.truncate value) := by
    rw [Memory.read_congr rest.size fun i reached _ => rest.bytes i (by have := rest.depth; omega)]
    apply Memory.Holds.read_sized
    rw [pointer, first]
    apply Memory.holds_patch
    rw [← pointer, Bytes.length_ofNat]
    omega
  have restored : c₁.registers.set .rsp (c₁.registers.get .rsp + UInt64.ofNat w.bytes) =
      c.registers := by
    rw [pointer, UInt64.sub_add_cancel, first]
    exact Registers.set_set_get _ _ _
  rw [run_pop]
  dsimp only
  rw [if_neg reached, kept]
  dsimp only
  rw [popped, restored]

/-! ## Many pushes, many pops -/

/-- Values that fit are all pushed. -/
theorem exists_pushAll {items : List (Width × UInt64)} (ready : c.StackReady)
    (fits : stackBytes items ≤ c.room) :
    ∃ c', (pushAll items).run c = (.ok (), c') ∧ Core.Grown c c' (stackBytes items) := by
  induction items generalizing c with
  | nil => exact ⟨c, rfl, .refl c⟩
  | cons item rest ih =>
    obtain ⟨w, value⟩ := item
    rw [stackBytes] at fits
    have first := run_push_of_room value ready (Nat.le_trans (Nat.le_add_right _ _) fits)
    have step := grown_pushed (w := w) (c := c) value (by unfold Core.room at fits; omega)
    obtain ⟨c', later, grown⟩ := ih (step.ready (by omega) ready) (by rw [step.room]; omega)
    exact ⟨c', (Faulting.run_bind_ok first).trans later, step.trans grown⟩

/-- Otherwise the pushes stop at the first value that does not fit, and those before it stand. -/
theorem exists_overflow {items : List (Width × UInt64)} (ready : c.StackReady)
    (excess : c.room < stackBytes items) :
    ∃ first w value rest c', items = first ++ (w, value) :: rest ∧ stackBytes first ≤ c.room ∧
      c.room < stackBytes first + w.bytes ∧ (pushAll first).run c = (.ok (), c') ∧
      (push w value).run c' = (.error .stackOverflow, c') ∧
      (pushAll items).run c = (.error .stackOverflow, c') := by
  induction items generalizing c with
  | nil => exact absurd excess (Nat.not_lt_zero _)
  | cons item rest ih =>
    obtain ⟨w, value⟩ := item
    rw [stackBytes] at excess
    by_cases fits : w.bytes ≤ c.room
    · have done := run_push_of_room value ready fits
      have step := grown_pushed (w := w) (c := c) value (by unfold Core.room at fits; omega)
      have room := step.room
      obtain ⟨first, w', value', rest', c', shape, within, past, pushes, refused, all⟩ :=
        ih (step.ready fits ready) (by omega)
      refine ⟨(w, value) :: first, w', value', rest', c', ?_, ?_, ?_, ?_, refused, ?_⟩
      · rw [shape, List.cons_append]
      · rw [stackBytes]
        omega
      · rw [stackBytes]
        omega
      · exact (Faulting.run_bind_ok done).trans pushes
      · exact (Faulting.run_bind_ok done).trans all
    · have full : c.room < w.bytes := Nat.lt_of_not_le fits
      have refused := run_push_of_full value ready full
      refine ⟨[], w, value, rest, c, rfl, Nat.zero_le _, ?_, rfl, refused, ?_⟩
      · rw [stackBytes]
        omega
      · exact Faulting.run_bind_error refused

theorem pushAll_eq_ok_iff {items : List (Width × UInt64)} (ready : c.StackReady) :
    ((pushAll items).run c).1 = .ok () ↔ stackBytes items ≤ c.room := by
  constructor
  · intro done
    by_contra excess
    obtain ⟨_, _, _, _, _, _, _, _, _, _, refused⟩ :=
      exists_overflow ready (Nat.lt_of_not_le excess)
    rw [refused] at done
    cases done
  · intro fits
    obtain ⟨_, done, _⟩ := exists_pushAll ready fits
    rw [done]

theorem grown_of_pushAll {items : List (Width × UInt64)} (ready : c.StackReady)
    (done : (pushAll items).run c = (.ok (), c')) : Core.Grown c c' (stackBytes items) := by
  have fits : stackBytes items ≤ c.room := (pushAll_eq_ok_iff ready).mp (by rw [done])
  obtain ⟨c'', again, grown⟩ := exists_pushAll ready fits
  rw [done] at again
  cases again
  exact grown

theorem run_popAll_append {ws : List Width} {values : List UInt64} {value : UInt64} {c₁ c₂ : Core}
    (first : (popAll ws).run c = (.ok values, c₁)) (last : (pop w).run c₁ = (.ok value, c₂)) :
    (popAll (ws ++ [w])).run c = (.ok (values ++ [value]), c₂) := by
  induction ws generalizing c values with
  | nil =>
    cases first
    exact Faulting.run_bind_ok last
  | cons w' ws ih =>
    obtain ⟨value', c₀, head, tail⟩ := Faulting.run_bind_eq_ok first
    obtain ⟨values', c₁', rest, cut⟩ := Faulting.run_bind_eq_ok tail
    cases cut
    rw [List.cons_append, popAll, Faulting.run_bind_ok head, Faulting.run_bind_ok (ih rest)]
    rfl

/-- Values come back in reverse order, cut off at their widths, and the registers with them. -/
theorem popAll_of_pushAll {items : List (Width × UInt64)} (ready : c.StackReady)
    (done : (pushAll items).run c = (.ok (), c')) :
    (popAll (items.map Prod.fst).reverse).run c' =
      (.ok (items.map fun item => item.1.truncate item.2).reverse,
        { c' with registers := c.registers }) := by
  induction items generalizing c with
  | nil =>
    cases done
    rfl
  | cons item rest ih =>
    obtain ⟨w, value⟩ := item
    have fits : stackBytes ((w, value) :: rest) ≤ c.room :=
      (pushAll_eq_ok_iff ready).mp (by rw [done])
    rw [stackBytes] at fits
    have narrow : w.bytes ≤ c.room := Nat.le_trans (Nat.le_add_right _ _) fits
    have step := grown_pushed (w := w) (c := c) value (by unfold Core.room at fits; omega)
    have later := (Faulting.run_bind_ok (run_push_of_room value ready narrow)).symm.trans done
    have ready' := step.ready narrow ready
    rw [List.map_cons, List.reverse_cons, List.map_cons, List.reverse_cons]
    exact run_popAll_append (ih ready' later)
      (run_pop_of_pushed ready narrow rfl (grown_of_pushAll ready' later))

/-- The stack takes a list of values exactly if their bytes fit between the stack barrier and the
stack pointer. If they do not, it takes those in front of the first that does not fit. A value
that was taken is popped as it was pushed, and pops never write. -/
theorem stack_discipline_exact (c : Core) :
    (c.StackReady → ∀ items : List (Width × UInt64),
      (((pushAll items).run c).1 = .ok () ↔ stackBytes items ≤ c.room) ∧
      (c.room < stackBytes items → ∃ first w value rest c', items = first ++ (w, value) :: rest ∧
        stackBytes first ≤ c.room ∧ c.room < stackBytes first + w.bytes ∧
        (pushAll first).run c = (.ok (), c') ∧
        (push w value).run c' = (.error .stackOverflow, c') ∧
        (pushAll items).run c = (.error .stackOverflow, c')) ∧
      (∀ c', (pushAll items).run c = (.ok (), c') →
        c.Grown c' (stackBytes items) ∧
        (popAll (items.map Prod.fst).reverse).run c' =
          (.ok (items.map fun item => item.1.truncate item.2).reverse,
            { c' with registers := c.registers }))) ∧
    (c.memory.readonlyBarrier ≤ c.memory.stackBarrier → ∀ w value,
      ((push w value).run c).1 ≠ .error .accessViolation) ∧
    (∀ w, ((pop w).run c).2.memory = c.memory ∧
      (((pop w).run c).1 = .error .stackOverflow ↔
        (c.registers.get .rsp).toNat < c.memory.stackBarrier) ∧
      (((pop w).run c).1 = .error .outOfBounds ↔
        c.memory.stackBarrier ≤ (c.registers.get .rsp).toNat ∧
          c.memory.size < (c.registers.get .rsp).toNat + w.bytes) ∧
      (c.memory.stackBarrier ≤ (c.registers.get .rsp).toNat →
        (c.registers.get .rsp).toNat + w.bytes ≤ c.memory.size →
        (pop w).run c = (.ok (Bytes.toWord (c.memory.slice (c.registers.get .rsp).toNat w.bytes)),
          popped w c) ∧
        (c.memory.size < UInt64.size → ((popped w c).registers.get .rsp).toNat =
          (c.registers.get .rsp).toNat + w.bytes))) := by
  refine ⟨fun ready items => ⟨pushAll_eq_ok_iff ready, exists_overflow ready, ?_⟩, ?_, ?_⟩
  · intro c' done
    exact ⟨grown_of_pushAll ready done, popAll_of_pushAll ready done⟩
  · intro apart w value
    exact push_ne_accessViolation value apart
  · intro w
    refine ⟨sparesMemory_pop w c, pop_eq_stackOverflow w c, pop_eq_outOfBounds w c, ?_⟩
    intro above inside
    refine ⟨?_, fun addressable => toNat_rsp_popped addressable inside⟩
    rw [run_pop_cases, if_neg (Nat.not_lt_of_le above), if_neg (Nat.not_lt_of_le inside)]

/-- A core of 32 bytes whose stack is empty and has room for sixteen bytes. -/
def smallStack : Core :=
  { Core.blank with
    memory := ⟨Array.replicate 32 0, 4, 8, 16⟩
    registers := Registers.empty.set .rsp 32 }

/-- Eleven bytes fit and come back cut off; twenty-one do not fit, past the first twelve. -/
theorem stack_discipline_exact_small :
    (∃ c', (pushAll [(.qword, 7), (.word, 0x12345), (.byte, 0x1FF)]).run smallStack = (.ok (), c') ∧
      ((popAll [.byte, .word, .qword]).run c').1 = .ok [0xFF, 0x2345, 7]) ∧
    ((pushAll [(.qword, 7), (.dword, 8), (.qword, 9), (.byte, 1)]).run smallStack).1 =
      .error .stackOverflow := by
  have ready : smallStack.StackReady := by constructor <;> decide
  have law := (stack_discipline_exact smallStack).1 ready
  constructor
  · have fits := (law [(.qword, 7), (.word, 0x12345), (.byte, 0x1FF)]).1.mpr (by decide)
    cases done : (pushAll [(.qword, 7), (.word, 0x12345), (.byte, 0x1FF)]).run smallStack with
    | mk result c' =>
      rw [done] at fits
      cases fits
      have back := ((law _).2.2 c' done).2
      exact ⟨c', rfl, congrArg Prod.fst back⟩
  · obtain ⟨_, _, _, _, _, _, _, _, _, _, refused⟩ :=
      (law [(.qword, 7), (.dword, 8), (.qword, 9), (.byte, 1)]).2.1 (by decide)
    rw [refused]

end Exec

end GuestMachine
