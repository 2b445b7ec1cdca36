import GuestMachine.Proofs.Core.Access

/-!
# The bits of the flags word that no guest can load

The flags word falls into the public bits, which a guest may load from its stack, and the fixed
ones, of which only the reserved bit is ever set. Whatever sets flags sets public bits, so the
fixed ones never change, and the public ones are all that has to be saved and restored.
-/

namespace GuestMachine.Flags

/-- The bits of the word that no guest can load. -/
def fixed (f : Flags) : UInt64 := f.bits &&& ~~~publicMask

variable {f g : Flags}

theorem parts_eq (word mask : UInt64) : (word &&& ~~~mask) ||| (word &&& mask) = word := by
  apply UInt64.toBitVec_inj.mp
  ext i
  simp only [UInt64.toBitVec_or, UInt64.toBitVec_and, UInt64.toBitVec_not, BitVec.getElem_or,
    BitVec.getElem_and, BitVec.getElem_not]
  cases mask.toBitVec[i] <;> simp

/-- Two words with the same fixed and the same public bits are the same. -/
theorem eq_of_parts (fixed : f.fixed = g.fixed)
    (loaded : f.bits &&& publicMask = g.bits &&& publicMask) : f = g := by
  have bits : f.bits = g.bits :=
    calc
      f.bits = f.fixed ||| (f.bits &&& publicMask) := (parts_eq f.bits publicMask).symm
      _ = g.fixed ||| (g.bits &&& publicMask) := by rw [fixed, loaded]
      _ = g.bits := parts_eq g.bits publicMask
  cases f
  cases g
  exact congrArg Flags.mk bits

/-! ## Loading the public bits -/

theorem fixed_restorePublic (f : Flags) (value : UInt64) :
    (f.restorePublic value).fixed = f.fixed := by
  apply UInt64.toBitVec_inj.mp
  ext i
  simp only [fixed, restorePublic, UInt64.toBitVec_or, UInt64.toBitVec_and, UInt64.toBitVec_not,
    BitVec.getElem_or, BitVec.getElem_and, BitVec.getElem_not]
  cases publicMask.toBitVec[i] <;> simp

theorem public_restorePublic (f : Flags) (value : UInt64) :
    (f.restorePublic value).bits &&& publicMask = value &&& publicMask := by
  apply UInt64.toBitVec_inj.mp
  ext i
  simp only [restorePublic, UInt64.toBitVec_or, UInt64.toBitVec_and, UInt64.toBitVec_not,
    BitVec.getElem_or, BitVec.getElem_and, BitVec.getElem_not]
  cases publicMask.toBitVec[i] <;> simp

/-- The last load counts. -/
theorem restorePublic_restorePublic (f : Flags) (v w : UInt64) :
    (f.restorePublic v).restorePublic w = f.restorePublic w := by
  apply eq_of_parts
  · rw [fixed_restorePublic, fixed_restorePublic, fixed_restorePublic]
  · rw [public_restorePublic, public_restorePublic]

theorem restorePublic_congr (f : Flags) {v w : UInt64} (h : v &&& publicMask = w &&& publicMask) :
    f.restorePublic v = f.restorePublic w := by
  apply eq_of_parts
  · rw [fixed_restorePublic, fixed_restorePublic]
  · rw [public_restorePublic, public_restorePublic, h]

/-- Loading a word with the same fixed bits gives that word. -/
theorem restorePublic_bits (h : f.fixed = g.fixed) : f.restorePublic g.bits = g := by
  apply eq_of_parts
  · rw [fixed_restorePublic, h]
  · exact public_restorePublic f g.bits

/-! ## Setting flags -/

/-- Setting or clearing some bits leaves all others. -/
theorem and_set (f : Flags) {mask other : UInt64} (on : Bool) (h : mask &&& other = 0) :
    (f.set mask on).bits &&& other = f.bits &&& other := by
  have bits := congrArg UInt64.toBitVec h
  apply UInt64.toBitVec_inj.mp
  ext i
  have bit := congrArg (fun word : BitVec 64 => word[i]) bits
  simp only [UInt64.toBitVec_and, BitVec.getElem_and, UInt64.toBitVec_zero,
    BitVec.getElem_zero] at bit
  cases on with
  | true =>
    simp only [set, ↓reduceIte, UInt64.toBitVec_or, UInt64.toBitVec_and, BitVec.getElem_or,
      BitVec.getElem_and, Bool.and_or_distrib_right, bit, Bool.or_false]
  | false =>
    simp only [set, Bool.false_eq_true, ↓reduceIte, UInt64.toBitVec_and, UInt64.toBitVec_not,
      BitVec.getElem_and, BitVec.getElem_not]
    grind

theorem get_set_of_disjoint (f : Flags) {mask other : UInt64} (on : Bool)
    (h : mask &&& other = 0) : (f.set mask on).get other = f.get other := by
  simp only [get, f.and_set on h]

theorem get_set_self (f : Flags) {mask : UInt64} (on : Bool) (h : mask ≠ 0) :
    (f.set mask on).get mask = on := by
  have read : (f.set mask on).bits &&& mask = if on then mask else 0 := by
    apply UInt64.toBitVec_inj.mp
    ext i
    cases on <;> simp [set]
    exact Or.inr
  cases on <;> simp [get, read, h]

/-- Setting or clearing public bits leaves the fixed ones. -/
theorem fixed_set (f : Flags) {mask : UInt64} (on : Bool) (h : mask &&& ~~~publicMask = 0) :
    (f.set mask on).fixed = f.fixed :=
  f.and_set on h

theorem fixed_setResult (f : Flags) (w : Width) (result : UInt64) :
    (f.setResult w result).fixed = f.fixed := by
  simp (disch := decide) only [setResult, fixed_set]

theorem fixed_add (f : Flags) (w : Width) (a b : UInt64) : (f.add w a b).2.fixed = f.fixed := by
  simp (disch := decide) only [add, fixed_setResult, fixed_set]

theorem fixed_sub (f : Flags) (w : Width) (a b : UInt64) : (f.sub w a b).2.fixed = f.fixed := by
  simp (disch := decide) only [sub, fixed_setResult, fixed_set]

theorem fixed_logic (f : Flags) (w : Width) (result : UInt64) :
    (f.logic w result).2.fixed = f.fixed := by
  simp (disch := decide) only [logic, fixed_setResult, fixed_set]

theorem fixed_imul (f : Flags) (w : Width) (a b : UInt64) : (f.imul w a b).2.fixed = f.fixed := by
  simp (disch := decide) only [imul, fixed_setResult, fixed_set]

theorem fixed_binary (op : BinaryOp) (f : Flags) (w : Width) (a b : UInt64) :
    (op.apply f w a b).2.fixed = f.fixed := by
  cases op with
  | add => exact fixed_add f w a b
  | sub | cmp => exact fixed_sub f w a b
  | and | or | xor | test => exact fixed_logic f w _
  | imul => exact fixed_imul f w a b

theorem fixed_unary (op : UnaryOp) (f : Flags) (w : Width) (a : UInt64) :
    (op.apply f w a).2.fixed = f.fixed := by
  cases op with
  | inc => simp (disch := decide) only [UnaryOp.apply, inc, fixed_set, fixed_add]
  | dec => simp (disch := decide) only [UnaryOp.apply, dec, fixed_set, fixed_sub]
  | neg => simp (disch := decide) only [UnaryOp.apply, neg, fixed_set, fixed_sub]
  | not => rfl

theorem fixed_compared (f : Flags) (order : Option Ordering) :
    (f.compared order).fixed = f.fixed := by
  simp (disch := decide) only [compared, fixed_set]

theorem fixed_changed (change : FlagChange) (f : Flags) : (change.apply f).fixed = f.fixed := by
  cases change <;> simp (disch := decide) only [FlagChange.apply, fixed_set]

/-- In whatever way the flags are set, the fixed bits stay. -/
theorem Update.fixed (h : f.Update g) : g.fixed = f.fixed := by
  cases h with
  | binary op w a b => exact fixed_binary op f w a b
  | unary op w a => exact fixed_unary op f w a
  | compared order => exact fixed_compared f order
  | restored value => exact fixed_restorePublic f value
  | changed change => exact fixed_changed change f

/-! ## The reserved bit -/

theorem fixed_initial : initial.fixed = reserved := by decide

/-- If the fixed bits are those of a new process, the reserved bit is set, and no bit is set besides
it and the public ones. -/
theorem sound_of_fixed (h : f.fixed = reserved) :
    f.get reserved = true ∧ f.bits &&& ~~~(publicMask ||| reserved) = 0 := by
  have inside : reserved &&& ~~~publicMask = reserved := by decide
  have outside : ~~~(publicMask ||| reserved) = ~~~publicMask &&& ~~~reserved := by decide
  constructor
  · have read : f.bits &&& reserved = reserved := by
      rw [← inside, UInt64.and_comm reserved, ← UInt64.and_assoc]
      show f.fixed &&& reserved = _
      rw [h]
      decide
    rw [get, read]
    decide
  · rw [outside, ← UInt64.and_assoc]
    show f.fixed &&& ~~~reserved = 0
    rw [h]
    decide

end GuestMachine.Flags
