import GuestMachine.Core

/-!
# Execution of operations

What each operation does to the core. The instruction pointer already stands behind the
instruction. All operand values are taken before anything is changed.
-/

namespace GuestMachine

namespace BinaryOp

/-- The result of an operation and the flags it leaves. -/
def apply (op : BinaryOp) (f : Flags) (w : Width) (a b : UInt64) : UInt64 × Flags :=
  match op with
  | add => f.add w a b
  | sub | cmp => f.sub w a b
  | and | test => f.logic w (a &&& b)
  | or => f.logic w (a ||| b)
  | xor => f.logic w (a ^^^ b)
  | imul => f.imul w a b

/-- Tells whether the result is stored, or only its flags are kept. -/
def writesBack : BinaryOp → Bool
  | cmp | test => false
  | _ => true

end BinaryOp

/-- The result of a unary operation and the flags it leaves; complement leaves them alone. -/
def UnaryOp.apply (op : UnaryOp) (f : Flags) (w : Width) (a : UInt64) : UInt64 × Flags :=
  match op with
  | inc => f.inc w a
  | dec => f.dec w a
  | neg => f.neg w a
  | not => (w.truncate (~~~a), f)

/-- The flags after a direct change. -/
def FlagChange.apply (change : FlagChange) (f : Flags) : Flags :=
  match change with
  | clearCarry => f.set Flags.carry false
  | setCarry => f.set Flags.carry true
  | complementCarry => f.set Flags.carry (!f.get Flags.carry)
  | clearDirection => f.set Flags.direction false
  | setDirection => f.set Flags.direction true

/-- Tells whether a counting loop goes on, given the count left and the zero flag. -/
def LoopKind.taken (kind : LoopKind) (count : UInt64) (zero : Bool) : Bool :=
  count != 0 &&
    match kind with
    | always => true
    | whileEqual => zero
    | whileNotEqual => !zero

/-- The result of an operation on two doubles (`arith`). -/
def FloatOp.apply (op : FloatOp) (a b : Double) : Double :=
  match op with
  | add => a.add b
  | sub => a.sub b
  | subReversed => b.sub a
  | mul => a.mul b
  | div => a.div b
  | divReversed => b.div a

def FloatFunction.apply (f : FloatFunction) (d : Double) : Double :=
  match f with
  | abs => d.abs
  | neg => d.neg
  | sqrt => d.sqrt
  | sin => d.sin
  | cos => d.cos
  | round => d.round

/-- The flags after a floating-point comparison. An unordered pair sets zero, parity and carry,
a smaller top sets carry, an equal one sets zero; overflow, sign and adjust are cleared. -/
def Flags.compared (f : Flags) (order : Option Ordering) : Flags :=
  let (zero, parity, carry) : Bool × Bool × Bool := match order with
    | none => (true, true, true)
    | some .lt => (false, false, true)
    | some .eq => (true, false, false)
    | some .gt => (false, false, false)
  (((((f.set Flags.zero zero).set Flags.parity parity).set Flags.carry carry).set
    Flags.overflow false).set Flags.sign false).set Flags.adjust false

namespace Exec

/-- Runs a binary operation (`alu`, for `op_add` to `op_imul`). The flags are set before the result
is stored, so they stay even if the store faults. -/
def runBinary (op : BinaryOp) (w : Width) (dst : Place) (src : Source) : Exec Unit := do
  let location ← locate dst
  let b ← source w src
  let a ← load w location
  let (result, flags) := op.apply (← getFlags) w a b
  setFlags flags
  if op.writesBack then store w location result

/-- Runs a unary operation (`unary`, for `op_inc` to `op_not`); the flags are set before the result
is stored. -/
def runUnary (op : UnaryOp) (w : Width) (dst : Place) : Exec Unit := do
  let location ← locate dst
  let a ← load w location
  let (result, flags) := op.apply (← getFlags) w a
  setFlags flags
  store w location result

/-- Exchanges a register with a register or memory (`op_xchg`). -/
def runExchange (w : Width) (r : Register) (other : Place) : Exec Unit := do
  let location ← locate other
  let mine ← load w (.register r)
  let theirs ← load w location
  store w location mine
  setRegisterSized r w theirs

/-- Counts down the view of the counter register and jumps while the loop goes on (`op_loopcc`). -/
def runLoop (kind : LoopKind) (counter w : Width) (target : Source) : Exec Unit := do
  let address ← source w target
  let count := counter.truncate ((← getRegister .rcx) - 1)
  setRegisterSized .rcx counter count
  let flags ← getFlags
  if kind.taken count (flags.get Flags.zero) then jump address

/-- Pops into a register or memory (`op_pop`). The destination is found before the stack pointer
moves. -/
def runPop (w : Width) (dst : Place) : Exec Unit := do
  let location ← locate dst
  let value ← pop w
  store w location value

/-- The double a source stands for (`op_fld`). -/
def floatSource : FloatSource → Exec Double
  | .entry i => st i
  | .double a => do return ⟨← readMemory (← resolve a) .qword⟩
  | .single a => do return Double.ofSingle (← readMemory (← resolve a) .dword).toUInt32
  | .integer a => do return Double.ofInteger (← readMemory (← resolve a) .qword)
  | .constant value => pure value

/-- Stores a double in its target's own format (`op_fst`). -/
def storeFloat (value : Double) : FloatTarget → Exec Unit
  | .entry i => changeFpu fun f => .ok (f.store i value)
  | .double a => do writeMemory (← resolve a) .qword value.bits
  | .single a => do writeMemory (← resolve a) .dword value.toSingle.toUInt64
  | .integer a => do writeMemory (← resolve a) .qword value.toInteger

/-- Combines two entries, or the top and a double in memory (`op_farith`). -/
def runFloatArithmetic (op : FloatOp) : FloatOperands → Exec Unit
  | .top i => do
    let a ← st 0
    let b ← st i
    changeFpu fun f => f.setSt 0 (op.apply a b)
  | .entry i pop => do
    let a ← st i
    let b ← st 0
    changeFpu fun f => f.setSt i (op.apply a b)
    popFpu pop
  | .memory a => do
    let b ← readMemory (← resolve a) .qword
    let a ← st 0
    changeFpu fun f => f.setSt 0 (op.apply a ⟨b⟩)

/-- What each operation does once it is read: the bodies of the handlers `op_nop` to `op_fstack`
(§E). -/
def execute : Operation → Exec Unit
  | .nop => pure ()
  | .hlt => Faulting.fail .abort
  | .lea w dst a => do setRegisterSized dst w (← resolve a)
  | .mov w dst src => do
    let location ← locate dst
    store w location (← source w src)
  | .xchg w r other => runExchange w r other
  | .binary op w dst src => runBinary op w dst src
  | .unary op w dst => runUnary op w dst
  | .jmp w target => do jump (← source w target)
  | .jcc cond w target => do
    let address ← source w target
    if (← getFlags).holds cond then jump address
  | .loopCc kind counter w target => runLoop kind counter w target
  | .call w target => do
    let address ← source w target
    push .qword (← Faulting.read Core.rip)
    jump address
  | .ret => do jump (← pop .qword)
  | .push w src => do push w (← source w src)
  | .pop w dst => runPop w dst
  | .pushf => do push .qword (← getFlags).bits
  | .popf => do
    let value ← pop .qword
    setFlags ((← getFlags).restorePublic value)
  | .flags change => do setFlags (change.apply (← getFlags))
  | .finit => changeFpu fun f => .ok f.reset
  | .fld src => do
    let value ← floatSource src
    changeFpu fun f => f.push value
  | .fst dst pop => do
    let value ← st 0
    storeFloat value dst
    popFpu pop
  | .fxch i => changeFpu fun f => f.swap i
  | .farith op operands => runFloatArithmetic op operands
  | .funary f => do
    let value ← st 0
    changeFpu fun s => s.setSt 0 (f.apply value)
  | .fcomi i pop => do
    let a ← st 0
    let b ← st i
    setFlags ((← getFlags).compared (a.compare? b))
    popFpu pop
  | .fstack .increment => changeFpu fun f => .ok f.incrementTop
  | .fstack .decrement => changeFpu fun f => .ok f.decrementTop
  | .fstack (.free i) => changeFpu fun f => .ok (f.free i)

end Exec

end GuestMachine
