import GuestMachine.Double
import GuestMachine.Fault

/-!
# The floating-point stack

Eight slots in a circle. Entry `i` of the stack is slot `top + i`. A push claims the slot below
`top`, a pop releases the slot at `top`. A released slot keeps its old value, but no operation
reads it any more.
-/

namespace GuestMachine

/-- The floating-point stack (`Fpu`, §3). The top is the byte of §3, which never passes seven. -/
structure Fpu where
  values : Vector Double 8
  used : Vector Bool 8
  top : Fin 8
deriving DecidableEq

namespace Fpu

def empty : Fpu := ⟨Vector.replicate 8 Double.zero, Vector.replicate 8 false, 0⟩

/-- Releases every slot and moves `top` back to slot zero (`reset`, for FINIT). -/
def reset (f : Fpu) : Fpu := { f with used := Vector.replicate 8 false, top := 0 }

/-- The slot of stack entry `i`, which is taken modulo eight (`slot`). -/
def slot (f : Fpu) (i : UInt8) : Fin 8 := f.top + Fin.ofNat 8 i.toNat

/-- Tells whether entry `i` holds a value (`is_in_use`). -/
def inUse (f : Fpu) (i : UInt8) : Bool := f.used[f.slot i]

/-- The number of slots in use (`occupied`). -/
def occupied (f : Fpu) : Nat := f.used.toList.countP id

/-- Puts a value into a slot and claims it. -/
def claim (f : Fpu) (s : Fin 8) (value : Double) : Fpu :=
  { f with values := f.values.set s.val value s.isLt, used := f.used.set s.val true s.isLt }

/-- Releases a slot; its value stays behind. -/
def release (f : Fpu) (s : Fin 8) : Fpu := { f with used := f.used.set s.val false s.isLt }

/-- Pushes a value (`push`, §4.2). The slot below the top must be free. -/
def push (f : Fpu) (value : Double) : Except Fault Fpu :=
  let s := f.top - 1
  if f.used[s] then .error .undefinedBehavior else .ok { f.claim s value with top := s }

/-- Pops the value at the top (`pop`, §4.2). -/
def pop (f : Fpu) : Except Fault (Double × Fpu) :=
  if f.used[f.top] then .ok (f.values[f.top], { f.release f.top with top := f.top + 1 })
  else .error .undefinedBehavior

/-- Reads entry `i` (`st`). -/
def st (f : Fpu) (i : UInt8) : Except Fault Double :=
  if f.inUse i then .ok f.values[f.slot i] else .error .undefinedBehavior

/-- Fills entry `i`, whether it held a value or not (`store`). -/
def store (f : Fpu) (i : UInt8) (value : Double) : Fpu := f.claim (f.slot i) value

/-- Overwrites entry `i`, which must hold a value (`set_st`). -/
def setSt (f : Fpu) (i : UInt8) (value : Double) : Except Fault Fpu :=
  if f.inUse i then .ok (f.store i value) else .error .undefinedBehavior

/-- Exchanges the top with entry `i`; both must hold values (`swap`). -/
def swap (f : Fpu) (i : UInt8) : Except Fault Fpu :=
  if f.inUse 0 && f.inUse i then
    .ok ((f.store 0 f.values[f.slot i]).store i f.values[f.slot 0])
  else .error .undefinedBehavior

/-- Releases entry `i` without moving the top (`free`). -/
def free (f : Fpu) (i : UInt8) : Fpu := f.release (f.slot i)

/-- Turns the circle forward by one slot (`increment_top`). -/
def incrementTop (f : Fpu) : Fpu := { f with top := f.top + 1 }

/-- Turns the circle back by one slot (`decrement_top`). -/
def decrementTop (f : Fpu) : Fpu := { f with top := f.top - 1 }

def slot? (f : Fpu) (s : Fin 8) : Option Double := if f.used[s] then some f.values[s] else none

end Fpu

end GuestMachine
