import GuestMachine.Registers

/-!
# Operand bytes

The bit layouts of the bytes that describe operands. Each layout reads from a byte and writes
back to one.
-/

namespace GuestMachine

/-- The byte in front of an immediate, `[s000 00ww]` (`ImmPrefix`, §E): the width of the body, and
whether the body is sign-extended. -/
structure ImmediateForm where
  width : Width
  signed : Bool
deriving DecidableEq

namespace ImmediateForm

def ofByte (b : UInt8) : ImmediateForm := ⟨Width.ofCode b, b &&& 0x80 != 0⟩

def toByte (p : ImmediateForm) : UInt8 := (if p.signed then (0x80 : UInt8) else 0) ||| p.width.code

/-- The word an immediate body stands for. -/
def widen (p : ImmediateForm) (body : UInt64) : UInt64 :=
  if p.signed then p.width.signExtend body else p.width.truncate body

end ImmediateForm

/-- The byte in front of an address, `[i.ss cc b x]` (`AddressSettings`, §E): whether a displacement
follows, the scale of the base as a power of two, the address width, and whether a base and an index
register take part. -/
structure AddressForm where
  hasDisplacement : Bool
  scale : UInt8
  width : Width
  hasBase : Bool
  hasIndex : Bool
deriving DecidableEq

namespace AddressForm

def ofByte (b : UInt8) : AddressForm where
  hasDisplacement := b &&& 0x80 != 0
  scale := (b >>> 4) &&& 3
  width := Width.ofCode (b >>> 2)
  hasBase := b &&& 2 != 0
  hasIndex := b &&& 1 != 0

/-- Writes the form to a byte; the scale is cut to two bits. -/
def toByte (a : AddressForm) : UInt8 :=
  (if a.hasDisplacement then (0x80 : UInt8) else 0) ||| ((a.scale &&& 3) <<< 4) |||
    (a.width.code <<< 2) ||| (if a.hasBase then (2 : UInt8) else 0) |||
    (if a.hasIndex then (1 : UInt8) else 0)

/-- Tells whether a byte with two register names follows. -/
def hasRegisters (a : AddressForm) : Bool := a.hasBase || a.hasIndex

end AddressForm

/-- The common operand byte, `[rrrr ss mm]` (`OperandByte`, §E): a register, a width and a mode,
whose meaning depends on the instruction. -/
structure OperandForm where
  register : UInt8
  width : Width
  mode : UInt8
deriving DecidableEq

namespace OperandForm

def ofByte (b : UInt8) : OperandForm := ⟨b >>> 4, Width.ofCode (b >>> 2), b &&& 3⟩

/-- Writes the form to a byte; register and mode are cut to their bits. -/
def toByte (o : OperandForm) : UInt8 :=
  ((o.register &&& 0xF) <<< 4) ||| (o.width.code <<< 2) ||| (o.mode &&& 3)

end OperandForm

end GuestMachine
