import GuestMachine.Image
import GuestMachine.Keystream
import GuestMachine.Machine

/-!
# Starting a process

A new address space holds the stored segments, the zeros of the fourth segment, and the stack.
With arguments, the top of the stack holds, from high to low: the argument texts, padding to a
multiple of eight, the array of pointers to them, the address of that array and their number.
If the process cannot be started, the machine stays as it was.
-/

namespace GuestMachine

/-- Why a process could not be started. -/
inductive BootError where
  | addressSpaceTooLarge (requested : Nat) (limit : UInt64)
  | argumentsTooLarge (required available : UInt64)
deriving DecidableEq

def BootError.message : BootError → String
  | addressSpaceTooLarge requested limit =>
    "address space of " ++ toString requested ++ " bytes exceeds the limit of " ++
      toString limit.toNat ++ " bytes"
  | argumentsTooLarge required available =>
    "arguments need " ++ toString required.toNat ++ " bytes of stack but only " ++
      toString available.toNat ++ " are reserved"

/-- The addresses of the argument block. -/
structure ArgumentLayout where
  /-- The address of each text, in order. -/
  texts : List Nat
  /-- The address of the array of pointers. -/
  pointers : Nat
  /-- The stack pointer, where the number of arguments is. -/
  rsp : Nat

namespace ArgumentLayout

/-- The bytes a text takes with its terminator. -/
def textSize (text : String) : Nat := text.utf8ByteSize + 1

/-- Places the texts one below the other, the last one right below `top`. -/
def placeTexts (top : Nat) : List String → Option (List Nat × Nat)
  | [] => some ([], top)
  | text :: rest => do
    let (addresses, lowest) ← placeTexts top rest
    if textSize text ≤ lowest then
      some ((lowest - textSize text) :: addresses, lowest - textSize text)
    else none

/-- Lays out the arguments below `top`, if they fit above zero (`plan`, §4.4). -/
def plan? (args : List String) (top : Nat) : Option ArgumentLayout := do
  let (texts, lowest) ← placeTexts top args
  let aligned := lowest / 8 * 8
  if 8 * args.length + 16 ≤ aligned then
    some ⟨texts, aligned - 8 * args.length, aligned - 8 * args.length - 16⟩
  else none

/-- The bytes all texts take together. -/
def textsSize : List String → Nat
  | [] => 0
  | text :: rest => textSize text + textsSize rest

/-- The stack bytes the arguments need when the stack ends at `top` (`argument_bytes`, §4.4). -/
def required (args : List String) (top : UInt64) : UInt64 :=
  let texts := UInt64.ofNat (textsSize args)
  texts + ((top - texts) &&& 7) + UInt64.ofNat (8 * args.length) + 16

def writeTexts (m : Memory) : List (String × Nat) → Except Fault Memory
  | [] => .ok m
  | (text, address) :: rest => do
    let m ← m.writeText (UInt64.ofNat address) text
    writeTexts m rest

/-- Writes pointers one above the other. -/
def writePointers (m : Memory) (address : Nat) : List Nat → Except Fault Memory
  | [] => .ok m
  | pointer :: rest => do
    let m ← m.write (UInt64.ofNat address) .qword (UInt64.ofNat pointer)
    writePointers m (address + 8) rest

/-- Writes texts, pointers, the address of the pointers and their number (`write_arguments`,
§4.4). -/
def writeTo (l : ArgumentLayout) (args : List String) (m : Memory) : Except Fault Memory := do
  let m ← writeTexts m (args.zip l.texts)
  let m ← writePointers m l.pointers l.texts
  let m ← m.write (UInt64.ofNat (l.rsp + 8)) .qword (UInt64.ofNat l.pointers)
  m.write (UInt64.ofNat l.rsp) .qword (UInt64.ofNat args.length)

end ArgumentLayout

namespace Machine

/-- The largest address space the host can provide. -/
def hostLimit : Nat := 0x7FFFFFFFFFFFFFFF

/-- The address space of an image before arguments are written. -/
def freshMemory (e : Image) {reserve : Nat} (stack : Vector UInt8 reserve) : Memory where
  bytes := e.content.toArray ++ Array.replicate e.bss.toNat 0 ++ stack.toArray
  exeBarrier := e.text.length
  readonlyBarrier := e.text.length + e.rodata.length
  stackBarrier := e.content.length + e.bss.toNat

/-- The layout of the arguments, if there are any; they have to fit above the stack barrier. -/
def planArguments (args : List String) (top barrier : Nat) (reserve : UInt64) :
    Except BootError (Option ArgumentLayout) :=
  if args.isEmpty then .ok none
  else
    match ArgumentLayout.plan? args top with
    | some layout =>
      if barrier ≤ layout.rsp then .ok (some layout)
      else .error (.argumentsTooLarge (ArgumentLayout.required args (UInt64.ofNat top)) reserve)
    | none => .error (.argumentsTooLarge (ArgumentLayout.required args (UInt64.ofNat top)) reserve)

/-- Puts the arguments into memory and registers. -/
def placeArguments (args : List String) (layout : Option ArgumentLayout) (memory : Memory)
    (registers : Registers) : Except Fault (Memory × Registers) :=
  match layout with
  | none =>
    .ok (memory, ((registers.set .rsp (UInt64.ofNat memory.size)).set .rdi 0).set .rsi 0)
  | some l => do
    let memory ← l.writeTo args memory
    return (memory, ((registers.set .rsp (UInt64.ofNat l.rsp)).set .rdi
      (UInt64.ofNat args.length)).set .rsi (UInt64.ofNat l.pointers))

/-- The message that a process was started. -/
def bootMessage (e : Image) (args : List String) (reserve seed : UInt64) (size : Nat) : String :=
  "initialized process: " ++ toString size ++ " bytes (text " ++ toString e.text.length ++
    ", rodata " ++ toString e.rodata.length ++ ", data " ++ toString e.data.length ++ ", bss " ++
    toString e.bss.toNat ++ ", stack " ++ toString reserve.toNat ++ "), " ++
    toString args.length ++ " args, seed " ++ toString seed.toNat

/-- Loads an image and makes it run (`Initialize`, §4.4). The uninitialised stack and registers hold
the given noise, which stands for any generator, seeded or not. What the machine was is given up
last of all. -/
def setUp (noise : UInt64 → (size : Nat) → Noise size) (e : Image) (args : List String)
    (reserve : UInt64) : ExceptT BootError (StateM Machine) Unit := do
  let m ← get
  let barrier := e.content.length + e.bss.toNat
  let size := barrier + reserve.toNat
  let tooLarge := BootError.addressSpaceTooLarge size m.config.maxMemory
  if m.config.maxMemory.toNat < size then throw tooLarge
  let layout ← ofExcept (planArguments args size barrier reserve)
  if hostLimit < size then throw tooLarge
  let fill := noise m.config.seed reserve.toNat
  match placeArguments args layout (freshMemory e fill.stack) fill.registers with
  | .error _ =>
    throw (.argumentsTooLarge (ArgumentLayout.required args (UInt64.ofNat size)) reserve)
  | .ok (memory, registers) =>
    modify fun m => m.log .debug (bootMessage e args reserve m.config.seed size)
    modify fun m => { m with
      core := ⟨memory, registers, 0, Flags.initial, Fpu.empty⟩
      life := .started }

/-- Starts a process; the machine is returned whether the process was started or not. -/
def startWith (noise : UInt64 → (size : Nat) → Noise size) (m : Machine) (e : Image)
    (args : List String) (reserve : UInt64) : Except BootError Unit × Machine :=
  (setUp noise e args reserve).run.run m

/-- Starts a process with the noise that the seed of the machine gives. -/
def start (m : Machine) (e : Image) (args : List String) (reserve : UInt64) :
    Except BootError Unit × Machine := startWith Noise.ofSeed m e args reserve

/-- The machine with its process started, or why it could not be. -/
def bootWith (noise : UInt64 → (size : Nat) → Noise size) (m : Machine) (e : Image)
    (args : List String) (reserve : UInt64) : Except BootError Machine :=
  let (result, m) := m.startWith noise e args reserve
  result.map fun _ => m

def boot (m : Machine) (e : Image) (args : List String) (reserve : UInt64) :
    Except BootError Machine := bootWith Noise.ofSeed m e args reserve

end Machine

end GuestMachine
