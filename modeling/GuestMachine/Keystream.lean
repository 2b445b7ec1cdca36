import GuestMachine.Registers

/-!
# Seeded noise

What a process finds in its uninitialised stack and registers is pseudo-random but fixed by a
seed: a stream cipher with twelve rounds, whose key is expanded from the seed by a permuted
congruential generator.
-/

namespace GuestMachine

namespace Keystream

/-- One state of the key generator after another. -/
def advance (s : UInt64) : UInt64 := s * 6364136223846793005 + 11634580027462260723

/-- Rotates a 32-bit word to the right. Shifts count modulo 32, so a rotation by zero is none. -/
def rotateRight (x n : UInt32) : UInt32 := (x >>> n) ||| (x <<< (32 - n))

def rotateLeft (x n : UInt32) : UInt32 := (x <<< n) ||| (x >>> (32 - n))

/-- The key word read off a state of the key generator. -/
def keyWord (s : UInt64) : UInt32 :=
  let x := (((s >>> 18) ^^^ s) >>> 27).toUInt32
  rotateRight x (s >>> 59).toUInt32

/-- `count` key words from the generator state `s`. -/
def keyWords : (count : Nat) → (s : UInt64) → List UInt32
  | 0, _ => []
  | count + 1, s => keyWord (advance s) :: keyWords count (advance s)

/-- The key of a seed: eight words. -/
def key (seed : UInt64) : List UInt32 := keyWords 8 seed

/-- Four words of a cipher state. -/
structure Row where
  a : UInt32
  b : UInt32
  c : UInt32
  d : UInt32

namespace Row

@[inline] def add (x y : Row) : Row := ⟨x.a + y.a, x.b + y.b, x.c + y.c, x.d + y.d⟩

/-- Combines two rows by exclusive or and rotates each word to the left. -/
@[inline] def stir (x y : Row) (n : UInt32) : Row :=
  ⟨rotateLeft (x.a ^^^ y.a) n, rotateLeft (x.b ^^^ y.b) n, rotateLeft (x.c ^^^ y.c) n,
    rotateLeft (x.d ^^^ y.d) n⟩

/-- Moves every word one place to the left. -/
@[inline] def turn (x : Row) : Row := ⟨x.b, x.c, x.d, x.a⟩

end Row

/-- A state of the cipher: four rows. -/
structure Block where
  r0 : Row
  r1 : Row
  r2 : Row
  r3 : Row

namespace Block

/-- The state a block starts from: four constants, the key, the block number and two zeros. -/
def start (key : List UInt32) (number : UInt64) : Block :=
  let k i := key.getD i 0
  { r0 := ⟨0x61707865, 0x3320646E, 0x79622D32, 0x6B206574⟩
    r1 := ⟨k 0, k 1, k 2, k 3⟩
    r2 := ⟨k 4, k 5, k 6, k 7⟩
    r3 := ⟨number.toUInt32, (number >>> 32).toUInt32, 0, 0⟩ }

/-- Mixes the four words of every column. -/
@[inline] def mix (s : Block) : Block :=
  let r0 := s.r0.add s.r1
  let r3 := s.r3.stir r0 16
  let r2 := s.r2.add r3
  let r1 := s.r1.stir r2 12
  let r0 := r0.add r1
  let r3 := r3.stir r0 8
  let r2 := r2.add r3
  let r1 := r1.stir r2 7
  ⟨r0, r1, r2, r3⟩

/-- Mixes the columns and then the diagonals. -/
def doubleRound (s : Block) : Block :=
  let s := s.mix
  let s := mix ⟨s.r0, s.r1.turn, s.r2.turn.turn, s.r3.turn.turn.turn⟩
  ⟨s.r0, s.r1.turn.turn.turn, s.r2.turn.turn, s.r3.turn⟩

/-- Applies `count` double rounds. -/
def rounds : (count : Nat) → Block → Block
  | 0, s => s
  | count + 1, s => rounds count s.doubleRound

/-- The output of a block: twelve rounds, added to the state it started from. -/
def output (key : List UInt32) (number : UInt64) : Block :=
  let s := start key number
  let t := rounds 6 s
  ⟨t.r0.add s.r0, t.r1.add s.r1, t.r2.add s.r2, t.r3.add s.r3⟩

end Block

/-- Appends the four bytes of a word, least significant first. -/
def pushWord (out : Array UInt8) (w : UInt32) : Array UInt8 :=
  (((out.push w.toUInt8).push (w >>> 8).toUInt8).push (w >>> 16).toUInt8).push (w >>> 24).toUInt8

def pushRow (out : Array UInt8) (r : Row) : Array UInt8 :=
  pushWord (pushWord (pushWord (pushWord out r.a) r.b) r.c) r.d

def pushBlock (out : Array UInt8) (s : Block) : Array UInt8 :=
  pushRow (pushRow (pushRow (pushRow out s.r0) s.r1) s.r2) s.r3

/-- Appends the bytes of `count` blocks from block `number` on. -/
def pushBlocks (key : List UInt32) : (count : Nat) → (number : UInt64) → Array UInt8 → Array UInt8
  | 0, _, out => out
  | count + 1, number, out =>
    pushBlocks key count (number + 1) (pushBlock out (Block.output key number))

/-- At least the first `length` bytes of the stream of a seed. -/
def bytes (seed : UInt64) (length : Nat) : Array UInt8 :=
  pushBlocks (key seed) (length / 64 + 1) 0 #[]

end Keystream

/-- What an uninitialised process starts with: `size` bytes of stack, and the registers. -/
structure Noise (size : Nat) where
  stack : Vector UInt8 size
  registers : Registers

namespace Noise

/-- The eight-byte word at `offset` of a byte stream. -/
def wordAt (stream : Array UInt8) (offset : Nat) : UInt64 :=
  (List.range 8).foldr (fun i w => (w <<< 8) ||| (stream.getD (offset + i) 0).toUInt64) 0

/-- The noise of a seed. The stack takes the stream's first bytes; the registers follow from the
next multiple of four on, eight bytes each. -/
def ofSeed (seed : UInt64) (size : Nat) : Noise size :=
  let start := (size + 3) / 4 * 4
  let stream := Keystream.bytes seed (start + 128)
  { stack := Vector.ofFn fun i => stream.getD i.val 0
    registers := ⟨Vector.ofFn fun i => wordAt stream (start + 8 * i.val)⟩ }

end Noise

end GuestMachine
