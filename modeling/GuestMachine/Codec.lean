import GuestMachine.Bytes

/-!
# Fixed-layout records

A layout describes a record of bytes and words, built from arrays and nested records without
length fields. The size of an encoded record depends on its layout alone.
-/

namespace GuestMachine

/-- Something that takes in encoded bytes. -/
class Sink (σ : Type) where
  write : σ → Bytes → σ

instance : Sink Bytes where
  write out bytes := out ++ bytes

/-- A sink that counts bytes and stores none. -/
structure ByteCount where
  total : Nat

namespace ByteCount

def zero : ByteCount := ⟨0⟩

def isEmpty (c : ByteCount) : Bool := c.total == 0

instance : Sink ByteCount where
  write count bytes := ⟨count.total + bytes.length⟩

end ByteCount

/-- Why a byte string is not a record. -/
inductive DecodeError where
  /-- The input ended before the record did. -/
  | unexpectedEnd
  /-- So many bytes were left after the record. -/
  | trailingBytes (count : Nat)
deriving DecidableEq

def DecodeError.message : DecodeError → String
  | unexpectedEnd => "unexpected end of input"
  | trailingBytes count => toString count ++ " trailing bytes"

/-- The shape of a record. -/
inductive Layout where
  | unit
  | byte
  | word
  | array (count : Nat) (item : Layout)
  | pair (first second : Layout)

namespace Layout

/-- A record of several fields in order. -/
def record : List Layout → Layout
  | [] => unit
  | field :: fields => pair field (record fields)

/-- The values a layout describes. -/
@[reducible] def Value : Layout → Type
  | unit => Unit
  | byte => UInt8
  | word => UInt64
  | array count item => Vector (Value item) count
  | pair first second => Value first × Value second

/-- The number of bytes of an encoded record. -/
def size : Layout → Nat
  | unit => 0
  | byte => 1
  | word => 8
  | array count item => count * size item
  | pair first second => size first + size second

/-- Writes a value to a sink: fields and items in order, words little-endian (`encode`). -/
def encodeTo {σ : Type} [Sink σ] : (layout : Layout) → layout.Value → σ → σ
  | unit, _, out => out
  | byte, b, out => Sink.write out [b]
  | word, w, out => Sink.write out (Bytes.ofWord w)
  | array _ item, items, out => items.toList.foldl (fun out x => encodeTo item x out) out
  | pair first second, (x, y), out => encodeTo second y (encodeTo first x out)

/-- The bytes of a value (`to_bytes`). -/
def encode (layout : Layout) (value : layout.Value) : Bytes := layout.encodeTo value []

/-- The number of bytes of a value, found by counting (`encoded_len`). -/
def encodedLength (layout : Layout) (value : layout.Value) : Nat :=
  (layout.encodeTo value ByteCount.zero).total

/-- Splits `count` bytes off the front of the input (`take`). -/
def take (count : Nat) (input : Bytes) : Except DecodeError (Bytes × Bytes) :=
  if input.length < count then .error .unexpectedEnd else .ok (input.splitAt count)

/-- Reads `count` items one after the other. -/
def decodeItems {α : Type} (item : Bytes → Except DecodeError (α × Bytes)) :
    (count : Nat) → Bytes → Except DecodeError (Vector α count × Bytes)
  | 0, input => .ok (#v[], input)
  | count + 1, input => do
    let (items, input) ← decodeItems item count input
    let (x, input) ← item input
    return (items.push x, input)

/-- Reads a value off the front of the input, and gives the rest back (`decode`). -/
def decode : (layout : Layout) → Bytes → Except DecodeError (layout.Value × Bytes)
  | unit, input => .ok ((), input)
  | byte, input => do
    let (head, rest) ← take 1 input
    return (UInt8.ofNat (Bytes.value head), rest)
  | word, input => do
    let (head, rest) ← take 8 input
    return (Bytes.toWord head, rest)
  | array count item, input => decodeItems (decode item) count input
  | pair first second, input => do
    let (x, input) ← decode first input
    let (y, input) ← decode second input
    return ((x, y), input)

/-- Reads a value that takes up all of the input (`from_slice`). -/
def decodeAll (layout : Layout) (input : Bytes) : Except DecodeError layout.Value := do
  let (value, rest) ← layout.decode input
  if rest.isEmpty then return value else throw (.trailingBytes rest.length)

end Layout

end GuestMachine
