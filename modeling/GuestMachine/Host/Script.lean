import GuestMachine.Host.Stream

/-!
# Scripted devices

A device for trying out guests: it plays given bytes in pieces of limited size, takes a limited
number of bytes, and can be told to fail every flush. Its cursor and what it still takes follow
from what was asked of it before.
-/

namespace GuestMachine

/-- The script of a device. -/
structure Script where
  /-- The bytes it plays. -/
  bytes : Bytes
  /-- The most bytes it delivers or takes in one call. -/
  chunk : Nat := 0xFFFFFFFF
  /-- The most bytes it takes in all. -/
  capacity : Nat := 0xFFFFFFFF
  failsFlush : Bool := false

namespace Script

/-- The cursor after the events so far: reads move it on, seeks put it elsewhere. -/
def cursor (events : List StreamEvent) : Nat :=
  events.foldl (fun place e => match e with
    | .read (.ok data) => place + data.length
    | .seek _ (.ok position) => position.toNat
    | _ => place) 0

/-- The number of bytes taken so far. -/
def taken (events : List StreamEvent) : Nat :=
  events.foldl (fun n e => match e with
    | .write _ (.ok k) => n + k
    | _ => n) 0

/-- The position a seek leads to; it must be a word. -/
def destination? (s : Script) (events : List StreamEvent) (target : SeekTarget) : Option UInt64 :=
  let position : Int := match target with
    | .start offset => offset.toNat
    | .current offset => cursor events + offset.toInt
    | .fromEnd offset => s.bytes.length + offset.toInt
  if 0 ≤ position ∧ position.toNat < UInt64.size then some (UInt64.ofNat position.toNat) else none

/-- The device that follows the script. -/
def device (s : Script) : Device where
  read events count := .ok ((s.bytes.drop (cursor events)).take (min count s.chunk))
  write events data := .ok (min data.length (min s.chunk (s.capacity - taken events)))
  seek events target :=
    match s.destination? events target with
    | some position => .ok position
    | none => .error (.device "invalid seek")
  flush _ := if s.failsFlush then .error (.device "flush failed") else .ok ()

end Script

end GuestMachine
