import GuestMachine.Host

/-!
# Host streams

A stream is what a descriptor stands for: a file, a fixed source of bytes, an output, a pipe, or
a device. Each call gives an answer, the stream as it is afterwards and the host as it is
afterwards, and leaves its mark in the journal.
-/

namespace GuestMachine

/-- A stream defined by its answers, which may depend on everything asked of it before. The answer
is all that there is to a call: a read fills the buffer it is lent with the bytes that it reports
and touches no other byte of it, and none at all if it fails. A stream that scribbles on the buffer
beyond its answer is not one of these. -/
structure Device where
  read : List StreamEvent → (count : Nat) → Except HostError Bytes
  write : List StreamEvent → (data : Bytes) → Except HostError Nat
  seek : List StreamEvent → SeekTarget → Except HostError UInt64
  flush : List StreamEvent → Except HostError Unit

/-- What is behind a stream. -/
inductive Backend where
  | file (f : OpenFile)
  /-- Bytes that can be read once. -/
  | source (rest : Bytes)
  /-- Bytes that are collected. -/
  | sink (o : Output)
  /-- A queue shared with the host and with other streams. -/
  | pipe (name : String)
  | device (d : Device)

/-- A stream that was handed to a descriptor (`HostStream`, §F). -/
structure Stream where
  id : StreamId
  backend : Backend

/-- The answer to a call, with the stream and the host it leaves. -/
structure Reply (α : Type) where
  result : Except HostError α
  stream : Stream
  host : Host

namespace Stream

/-- Reads at most `count` bytes, before the journal is written. -/
def readBackend (s : Stream) (h : Host) (count : Nat) : Reply Bytes :=
  match s.backend with
  | .file f =>
    match f.read h.files count with
    | .ok (data, f) => ⟨.ok data, { s with backend := .file f }, h⟩
    | .error e => ⟨.error e, s, h⟩
  | .source rest => ⟨.ok (rest.take count), { s with backend := .source (rest.drop count) }, h⟩
  | .sink _ => ⟨.error (.unsupported .reading), s, h⟩
  | .pipe name =>
    let queue := h.pipe name
    if queue.isEmpty || count == 0 then ⟨.ok [], s, h⟩
    else ⟨.ok (queue.take count), s, h.setPipe name (queue.drop count)⟩
  | .device d => ⟨(d.read (h.history s.id) count).map (·.take count), s, h⟩

/-- Offers bytes once, before the journal is written; the answer is how many were taken. -/
def writeBackend (s : Stream) (h : Host) (data : Bytes) : Reply Nat :=
  match s.backend with
  | .file f =>
    match f.write h.files data with
    | .ok (f, files) => ⟨.ok data.length, { s with backend := .file f }, { h with files := files }⟩
    | .error e => ⟨.error e, s, h⟩
  | .source _ => ⟨.error (.unsupported .writing), s, h⟩
  | .sink o => ⟨.ok data.length, s, h.emit o data⟩
  | .pipe name => ⟨.ok data.length, s, h.pushPipe name data⟩
  | .device d => ⟨d.write (h.history s.id) data, s, h⟩

/-- Moves the position, before the journal is written. -/
def seekBackend (s : Stream) (h : Host) (target : SeekTarget) : Reply UInt64 :=
  match s.backend with
  | .file f =>
    match f.seek h.files target with
    | .ok (position, f) => ⟨.ok position, { s with backend := .file f }, h⟩
    | .error e => ⟨.error e, s, h⟩
  | .device d => ⟨d.seek (h.history s.id) target, s, h⟩
  | _ => ⟨.error (.unsupported .seeking), s, h⟩

/-- Reads at most `count` bytes. -/
def read (s : Stream) (h : Host) (count : Nat) : Reply Bytes :=
  let r := s.readBackend h count
  { r with host := r.host.record s.id (.read r.result) }

/-- Offers bytes once; the answer is how many were taken. -/
def writeSome (s : Stream) (h : Host) (data : Bytes) : Reply Nat :=
  let r := s.writeBackend h data
  { r with host := r.host.record s.id (.write data r.result) }

/-- Moves the position. -/
def seek (s : Stream) (h : Host) (target : SeekTarget) : Reply UInt64 :=
  let r := s.seekBackend h target
  { r with host := r.host.record s.id (.seek target r.result) }

/-- Passes on whatever the stream holds back. -/
def flush (s : Stream) (h : Host) : Reply Unit :=
  let result := match s.backend with
    | .device d => d.flush (h.history s.id)
    | _ => .ok ()
  ⟨result, s, h.record s.id (.flush result)⟩

def drop (s : Stream) (h : Host) : Host := h.record s.id .drop

/-- Offers bytes until all are taken (`write_all`). It is an error if none is taken while some are
left. -/
def writeAll (s : Stream) (h : Host) (data : Bytes) : Reply Unit :=
  match data with
  | [] => ⟨.ok (), s, h⟩
  | b :: rest =>
    let r := s.writeSome h (b :: rest)
    match r.result with
    | .error e => ⟨.error e, r.stream, r.host⟩
    | .ok 0 => ⟨.error .writeZero, r.stream, r.host⟩
    | .ok (n + 1) => r.stream.writeAll r.host (rest.drop n)
termination_by data.length
decreasing_by
  rw [List.length_drop, List.length_cons]
  omega

end Stream

end GuestMachine
