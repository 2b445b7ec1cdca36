import GuestMachine.Codec

/-!
# Executable images

An image holds three stored segments and the size of a fourth that starts out as zeros. Its
written form is a header of six words (the magic, the version and four lengths) followed by the
stored segments, and nothing else.
-/

namespace GuestMachine

/-- Why an image could not be read or written. -/
inductive ImageError where
  | wrongMagic
  | wrongVersion (expected found : UInt64)
  /-- The header and the rest of the file do not fit together. -/
  | corrupt (detail : String)
  /-- An image without any bytes is never written. -/
  | empty
  /-- The host refused to read or write the file. -/
  | host (detail : String)
deriving DecidableEq

def ImageError.message : ImageError → String
  | wrongMagic => "not an executable image (bad magic)"
  | wrongVersion expected found =>
    "unsupported executable version " ++ toString found.toNat ++
      " (expected " ++ toString expected.toNat ++ ")"
  | corrupt detail => "executable format corrupt: " ++ detail
  | empty => "executable is empty"
  | host detail => "io error: " ++ detail

/-- The segments of an executable (`Executable`, §6). -/
structure Image where
  text : Bytes := []
  rodata : Bytes := []
  data : Bytes := []
  bss : UInt64 := 0
deriving DecidableEq

namespace Image

def blank : Image := {}

/-- The eight bytes every written image starts with. -/
def magic : Vector UInt8 8 := #v[0x56, 0x50, 0x52, 0x4F, 0x43, 0x45, 0x58, 0x45]

def version : UInt64 := 1

/-- The stored segments, one after the other. -/
def content (e : Image) : Bytes := e.text ++ e.rodata ++ e.data

/-- Tells whether an image holds no bytes at all, stored or not (`is_empty`). -/
def isEmpty (e : Image) : Bool := e.content.isEmpty && e.bss == 0

/-- The header: magic, version, and the lengths of the four segments. -/
def headerLayout : Layout := .record [.array 8 .byte, .word, .word, .word, .word, .word]

/-- The length of a segment as a header word. -/
def lengthWord (segment : Bytes) : UInt64 := UInt64.ofNat segment.length

/-- The header of an image. -/
def header (e : Image) : headerLayout.Value :=
  (magic, version, lengthWord e.text, lengthWord e.rodata, lengthWord e.data, e.bss, ())

/-- The written form of an image (`to_bytes`, §6). -/
def toBytes (e : Image) : Bytes := headerLayout.encode e.header ++ e.content

/-- Cuts the stored bytes into segments of the declared lengths (the end of `from_bytes`, §6). -/
def ofContent (textLength rodataLength dataLength bss : UInt64) (content : Bytes) :
    Except ImageError Image :=
  let declared := textLength.toNat + rodataLength.toNat + dataLength.toNat
  if UInt64.size ≤ declared then .error (.corrupt "segment lengths overflow")
  else if declared ≠ content.length then
    .error (.corrupt ("header declares " ++ toString declared ++ " content bytes but " ++
      toString content.length ++ " are present"))
  else
    .ok {
      text := content.take textLength.toNat
      rodata := (content.drop textLength.toNat).take rodataLength.toNat
      data := content.drop (textLength.toNat + rodataLength.toNat)
      bss := bss }

/-- Reads the written form of an image (`from_bytes`, §6). -/
def ofBytes (bytes : Bytes) : Except ImageError Image :=
  if bytes.length < 8 then .error (.corrupt "truncated header")
  else if bytes.take 8 ≠ magic.toList then .error .wrongMagic
  else
    match headerLayout.decode bytes with
    | .error _ => .error (.corrupt "truncated header")
    | .ok ((_, found, textLength, rodataLength, dataLength, bss, ()), content) =>
      if found ≠ version then .error (.wrongVersion version found)
      else ofContent textLength rodataLength dataLength bss content

end Image

end GuestMachine
