import GuestMachine.Bytes
import GuestMachine.Host.Error
import GuestMachine.Table

/-!
# The host file system

A tree of directories and files below one root, which is also the working directory. A file's
bytes are kept apart from its name, so that an open file outlives its removal or its renaming.
Every operation that fails leaves the tree as it was.
-/

namespace GuestMachine

/-- The names from the root down to an entry; the root itself is the empty path. -/
abbrev Path := List String

/-- What a name in the tree stands for. -/
inductive Entry where
  | directory
  /-- A file, by the number of its bytes. -/
  | file (id : Nat)
deriving DecidableEq

/-- The tree and the bytes of all files, including removed ones. -/
structure FileSystem where
  tree : Table Path Entry
  contents : Array Bytes

/-- How a file is to be opened. -/
structure OpenOptions where
  read : Bool := false
  write : Bool := false
  append : Bool := false
  truncate : Bool := false
  create : Bool := false
  createNew : Bool := false

namespace OpenOptions

/-- Tells whether the options name a way to make or empty a file. -/
def shapes (o : OpenOptions) : Bool := o.truncate || o.create || o.createNew

/-- Why a combination of options is refused, if so. -/
def refused? (o : OpenOptions) : Option HostError :=
  if o.append then
    if o.truncate && !o.createNew then some .creationWithoutWriting else none
  else if o.write then none
  else if o.shapes then some .creationWithoutWriting
  else if o.read then none
  else some .noAccess

/-- Tells whether a missing file is made. -/
def creating (o : OpenOptions) : Bool := o.create || o.createNew

/-- Tells whether the opened file may be written. -/
def writing (o : OpenOptions) : Bool := o.write || o.append

/-- Tells whether an existing file is emptied. -/
def emptying (o : OpenOptions) : Bool := o.truncate && !o.createNew

end OpenOptions

/-- Where a seek leads to. -/
inductive SeekTarget where
  | start (offset : UInt64)
  | current (offset : Int64)
  | fromEnd (offset : Int64)
deriving DecidableEq

/-- An open file or directory with its position. -/
structure OpenFile where
  entry : Entry
  position : Nat := 0
  readable : Bool
  writable : Bool
  append : Bool

/-- The last part of a path: a name, the directory itself, the one above, or the root. -/
inductive PathEnd where
  | name (n : String)
  | here
  | above
  | root
deriving DecidableEq

/-- A path whose directories have been found. -/
structure PathTarget where
  parent : Path
  last : PathEnd
  /-- A slash stood at the end, so a directory is meant. -/
  slash : Bool

/-- The entry a found path names. -/
def PathTarget.path (t : PathTarget) : Path :=
  match t.last with
  | .name n => t.parent ++ [n]
  | .here => t.parent
  | .above => t.parent.dropLast
  | .root => []

namespace FileSystem

def empty : FileSystem := ⟨Table.empty, #[]⟩

/-- The entry at a path. -/
def entry? (fs : FileSystem) (path : Path) : Option Entry :=
  if path = [] then some .directory else fs.tree.get? path

def bytesOf (fs : FileSystem) (id : Nat) : Bytes := fs.contents.getD id []

def setBytes (fs : FileSystem) (id : Nat) (bytes : Bytes) : FileSystem :=
  { fs with contents := fs.contents.setIfInBounds id bytes }

/-- The longest name, in bytes. -/
def nameLimit : Nat := 255

/-- The longest path, in bytes. -/
def pathLimit : Nat := 4095

/-- Follows the names of directories from `here` on. -/
def walk (fs : FileSystem) (here : Path) : List String → Except HostError Path
  | [] => .ok here
  | n :: rest =>
    if n = "." then fs.walk here rest
    else if n = ".." then fs.walk here.dropLast rest
    else if nameLimit < n.utf8ByteSize then .error .nameTooLong
    else
      match fs.entry? (here ++ [n]) with
      | none => .error .noEntry
      | some (.file _) => .error .notDirectory
      | some .directory => fs.walk (here ++ [n]) rest

/-- Finds the directory a path leads into. Empty names between slashes do not count. -/
def locate (fs : FileSystem) (text : String) : Except HostError PathTarget := do
  if text.toList.any (· == Char.ofNat 0) then throw .zeroInPath
  if text = "" then throw .noEntry
  if pathLimit < text.utf8ByteSize then throw .nameTooLong
  let names := (text.splitOn "/").filter (· ≠ "")
  let slash := text.toList.getLast? == some '/'
  match names.getLast? with
  | none => return ⟨[], .root, slash⟩
  | some last =>
    let parent ← fs.walk [] names.dropLast
    if last = "." then return ⟨parent, .here, slash⟩
    else if last = ".." then return ⟨parent, .above, slash⟩
    else return ⟨parent, .name last, slash⟩

/-- Looks up what a found path names, if anything. Only now does the length of its last name
count. -/
def lookup (fs : FileSystem) (target : PathTarget) : Except HostError (Option Entry) :=
  match target.last with
  | .name n =>
    if nameLimit < n.utf8ByteSize then .error .nameTooLong else .ok (fs.entry? target.path)
  | _ => .ok (some .directory)

/-- Tells whether a directory has entries. -/
def hasEntries (fs : FileSystem) (path : Path) : Bool :=
  fs.tree.entries.any fun e => e.1.dropLast == path

/-- An open file at its start. -/
def opened (o : OpenOptions) (entry : Entry) : OpenFile :=
  { entry := entry, readable := o.read, writable := o.writing, append := o.append }

/-- Opens something that exists. -/
def openExisting (fs : FileSystem) (o : OpenOptions) (slash : Bool) (entry : Entry) :
    Except HostError (OpenFile × FileSystem) :=
  if o.createNew then .error .alreadyExists
  else
    match entry with
    | .directory =>
      if o.creating || o.writing then .error .isDirectory else .ok (opened o .directory, fs)
    | .file id =>
      if slash then .error .notDirectory
      else .ok (opened o (.file id), if o.emptying then fs.setBytes id [] else fs)

/-- Makes an empty file and opens it. -/
def openNew (fs : FileSystem) (o : OpenOptions) (path : Path) : OpenFile × FileSystem :=
  let id := fs.contents.size
  (opened o (.file id), ⟨fs.tree.insert path (.file id), fs.contents.push []⟩)

def openFile (fs : FileSystem) (text : String) (o : OpenOptions) :
    Except HostError (OpenFile × FileSystem) := do
  if text.toList.any (· == Char.ofNat 0) then throw .zeroInPath
  if let some error := o.refused? then throw error
  let target ← fs.locate text
  match target.last with
  | .name _ =>
    if o.creating && target.slash then throw .isDirectory
    match ← fs.lookup target with
    | some entry => fs.openExisting o target.slash entry
    | none => if o.creating then return fs.openNew o target.path else throw .noEntry
  | _ => fs.openExisting o target.slash .directory

/-- Renames an entry, replacing what the new name stood for: a file gives way to a file, an
empty directory to a directory. -/
def rename (fs : FileSystem) (source target : String) : Except HostError FileSystem := do
  let old ← fs.locate source
  let new ← fs.locate target
  match old.last, new.last with
  | .name _, .name _ =>
    let some entry ← fs.lookup old | throw .noEntry
    let replaced ← fs.lookup new
    if entry ≠ .directory ∧ (old.slash ∨ new.slash) then throw .notDirectory
    if old.path.isPrefixOf new.parent then throw .invalidArgument
    if new.path.isPrefixOf old.parent then throw .notEmpty
    if old.path = new.path then return fs
    match entry, replaced with
    | .file _, some .directory => throw .isDirectory
    | .directory, some (.file _) => throw .notDirectory
    | .directory, some .directory => if fs.hasEntries new.path then throw .notEmpty
    | _, _ => pure ()
    let kept := fs.tree.entries.filter fun e => e.1 ≠ new.path
    let moved := kept.map fun e =>
      if old.path.isPrefixOf e.1 then (new.path ++ e.1.drop old.path.length, e.2) else e
    return { fs with tree := ⟨moved⟩ }
  | _, _ => throw .busy

def removeFile (fs : FileSystem) (text : String) : Except HostError FileSystem := do
  let target ← fs.locate text
  match target.last with
  | .name _ =>
    match ← fs.lookup target with
    | none => throw .noEntry
    | some .directory => throw .isDirectory
    | some (.file _) =>
      if target.slash then throw .notDirectory
      return { fs with tree := fs.tree.erase target.path }
  | _ => throw .isDirectory

def createDirectory (fs : FileSystem) (text : String) : Except HostError FileSystem := do
  let target ← fs.locate text
  match target.last with
  | .name _ =>
    match ← fs.lookup target with
    | some _ => throw .alreadyExists
    | none => return { fs with tree := fs.tree.insert target.path .directory }
  | _ => throw .alreadyExists

def removeDirectory (fs : FileSystem) (text : String) : Except HostError FileSystem := do
  let target ← fs.locate text
  match target.last with
  | .here => throw .invalidArgument
  | .above => throw .notEmpty
  | .root => throw .busy
  | .name _ =>
    match ← fs.lookup target with
    | none => throw .noEntry
    | some (.file _) => throw .notDirectory
    | some .directory =>
      if fs.hasEntries target.path then throw .notEmpty
      return { fs with tree := fs.tree.erase target.path }

/-- The bytes of `data` from `position` on over those of `bytes`; a gap is filled with zeros. -/
def overwrite (bytes : Bytes) (position : Nat) (data : Bytes) : Bytes :=
  bytes.take position ++ List.replicate (position - bytes.length) 0 ++ data ++
    bytes.drop (position + data.length)

end FileSystem

namespace OpenFile

/-- The largest position in a file. -/
def positionLimit : Nat := 0x7FFFFFFFFFFFFFFF

/-- Tells whether `count` bytes from the position on would pass the largest position. -/
def overruns (f : OpenFile) (count : Nat) : Bool := decide (positionLimit < f.position + count)

/-- Reads at most `count` bytes at the position and moves behind them. -/
def read (f : OpenFile) (fs : FileSystem) (count : Nat) : Except HostError (Bytes × OpenFile) :=
  if !f.readable then .error .badDescriptor
  else if f.overruns count then .error .invalidArgument
  else
    match f.entry with
    | .directory => .error .isDirectory
    | .file id =>
      let data := ((fs.bytesOf id).drop f.position).take count
      .ok (data, { f with position := f.position + data.length })

/-- Writes at the position, or at the end of a file opened for appending, and moves behind. -/
def write (f : OpenFile) (fs : FileSystem) (data : Bytes) :
    Except HostError (OpenFile × FileSystem) :=
  if !f.writable then .error .badDescriptor
  else if f.overruns data.length then .error .invalidArgument
  else
    match f.entry with
    | .directory => .error .badDescriptor
    | .file id =>
      let bytes := fs.bytesOf id
      let position := if f.append then bytes.length else f.position
      .ok ({ f with position := position + data.length },
        fs.setBytes id (FileSystem.overwrite bytes position data))

/-- Moves the position. It may lie beyond the end, but not before the start. The end of a
directory is the largest position. -/
def seek (f : OpenFile) (fs : FileSystem) (target : SeekTarget) :
    Except HostError (UInt64 × OpenFile) :=
  let length := match f.entry with
    | .directory => positionLimit
    | .file id => (fs.bytesOf id).length
  let position : Int := match target with
    | .start offset => offset.toInt64.toInt
    | .current offset => f.position + offset.toInt
    | .fromEnd offset => length + offset.toInt
  if 0 ≤ position ∧ position ≤ positionLimit then
    .ok (UInt64.ofNat position.toNat, { f with position := position.toNat })
  else .error .invalidArgument

end OpenFile

namespace FileSystem

/-- Reads a whole file. -/
def readFile (fs : FileSystem) (text : String) : Except HostError Bytes := do
  let (f, fs) ← fs.openFile text { read := true }
  match f.entry with
  | .directory => throw .isDirectory
  | .file id => return fs.bytesOf id

/-- Makes or replaces a whole file. -/
def writeFile (fs : FileSystem) (text : String) (data : Bytes) : Except HostError FileSystem := do
  let (f, fs) ← fs.openFile text { write := true, create := true, truncate := true }
  match f.entry with
  | .directory => throw .isDirectory
  | .file id => return fs.setBytes id data

/-- All entries by their paths in the order of their characters, with the bytes of files. -/
def listing (fs : FileSystem) : List (String × Option Bytes) :=
  let shown := fs.tree.entries.map fun e =>
    ("/".intercalate e.1, match e.2 with
      | .directory => none
      | .file id => some (fs.bytesOf id))
  shown.mergeSort fun a b => decide (a.1 ≤ b.1)

end FileSystem

end GuestMachine
