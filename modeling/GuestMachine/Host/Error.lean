/-!
# Host errors

Why the host refused an operation on a stream or on its file system.
-/

namespace GuestMachine

/-- What a stream may be asked to do and may not support. -/
inductive Ability where
  | reading
  | writing
  | seeking
deriving DecidableEq

def Ability.name : Ability → String
  | reading => "reading"
  | writing => "writing"
  | seeking => "seeking"

/-- The reason for which the host refused. -/
inductive HostError where
  | noEntry
  | badDescriptor
  | busy
  | alreadyExists
  | notDirectory
  | isDirectory
  | invalidArgument
  | nameTooLong
  | notEmpty
  /-- A path with a zero character in it. -/
  | zeroInPath
  /-- An open without reading, writing or appending. -/
  | noAccess
  /-- An open that creates or truncates but neither writes nor appends. -/
  | creationWithoutWriting
  | unsupported (ability : Ability)
  /-- A stream took no byte of a write while bytes were left. -/
  | writeZero
  /-- An error of a device of its own. -/
  | device (detail : String)
deriving DecidableEq

namespace HostError

/-- The wording of an error that has a number in the operating system. -/
def numbered (text : String) (number : Nat) : String :=
  text ++ " (os error " ++ toString number ++ ")"

def message : HostError → String
  | noEntry => numbered "No such file or directory" 2
  | badDescriptor => numbered "Bad file descriptor" 9
  | busy => numbered "Device or resource busy" 16
  | alreadyExists => numbered "File exists" 17
  | notDirectory => numbered "Not a directory" 20
  | isDirectory => numbered "Is a directory" 21
  | invalidArgument => numbered "Invalid argument" 22
  | nameTooLong => numbered "File name too long" 36
  | notEmpty => numbered "Directory not empty" 39
  | zeroInPath => "file name contained an unexpected NUL byte"
  | noAccess => "must specify at least one of read, write, or append access"
  | creationWithoutWriting => "creating or truncating a file requires write or append access"
  | unsupported ability => "stream does not support " ++ ability.name
  | writeZero => "write zero"
  | device detail => detail

end HostError

end GuestMachine
