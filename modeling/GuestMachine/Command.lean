import GuestMachine.Host

/-!
# Commands

What the command-line programs share: a command works on a host and reports an exit status.
-/

namespace GuestMachine

/-- How a command ended. -/
structure Report where
  /-- The exit status; absent if a guest was still running when the allotted ticks were used up. -/
  status : Option UInt8
  host : Host

namespace Report

/-- A command that reports a mistake and fails. -/
def failed (host : Host) (message : String) : Report := ⟨some 1, host.log .error message⟩

end Report

/-- A mistake in the options of a command. -/
inductive OptionError where
  /-- An option that takes a value stands at the end. -/
  | missingValue (option : String)
  /-- The value of an option is not a number. -/
  | notNumber (subject value : String)
  /-- An argument that means nothing here. -/
  | unexpected (argument : String)
deriving DecidableEq

def OptionError.message : OptionError → String
  | missingValue option => option ++ " requires an argument"
  | notNumber subject value => "Invalid " ++ subject ++ ": '" ++ value ++ "' is not a number"
  | unexpected argument => "Unexpected argument: " ++ argument

namespace OptionError

/-- Reports a mistake in the options. An argument that means nothing brings up the usage. -/
def report (e : OptionError) (host : Host) (usage : String) : Report :=
  let host := host.log .error e.message
  match e with
  | unexpected _ => ⟨some 1, host.print .stderr usage⟩
  | _ => ⟨some 1, host⟩

end OptionError

/-- Tells whether an argument asks for the usage. -/
def asksForHelp (argument : String) : Bool := argument == "--help" || argument == "-h"

end GuestMachine
