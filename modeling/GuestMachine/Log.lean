/-!
# Log levels

Messages have one of four levels. Debug messages are written only on request.
-/

namespace GuestMachine

/-- The level of a message, in rising order. -/
inductive Level where
  | debug
  | info
  | warn
  | error
deriving DecidableEq

namespace Level

/-- The place of a level in the order. -/
def rank : Level → Nat
  | debug => 0
  | info => 1
  | warn => 2
  | error => 3

/-- The tag written in front of a message. -/
def tag : Level → String
  | debug => "DEBUG"
  | info => "INFO"
  | warn => "WARN"
  | error => "ERROR"

instance : Ord Level where
  compare a b := compare a.rank b.rank

/-- Tells whether messages of a level are written. -/
def enabled (verbose : Bool) (level : Level) : Bool := decide (debug.rank < level.rank) || verbose

def line (level : Level) (message : String) : String := level.tag ++ " " ++ message ++ "\n"

end Level

end GuestMachine
