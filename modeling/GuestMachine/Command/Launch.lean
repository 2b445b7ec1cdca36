import GuestMachine.Command
import GuestMachine.Image.File
import GuestMachine.Machine.Boot
import GuestMachine.Machine.Step

/-!
# Launching a process

The command that runs an image file. Standard input comes in chunks. A process that reads more
than has arrived is suspended, and goes on when the next chunks, or the end of the input, have
been delivered.
-/

namespace GuestMachine.Launch

structure Options where
  config : Config := {}
  /-- The seed, if one was given. -/
  seed : Option UInt64 := none
  stack : UInt64 := 2097152
  blockingInput : Bool := false
  verbose : Bool := false
  /-- The arguments of the process, after its own name. -/
  arguments : List String := []

/-- The surroundings of the command: the seed in the environment, a seed drawn by the host, and
the input. Each batch holds the chunks that are there when the process has to wait. -/
structure Surroundings where
  seedVariable : Option String := none
  drawnSeed : UInt64 := 0
  batches : List (List Bytes) := []

/-- The environment variable that may hold the seed. -/
def seedVariableName : String := "VPROC_SEED"

/-- Reads the value of a numeric option (`parse_number`). -/
def number (option value : String) : Except OptionError UInt64 :=
  match Text.Numeral.word? value with
  | some n => .ok n
  | none => .error (.notNumber ("value for " ++ option) value)

/-- Reads the options. Everything after `--` belongs to the process. -/
def parse (o : Options) : List String → Except OptionError Options
  | [] => .ok o
  | "--fs" :: rest => parse { o with config := { o.config with fsEnabled := true } } rest
  | "--blocking-stdin" :: rest => parse { o with blockingInput := true } rest
  | "--verbose" :: rest => parse { o with verbose := true } rest
  | "-v" :: rest => parse { o with verbose := true } rest
  | "--" :: rest => .ok { o with arguments := rest }
  | "--seed" :: value :: rest => do
    parse { o with seed := some (← number "--seed" value) } rest
  | "--stack" :: value :: rest => do
    parse { o with stack := ← number "--stack" value } rest
  | "--max-memory" :: value :: rest => do
    parse { o with config := { o.config with maxMemory := ← number "--max-memory" value } } rest
  | ["--seed"] => .error (.missingValue "--seed")
  | ["--stack"] => .error (.missingValue "--stack")
  | ["--max-memory"] => .error (.missingValue "--max-memory")
  | other :: _ => .error (.unexpected other)

/-- The seed: the option, else the environment, else the one drawn by the host. -/
def chooseSeed (o : Options) (s : Surroundings) : Except OptionError UInt64 :=
  match o.seed, s.seedVariable with
  | some seed, _ => .ok seed
  | none, some value => number seedVariableName value
  | none, none => .ok s.drawnSeed

def usage (program : String) : String :=
  "Usage: " ++ program ++ " <image> [OPTIONS] [-- ARGS...]\n" ++
  "\n" ++
  "Options:\n" ++
  "  --fs                  Allow filesystem syscalls\n" ++
  "  --seed <n>            Seed for uninitialised memory (env " ++ seedVariableName ++ ")\n" ++
  "  --stack <bytes>       Stack reserve [default: 2097152]\n" ++
  "  --max-memory <bytes>  Address-space limit\n" ++
  "  --blocking-stdin      Read stdin directly instead of suspending\n" ++
  "  -v, --verbose         Enable debug logging\n"

/-- The pipe that carries standard input. -/
def inputPipe : String := "stdin"

/-- Gives the process its standard streams. -/
def installStreams (blocking : Bool) (input : Bytes) : Faulting Descriptors Unit := do
  if blocking then Descriptors.install 0 (.source input) false
  else Descriptors.install 0 (.pipe inputPipe) true
  Descriptors.install 1 (.sink .stdout) false
  Descriptors.install 2 (.sink .stderr) false

/-- A process in the course of its run. -/
structure Session where
  machine : Machine
  /-- The batches that have not arrived yet. -/
  batches : List (List Bytes)
  /-- The instructions completed so far. -/
  ticks : Nat := 0

namespace Session

/-- Delivers the next batch of input, or the end of it (the `vproc` driver, §G). At the end, the
input is no longer interactive, so that reading it gives nothing instead of waiting. -/
def deliver (s : Session) : Session :=
  match s.batches with
  | batch :: rest =>
    { s with
      machine := s.machine.mapHost fun h => h.pushPipe inputPipe batch.flatten
      batches := rest }
  | [] =>
    let m := s.machine.log .debug "stdin closed; delivering end of input"
    match Machine.onDescriptors (Descriptors.setInteractive 0 false) m with
    | (.ok _, m) => { s with machine := m }
    | (.error fault, m) =>
      { s with machine := m.log .debug ("stdin descriptor already closed: " ++ fault.message) }

/-- Runs until the process stops, waits or has used up `fuel` ticks. -/
def advance (fuel : Nat) (s : Session) : Session :=
  let (count, m) := s.machine.run SyscallTable.standard fuel
  { s with machine := m, ticks := s.ticks + count }

/-- Runs to the end and delivers input whenever the process waits for it, at most `waits` times (the
loop of the `vproc` driver, §G). -/
def serve (fuel : Nat) : (waits : Nat) → Session → Session
  | 0, s => s.advance fuel
  | waits + 1, s =>
    let s := s.advance fuel
    if s.machine.life.suspended then
      let s := s.deliver
      serve fuel waits { s with machine := s.machine.resume }
    else s

end Session

/-- Reports how a process ended. Its exit value becomes the exit status; a fault gives one. -/
def conclude (s : Session) : Report :=
  let m := s.machine
  match m.status with
  | .exited code =>
    let m := m.log .info ("process exited with " ++ toString code.toInt ++ " after " ++
      toString s.ticks ++ " instructions")
    ⟨some code.toUInt32.toUInt8, m.host⟩
  | .faulted cause =>
    .failed m.host ("process faulted at rip " ++ Text.Numeral.hex m.core.rip ++ ": " ++
      cause.message)
  | _ => ⟨none, m.host⟩

/-- Runs a started process with its standard streams. -/
def runProcess (fuel : Nat) (blocking : Bool) (s : Surroundings) (path : String) (image : Image)
    (arguments : Nat) (m : Machine) : Report :=
  match Machine.onDescriptors (installStreams blocking s.batches.flatten.flatten) m with
  | (.error fault, m) => .failed m.host ("Failed to set up standard streams: " ++ fault.message)
  | (.ok _, m) =>
    let m := m.log .info ("running " ++ path ++ " (" ++ toString image.text.length ++
      " bytes of text, " ++ toString arguments ++ " arguments)")
    let batches := if blocking then [] else s.batches
    conclude (Session.serve fuel (batches.length + 1) { machine := m, batches := batches })

/-- Loads, starts and runs an image file. -/
def launch (fuel : Nat) (host : Host) (s : Surroundings) (path : String) (o : Options)
    (seed : UInt64) : Report :=
  match Image.load host.files path with
  | .error e => .failed host ("Failed to load " ++ path ++ ": " ++ e.message)
  | .ok image =>
    let arguments := path :: o.arguments
    match (Machine.new { o.config with seed := seed } host).boot image arguments o.stack with
    | .error e => .failed host ("Failed to start " ++ path ++ ": " ++ e.message)
    | .ok m => runProcess fuel o.blockingInput s path image arguments.length m

/-- Runs the command (`vproc`, §D and §G). Each stretch of the process between two waits is allowed
`fuel` ticks. -/
def run (fuel : Nat) (program : String) (args : List String) (s : Surroundings) (host : Host) :
    Report :=
  match args with
  | [] => ⟨some 1, host.print .stderr (usage program)⟩
  | path :: rest =>
    if asksForHelp path then ⟨some 0, host.print .stderr (usage program)⟩
    else
      match parse {} rest with
      | .error e => e.report host (usage program)
      | .ok o =>
        match chooseSeed o s with
        | .error e => e.report host (usage program)
        | .ok seed => launch fuel { host with verbose := o.verbose } s path o seed

end GuestMachine.Launch
