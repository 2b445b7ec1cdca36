import GuestMachine.Command
import GuestMachine.Image.File
import GuestMachine.Text.Numeral

/-!
# Packing images

The command that packs segment files into an image file, or prints the segment sizes of one.
Nothing is written before every segment has been read.
-/

namespace GuestMachine.Pack

/-- The options of the command. Of a repeated option the last one counts. -/
structure Options where
  text : Option String := none
  rodata : Option String := none
  data : Option String := none
  bss : UInt64 := 0
  output : Option String := none
  inspect : Option String := none

/-- Reads the options: names and values in turn. -/
def parse (o : Options) : List String → Except OptionError Options
  | [] => .ok o
  | [option] => .error (.missingValue option)
  | option :: value :: rest =>
    match option with
    | "--text" => parse { o with text := some value } rest
    | "--rodata" => parse { o with rodata := some value } rest
    | "--data" => parse { o with data := some value } rest
    | "--bss" =>
      match Text.Numeral.word? value with
      | some bss => parse { o with bss := bss } rest
      | none => .error (.notNumber "bss size" value)
    | "--output" | "-o" => parse { o with output := some value } rest
    | "--inspect" => parse { o with inspect := some value } rest
    | other => .error (.unexpected other)

def usage (program : String) : String :=
  "Usage: " ++ program ++ " --text <file> [OPTIONS] -o <image>\n" ++
  "       " ++ program ++ " --inspect <image>\n" ++
  "\n" ++
  "Options:\n" ++
  "  --text <file>        Machine code segment\n" ++
  "  --rodata <file>      Read-only data segment\n" ++
  "  --data <file>        Initialised data segment\n" ++
  "  --bss <bytes>        Zero-filled segment size\n" ++
  "  -o, --output <file>  Image to write\n"

/-- Reads a segment file; an absent one is empty (`read_segment`). -/
def readSegment (host : Host) : Option String → Except String Bytes
  | none => .ok []
  | some path =>
    match host.files.readFile path with
    | .ok bytes => .ok bytes
    | .error e => .error ("Failed to read " ++ path ++ ": " ++ e.message)

/-- Prints the segment sizes of an image file. -/
def inspect (host : Host) (path : String) : Report :=
  match Image.load host.files path with
  | .error e => .failed host ("Failed to load " ++ path ++ ": " ++ e.message)
  | .ok image =>
    ⟨some 0, host.print .stdout (
      "text   " ++ toString image.text.length ++ "\n" ++
      "rodata " ++ toString image.rodata.length ++ "\n" ++
      "data   " ++ toString image.data.length ++ "\n" ++
      "bss    " ++ toString image.bss.toNat ++ "\n")⟩

/-- The image of the segment files. -/
def assemble (host : Host) (o : Options) (text : String) : Except String Image := do
  let text ← readSegment host (some text)
  let rodata ← readSegment host o.rodata
  let data ← readSegment host o.data
  return ⟨text, rodata, data, o.bss⟩

/-- Packs segment files into an image file. -/
def pack (host : Host) (o : Options) (text output : String) : Report :=
  match assemble host o text with
  | .error message => .failed host message
  | .ok image =>
    match image.save host.files output with
    | .error e => .failed host ("Failed to write " ++ output ++ ": " ++ e.message)
    | .ok files =>
      ⟨some 0, { host with files := files }.log .info (
        "wrote " ++ output ++ " (text " ++ toString image.text.length ++
        ", rodata " ++ toString image.rodata.length ++ ", data " ++ toString image.data.length ++
        ", bss " ++ toString image.bss.toNat ++ ")")⟩

/-- Does what the options ask for. -/
def execute (host : Host) (o : Options) : Report :=
  match o.inspect, o.text, o.output with
  | some path, _, _ => inspect host path
  | none, none, _ => .failed host "--text is required"
  | none, some _, none => .failed host "--output is required"
  | none, some text, some output => pack host o text output

/-- Runs the command (`mkexe`, §G). -/
def run (program : String) (args : List String) (host : Host) : Report :=
  match args with
  | [] => ⟨some 1, host.print .stderr (usage program)⟩
  | first :: _ =>
    if asksForHelp first then ⟨some 0, host.print .stderr (usage program)⟩
    else
      match parse {} args with
      | .error e => e.report host (usage program)
      | .ok o => execute host o

end GuestMachine.Pack
