/-!
# Numerals

How word-sized numbers are read from a command line and shown in messages.
-/

namespace GuestMachine.Text.Numeral

/-- The value of a non-empty string of decimal digits. -/
def digits? : List Char → Option Nat
  | [] => none
  | cs => cs.foldl (fun n c => n.bind fun n =>
      if c.isDigit then some (n * 10 + (c.toNat - '0'.toNat)) else none) (some 0)

/-- Reads a decimal numeral below 2^64: digits, after at most one plus sign. -/
def word? (text : String) : Option UInt64 :=
  let cs := match text.toList with
    | '+' :: rest => rest
    | cs => cs
  (digits? cs).bind fun n => if n < UInt64.size then some (UInt64.ofNat n) else none

/-- Shows a word in lower-case hexadecimal after `0x`. -/
def hex (w : UInt64) : String := "0x" ++ String.ofList (Nat.toDigits 16 w.toNat)

end GuestMachine.Text.Numeral
