import Rulebook.Text.Hex
import Rulebook.Text.PrintableTable
import Rulebook.Text.Ranges

/-!
Texts quoted for a message: on one line, between single quotes unless the text holds those and no
double ones, with a backslash before what cannot be shown.
-/

namespace Rulebook.Text

def isPrintable (c : Char) : Bool :=
  if c.toNat < 128 then 32 ≤ c.toNat && c.toNat < 127
  else Ranges.contains PrintableTable.beyondAscii c.toNat

/-- A code point by number, in the shortest of the three forms. -/
def escapeCode (code : Nat) : List Char :=
  if code < 0x100 then '\\' :: 'x' :: hexDigits 2 code
  else if code < 0x10000 then '\\' :: 'u' :: hexDigits 4 code
  else '\\' :: 'U' :: hexDigits 8 code

def quotedChar (quote c : Char) : List Char :=
  if c = quote ∨ c = '\\' then ['\\', c]
  else if c = '\t' then ['\\', 't']
  else if c = '\n' then ['\\', 'n']
  else if c = '\r' then ['\\', 'r']
  else if isPrintable c then [c]
  else escapeCode c.toNat

/-- The quote written around a text. -/
def quoteFor (text : List Char) : Char :=
  if text.contains '\'' && !text.contains '"' then '"' else '\''

def quotedList (text : List Char) : List Char :=
  let quote := quoteFor text
  quote :: text.flatMap (quotedChar quote) ++ [quote]

def quoted (text : String) : String := String.ofList (quotedList text.toList)

/-- Bytes quoted in the same way; only printable ASCII stands for itself. -/
def quotedBytes (bytes : List UInt8) : String :=
  let text := bytes.map fun byte => Char.ofNat byte.toNat
  let quote := quoteFor text
  let shown := text.flatMap fun c =>
    if c.toNat < 128 then quotedChar quote c else escapeCode c.toNat
  String.ofList ('b' :: quote :: shown ++ [quote])

end Rulebook.Text
