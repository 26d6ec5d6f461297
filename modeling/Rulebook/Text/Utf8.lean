import Rulebook.Text.Hex

/-!
Reading bytes as UTF-8. Only the shortest form of a character is accepted, and no surrogates.
-/

namespace Rulebook.Text

/-- Why bytes are no text. -/
inductive Utf8Problem where
  | startByte
  | continuationByte
  | endOfData
  deriving DecidableEq, Repr

def Utf8Problem.message : Utf8Problem → String
  | startByte => "invalid start byte"
  | continuationByte => "invalid continuation byte"
  | endOfData => "unexpected end of data"

/-- A problem with the bytes from a position up to below another one; `byte` is the first. -/
structure Utf8Error where
  problem : Utf8Problem
  start : Nat
  stop : Nat
  byte : UInt8
  deriving DecidableEq, Repr

def Utf8Error.message (error : Utf8Error) : String :=
  let place :=
    if error.stop = error.start + 1 then
      let byte := String.ofList (hexDigits 2 error.byte.toNat)
      s!"byte 0x{byte} in position {error.start}"
    else s!"bytes in position {error.start}-{error.stop - 1}"
  s!"'utf-8' codec can't decode {place}: {error.problem.message}"

/-- How many bytes follow a first byte, and the range of the second one. -/
def utf8Tail (first : UInt8) : Option (Nat × UInt8 × UInt8) :=
  if first < 0x80 then some (0, 0, 0)
  else if first < 0xC2 then none
  else if first < 0xE0 then some (1, 0x80, 0xBF)
  else if first = 0xE0 then some (2, 0xA0, 0xBF)
  else if first = 0xED then some (2, 0x80, 0x9F)
  else if first < 0xF0 then some (2, 0x80, 0xBF)
  else if first = 0xF0 then some (3, 0x90, 0xBF)
  else if first < 0xF4 then some (3, 0x80, 0xBF)
  else if first = 0xF4 then some (3, 0x80, 0x8F)
  else none

/-- Collects the following bytes of a character: how many there are before the first unfit one and
the code with them, or which problem there is. -/
def utf8Code (low high : UInt8) : Nat → Nat → List UInt8 → Nat → Except (Utf8Problem × Nat) Nat
  | 0, code, _, _ => .ok code
  | _ + 1, _, [], taken => .error (.endOfData, taken)
  | count + 1, code, byte :: rest, taken =>
      if low ≤ byte ∧ byte ≤ high then
        utf8Code 0x80 0xBF count (code * 64 + (byte.toNat - 0x80)) rest (taken + 1)
      else .error (.continuationByte, taken)

/-- What a first byte adds to the code of its character. -/
def utf8Lead (first : UInt8) (tail : Nat) : Nat :=
  match tail with
  | 0 => first.toNat
  | 1 => first.toNat - 0xC0
  | 2 => first.toNat - 0xE0
  | _ => first.toNat - 0xF0

/-- Reads the bytes from a position on; `skip` of them belong to the character before. -/
def utf8Chars (position : Nat) (skip : Nat) : List UInt8 → Except Utf8Error (List Char)
  | [] => .ok []
  | first :: rest =>
      match skip with
      | skip + 1 => utf8Chars (position + 1) skip rest
      | 0 =>
          match utf8Tail first with
          | none => .error ⟨.startByte, position, position + 1, first⟩
          | some (tail, low, high) =>
              match utf8Code low high tail (utf8Lead first tail) rest 1 with
              | .error (.endOfData, _) =>
                  .error ⟨.endOfData, position, position + 1 + rest.length, first⟩
              | .error (problem, taken) => .error ⟨problem, position, position + taken, first⟩
              | .ok code => do
                  let others ← utf8Chars (position + 1) tail rest
                  return Char.ofNat code :: others

def utf8Decode (bytes : List UInt8) : Except Utf8Error (List Char) := utf8Chars 0 0 bytes

end Rulebook.Text
