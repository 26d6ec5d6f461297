import Rulebook.Text.Hex

/-!
Texts of code points. Some code points are surrogates, which are no characters: arguments with bytes
that cannot be read have them, as have the texts of some escapes. A text with a surrogate cannot be
encoded, and no `String` is equal to it.
-/

namespace Rulebook

abbrev CodePoint := Fin 0x110000

namespace CodePoint

def isSurrogate (code : CodePoint) : Bool := 0xD800 ≤ code.val && code.val ≤ 0xDFFF

theorem isValidChar {code : CodePoint} (plain : code.isSurrogate = false) :
    code.val.isValidChar := by
  have bound := code.isLt
  simp only [isSurrogate, Bool.and_eq_false_iff, decide_eq_false_iff_not] at plain
  simp only [Nat.isValidChar]
  omega

def ofChar (c : Char) : CodePoint :=
  ⟨c.toNat, by
    have valid : c.toNat.isValidChar := c.valid
    simp only [Nat.isValidChar] at valid
    omega⟩

/-- The character, unless the code point is a surrogate. -/
def char? (code : CodePoint) : Option Char :=
  if plain : code.isSurrogate = false then some (Char.ofNatAux code.val (isValidChar plain))
  else none

end CodePoint

abbrev CodeText := List CodePoint

/-- The first surrogates of a text, as many as stand together. -/
structure EncodeError where
  position : Nat
  surrogates : List CodePoint
  deriving DecidableEq, Repr

def EncodeError.message (error : EncodeError) : String :=
  let place := match error.surrogates with
    | [code] =>
        "character '\\u" ++ String.ofList (Text.hexDigits 4 code.val) ++
          s!"' in position {error.position}"
    | codes => s!"characters in position {error.position}-{error.position + codes.length - 1}"
  s!"'utf-8' codec can't encode {place}: surrogates not allowed"

namespace CodeText

def ofString (text : String) : CodeText := text.toList.map .ofChar

/-- The text in characters. -/
def encode (text : CodeText) : Except EncodeError String :=
  match text.mapM CodePoint.char? with
  | some chars => .ok (.ofList chars)
  | none =>
      let rest := text.dropWhile (!·.isSurrogate)
      .error ⟨text.length - rest.length, rest.takeWhile (·.isSurrogate)⟩

end CodeText

end Rulebook
