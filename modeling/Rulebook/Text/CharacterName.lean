import Rulebook.Text.Blank
import Rulebook.Text.Case
import Rulebook.Text.CharacterNameTable
import Rulebook.Text.Hex

/-!
Characters by their names. The names of ideographs and of Korean syllables follow a rule; the
others are listed.
-/

namespace Rulebook.Text

/-- What follows a word at the front of a text. -/
def behind? (start : String) (text : List Char) : Option (List Char) :=
  if start.toList.isPrefixOf text then some (text.drop start.length) else none

/-- The places of the Chinese ideographs that are named by their code points. -/
def ideographs : List (Nat × Nat) := [(0x3400, 0x4DBF), (0x4E00, 0x9FFF), (0x20000, 0x2A6DF),
  (0x2A700, 0x2B738), (0x2B740, 0x2B81D), (0x2B820, 0x2CEA1), (0x2CEB0, 0x2EBE0),
  (0x30000, 0x3134A)]

def isUpperHexDigit (c : Char) : Bool := c.isDigit || ('A' ≤ c && c ≤ 'F')

/-- An ideograph by four or five digits of its code point. -/
def ideograph? (digits : List Char) : Option Nat :=
  if (digits.length = 4 ∨ digits.length = 5) ∧ digits.all isUpperHexDigit then
    let code := hexValue digits
    if ideographs.any fun (first, last) => first ≤ code && code ≤ last then some code else none
  else none

/-- The consonants that a Korean syllable starts with. -/
def initialSounds : List String := ["G", "GG", "N", "D", "DD", "R", "M", "B", "BB", "S", "SS", "",
  "J", "JJ", "C", "K", "T", "P", "H"]

def vowelSounds : List String := ["A", "AE", "YA", "YAE", "EO", "E", "YEO", "YE", "O", "WA", "WAE",
  "OE", "YO", "U", "WEO", "WE", "WI", "YU", "EU", "YI", "I"]

/-- The consonants that a Korean syllable ends in. -/
def finalSounds : List String := ["", "G", "GG", "GS", "N", "NJ", "NH", "D", "L", "LG", "LM", "LB",
  "LS", "LT", "LP", "LH", "M", "B", "BS", "S", "SS", "NG", "J", "C", "K", "T", "P", "H"]

/-- The longest of some sounds that a text starts with, by its number, and the rest of the text. -/
def takeSound? (sounds : List String) (text : List Char) : Option (Nat × List Char) :=
  let candidates := sounds.zipIdx.filterMap fun (sound, index) =>
    (behind? sound text).map fun rest => (index, rest)
  candidates.foldl (fun best (index, rest) => match best with
    | some (_, shortest) => if rest.length < shortest.length then some (index, rest) else best
    | none => some (index, rest)) none

/-- A Korean syllable by its sounds. -/
def syllable? (sounds : List Char) : Option Nat := do
  let (initial, rest) ← takeSound? initialSounds sounds
  let (vowel, rest) ← takeSound? vowelSounds rest
  let (final, rest) ← takeSound? finalSounds rest
  if rest = [] then some (0xAC00 + (initial * 21 + vowel) * 28 + final) else none

/-- A character whose name ends in its code point. -/
def numbered? (name : String) : Option Nat :=
  CharacterNameTable.numbered.findSome? fun (start, places) => do
    let digits ← behind? start name.toList
    let code := hexValue digits
    if digits.all isUpperHexDigit && digits.head? != some '0' &&
        places.any fun (first, last) => first ≤ code && code ≤ last then some code else none

/-- The words of the names of a run, each with its character. `before` is the name before them. -/
def spelledOut (before : List (List Char)) (code : Nat) :
    (entries : List (List Char)) → List (Nat × List (List Char))
  | [] => []
  | entry :: rest =>
      match trim isBlank entry with
      | [] => spelledOut before (code + 1) rest
      | taken :: words =>
          let name := before.take (taken.toNat - '0'.toNat) ++ splitAt ' ' words
          (code, name) :: spelledOut name (code + 1) rest

/-- A character by its name among those listed, in upper or lower case. -/
def listed? (name : String) : Option Nat :=
  let wanted := name.map Char.toUpper
  let words := splitAt ' ' wanted.toList
  let inRun := fun (first, names) =>
    ((spelledOut [] first (splitAt ';' (names : String).toList)).find? (·.2 == words)).map (·.1)
  ((CharacterNameTable.otherNames.lookup wanted).or (numbered? wanted)).or
    (CharacterNameTable.runs.findSome? inRun)

/-- The character with a name. -/
def characterNamed? (name : String) : Option Nat :=
  match behind? "HANGUL SYLLABLE " name.toList, behind? "CJK UNIFIED IDEOGRAPH-" name.toList with
  | some sounds, _ => syllable? sounds
  | none, some digits => ideograph? digits
  | none, none => listed? name

end Rulebook.Text
