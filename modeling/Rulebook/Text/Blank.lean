/-!
White space, and how texts are trimmed and split at it.
-/

namespace Rulebook.Text

/-- White space of any script, the separators among the control characters included. -/
def isBlankCode (code : Nat) : Bool :=
  (9 ≤ code && code ≤ 13) || (28 ≤ code && code ≤ 32) || code == 0x85 || code == 0xA0 ||
  code == 0x1680 || (0x2000 ≤ code && code ≤ 0x200A) || code == 0x2028 || code == 0x2029 ||
  code == 0x202F || code == 0x205F || code == 0x3000

def isBlank (c : Char) : Bool := isBlankCode c.toNat

/-- White space of ASCII alone, without the separators among the control characters. -/
def isAsciiBlankCode (code : Nat) : Bool := (9 ≤ code && code ≤ 13) || code == 32

def trimStart (drop : Char → Bool) (text : List Char) : List Char := text.dropWhile drop

def trimEnd (drop : Char → Bool) (text : List Char) : List Char :=
  (text.reverse.dropWhile drop).reverse

def trim (drop : Char → Bool) (text : List Char) : List Char := trimEnd drop (trimStart drop text)

/-- The text without white space around it. -/
def stripped (text : String) : String := String.ofList (trim isBlank text.toList)

/-- Whether a word starts at the head of the list: `inside` tells if the character before belongs
to a word. -/
def countWordStarts (inside : Bool) : List Char → Nat
  | [] => 0
  | c :: rest =>
      if isBlank c then countWordStarts false rest
      else (if inside then 0 else 1) + countWordStarts true rest

/-- The number of words: longest runs without white space. -/
def wordCount (text : String) : Nat := countWordStarts false text.toList

/-- The parts of a text between the separators, one more than there are separators. -/
def splitAt (separator : Char) : List Char → List (List Char)
  | [] => [[]]
  | c :: rest =>
      if c = separator then [] :: splitAt separator rest
      else match splitAt separator rest with
        | [] => [[c]]
        | part :: parts => (c :: part) :: parts

end Rulebook.Text
