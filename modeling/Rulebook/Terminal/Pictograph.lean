import Rulebook.Terminal.PictographTable
import Rulebook.Text.Blank
import Rulebook.Text.Case

/-!
Short names between colons that stand for pictographs.
-/

namespace Rulebook.Terminal.Pictograph

/-- The pictograph after a name in a list of names and pictographs by turns. -/
def find? (name : List Char) : List (List Char) → Option (List Char)
  | known :: picture :: rest => if known = name then some picture else find? name rest
  | _ => none

def named? (name : List Char) : Option (List Char) :=
  let entries := (PictographTable.entries.toList.splitBy fun a b =>
    Text.isBlank a == Text.isBlank b).filter fun part => !part.any Text.isBlank
  find? (name.map fun c => Char.ofNat (Text.lowerCode c.toNat)) entries

/-- A name without a wish for a plain or a coloured picture at its end, and the sign for that
wish. -/
def splitWish (name : List Char) : List Char × List Char :=
  if "-emoji".toList.isSuffixOf name then (name.take (name.length - 6), ['\ufe0f'])
  else if "-text".toList.isSuffixOf name then (name.take (name.length - 5), ['\ufe0e'])
  else (name, [])

/-- What a name between colons stands for; an unknown one stays. -/
def shown (name : List Char) : List Char :=
  let (bare, sign) := splitWish name
  match named? bare with
  | some picture => picture ++ sign
  | none => ':' :: name ++ [':']

def inName (c : Char) : Bool := c ≠ ':' && !Text.isBlank c

/-- Replaces the names between colons in a text by pictographs. -/
def expand (text : List Char) : List Char :=
  match text with
  | [] => []
  | c :: rest =>
      if c = ':' then
        match _closed : rest.dropWhile inName with
        | ':' :: after => shown (rest.takeWhile inName) ++ expand after
        | _ => c :: expand rest
      else c :: expand rest
  termination_by text.length
  decreasing_by
    · have bound := (List.dropWhile_sublist inName (l := rest)).length_le
      rw [_closed] at bound
      simp only [List.length_cons] at bound ⊢
      omega
    all_goals simp

end Rulebook.Terminal.Pictograph
