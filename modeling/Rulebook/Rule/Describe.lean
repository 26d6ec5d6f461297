import Rulebook.Rule.Basic
import Rulebook.Text.Replace

/-!
How the fields of a rule, and paths below the home directory, are shown to a reader.
-/

namespace Rulebook

def Rule.frameworksText : Option (List String) → String
  | none => "global"
  | some [] => "none"
  | some names => ", ".intercalate names

def Rule.weightText : Option Float → String
  | none => "-"
  | some weight => Decimal.compactText weight

/-- Writes the home directory as a tilde: the whole text, or each place where a path goes on
below it. -/
def compactHome (home text : List Char) : List Char :=
  if text = home then ['~'] else Text.replaceAll (home ++ ['/']) ['~', '/'] text

def compactHomeText (home text : String) : String :=
  String.ofList (compactHome home.toList text.toList)

end Rulebook
