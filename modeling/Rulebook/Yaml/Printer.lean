import Rulebook.Decimal.Layout
import Rulebook.Text.Hex
import Rulebook.Yaml.Cursor
import Rulebook.Yaml.Tag
import Rulebook.Yaml.Tree

/-!
Writing documents: one entry or item on a line, and texts without quotes where those are not
needed. Long texts are broken at single spaces behind column 80.
-/

namespace Rulebook.Yaml.Printer

/-- Behind this column a text is broken. -/
def width : Nat := 80

def spaces (count : Nat) : String := String.ofList (List.replicate count ' ')

def newLine (indent : Nat) : String := "\n" ++ spaces indent

/-! ## Which quotes a text needs -/

/-- Only double quotes hold the character, in an escaped form. -/
def needsEscape (c : Char) : Bool := c != '\n' && !(' ' ≤ c && c ≤ '~')

/-- Some character is followed at once by another one. -/
def hasAdjacent (first second : Char → Bool) : List Char → Bool
  | c :: d :: rest => (first c && second d) || hasAdjacent first second (d :: rest)
  | _ => false

/-- The text would start a token other than a plain scalar. -/
def startsWithSign (text : List Char) : Bool :=
  match text with
  | [] => false
  | c :: rest =>
      "#,[]\x7b\x7d&*!|>'\"%@\x60".toList.contains c ||
      ((c == '?' || c == ':' || c == '-') && rest.head?.all isGapOrEnd) ||
      "---".toList.isPrefixOf text || "...".toList.isPrefixOf text

/-- A comment or a value would start inside the text. -/
def holdsSign (text : List Char) : Bool :=
  hasAdjacent (· == ':') isGapOrEnd text || text.getLast? == some ':' ||
  hasAdjacent isGapOrEnd (· == '#') text

def isOuterSpace (c : Char) : Bool := c == ' ' || c == '\n'

def isPlain (text : List Char) : Bool :=
  Tag.ofForm (String.ofList text) == Tag.named "str" &&
  !(text.any fun c => needsEscape c || c == '\n') &&
  !text.head?.any isOuterSpace && !text.getLast?.any isOuterSpace &&
  !startsWithSign text && !holdsSign text

def isSingleQuoted (text : List Char) : Bool :=
  !text.any needsEscape && !hasAdjacent (· == '\n') (· == ' ') text &&
  !hasAdjacent (· == ' ') (· == '\n') text

/-! ## The written forms -/

/-- What has been written of a text, and the column behind it. -/
structure Written where
  text : String
  column : Nat

def Written.add (written : Written) (text : String) : Written :=
  ⟨written.text ++ text, written.column + text.length⟩

def Written.newLine (written : Written) (indent : Nat) : Written :=
  ⟨written.text ++ Printer.newLine indent, indent⟩

/-- The longest parts of spaces only, of line feeds only, and of neither. -/
def runs (text : List Char) : List (List Char) :=
  text.splitBy fun a b => (a == ' ') == (b == ' ') && (a == '\n') == (b == '\n')

/-- Writes one run. A space between words may be left to a line's end. -/
def addRun (indent : Nat) (inner : Bool) (written : Written) (run : List Char) : Written :=
  match run with
  | [' '] =>
      if inner && width < written.column then written.newLine indent else written.add " "
  | '\n' :: rest =>
      let breaks := "\n" ++ String.ofList ('\n' :: rest)
      ⟨written.text ++ breaks ++ spaces indent, indent⟩
  | _ => written.add (String.ofList run)

/-- Writes the runs of a text; only a run with others on both sides is an inner one. -/
def addRuns (indent : Nat) (isFirst : Bool) (written : Written) : List (List Char) → Written
  | [] => written
  | run :: rest =>
      let inner := !isFirst && !rest.isEmpty
      addRuns indent false (addRun indent inner written run) rest

def plain (indent column : Nat) (text : List Char) : String :=
  (addRuns indent true ⟨"", column⟩ (runs text)).text

def doubleQuotes (run : List Char) : List Char :=
  run.flatMap fun c => if c = '\'' then ['\'', '\''] else [c]

def singleQuoted (indent column : Nat) (text : List Char) : String :=
  (addRuns indent true ⟨"'", column + 1⟩ ((runs text).map doubleQuotes)).text ++ "'"

/-- A character inside double quotes that does not stand for itself. -/
def escape (c : Char) : Option String :=
  let upper := fun (width : Nat) =>
    String.ofList ((Text.hexDigits width c.toNat).map Char.toUpper)
  match c with
  | '\x00' => some "\\0"
  | '\x07' => some "\\a"
  | '\x08' => some "\\b"
  | '\t' => some "\\t"
  | '\n' => some "\\n"
  | '\x0b' => some "\\v"
  | '\x0c' => some "\\f"
  | '\r' => some "\\r"
  | '\x1b' => some "\\e"
  | '"' => some "\\\""
  | '\\' => some "\\\\"
  | '\x85' => some "\\N"
  | '\xA0' => some "\\_"
  | '\u2028' => some "\\L"
  | '\u2029' => some "\\P"
  | _ =>
      if ' ' ≤ c && c ≤ '~' then none
      else if c.toNat < 0x100 then some ("\\x" ++ upper 2)
      else if c.toNat < 0x10000 then some ("\\u" ++ upper 4)
      else some ("\\U" ++ upper 8)

/-- Breaks a text in double quotes: a backslash ends the line, and another one keeps a space that
comes next. -/
def breakQuoted (indent : Nat) (written : Written) (next : Option Char) : Written :=
  let broken := (written.add "\\").newLine indent
  if next = some ' ' then broken.add "\\" else broken

/-- Writes the inside of double quotes. `pending` holds characters that stand for themselves and
are not written yet, the last one first. The text is not broken at its first or last character. -/
def addQuoted (indent : Nat) (isFirst : Bool) (pending : List Char) (written : Written) :
    List Char → Written
  | [] => written.add (String.ofList pending.reverse)
  | c :: rest =>
      let mayBreak := !isFirst && !rest.isEmpty
      match escape c with
      | some escaped =>
          let written := written.add (String.ofList pending.reverse ++ escaped)
          if mayBreak && width + 1 < written.column then
            addQuoted indent false [] (breakQuoted indent written rest.head?) rest
          else addQuoted indent false [] written rest
      | none =>
          if mayBreak && (c == ' ' || pending.isEmpty) &&
              width < written.column + pending.length then
            let written := written.add (String.ofList pending.reverse)
            addQuoted indent false [c] (breakQuoted indent written (some c)) rest
          else addQuoted indent false (c :: pending) written rest

def doubleQuoted (indent column : Nat) (text : List Char) : String :=
  (addQuoted indent true [] ⟨"\"", column + 1⟩ text).text ++ "\""

/-- Writes a text from a column on; lines after its first one are indented. -/
def text (indent column : Nat) (value : String) : String :=
  let chars := value.toList
  if isPlain chars then plain indent column chars
  else if isSingleQuoted chars then singleQuoted indent column chars
  else doubleQuoted indent column chars

/-- Writes a number so that it reads as one: with a point, and in words for what is no number. -/
def number (value : Float) : String :=
  let written := Decimal.shortestText value
  if written = "nan" then ".nan"
  else if written = "inf" then ".inf"
  else if written = "-inf" then "-.inf"
  else
    let chars := written.toList
    if chars.contains '.' || !chars.contains 'e' then written
    else
      let digits := chars.takeWhile (· ≠ 'e')
      String.ofList (digits ++ ".0".toList ++ chars.drop digits.length)

/-! ## Collections -/

mutual

/-- Writes the value of an entry whose name ends at a column. Items of a list are not indented. -/
def afterName (indent column : Nat) : Tree → String
  | .text value => " " ++ text (indent + 2) (column + 1) value
  | .number value => " " ++ number value
  | .list [] => " []"
  | .list (item :: rest) => newLine indent ++ items indent (item :: rest)
  | .map [] => " \x7b\x7d"
  | .map (entry :: rest) => newLine (indent + 2) ++ entries (indent + 2) (entry :: rest)

/-- Writes an item of a list behind its dash. -/
def afterDash (indent : Nat) : Tree → String
  | .text value => " " ++ text (indent + 2) (indent + 2) value
  | .number value => " " ++ number value
  | .list [] => " []"
  | .list (item :: rest) => " " ++ items (indent + 2) (item :: rest)
  | .map [] => " \x7b\x7d"
  | .map (entry :: rest) => " " ++ entries (indent + 2) (entry :: rest)

def items (indent : Nat) : List Tree → String
  | [] => ""
  | [item] => "-" ++ afterDash indent item
  | item :: next :: rest =>
      "-" ++ afterDash indent item ++ newLine indent ++ items indent (next :: rest)

/-- Writes entries, whose names are words that need no quotes. -/
def entries (indent : Nat) : List (String × Tree) → String
  | [] => ""
  | [(name, tree)] => name ++ ":" ++ afterName indent (indent + name.length + 1) tree
  | (name, tree) :: next :: rest =>
      name ++ ":" ++ afterName indent (indent + name.length + 1) tree ++ newLine indent ++
        entries indent (next :: rest)

end

end Rulebook.Yaml.Printer

namespace Rulebook.Yaml

/-- The text of a document that is a mapping with some entries. -/
def write (entries : List (String × Tree)) : String := Printer.entries 0 entries ++ "\n"

end Rulebook.Yaml
