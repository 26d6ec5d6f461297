import Rulebook.Sum
import Rulebook.Text.Blank
import Rulebook.Text.Cells

/-!
Laying out text in lines of a given width: lines break at white space, and a word too long for any
line is folded or ends in an ellipsis.
-/

namespace Rulebook.Terminal

/-- Text on one line, which is measured as a whole. -/
abbrev Piece := List Char

def blanks (count : Nat) : Piece := List.replicate count ' '

/-- What becomes of a word that is longer than a line. -/
inductive Overflow where
  | fold
  | ellipsis
  deriving DecidableEq, Repr

inductive Alignment where
  | unset
  | left
  | right
  deriving DecidableEq, Repr

/-- How a text is laid out. -/
structure Flow where
  overflow : Overflow := .fold
  alignment : Alignment := .unset

namespace Piece

/-- Tabs reach to the next of these columns. -/
def tabSize : Nat := 8

/-- Replaces each tab by blanks, the first of which is measured with the text before it; `column`
columns are taken before the text. -/
def expandTabsFrom (column : Nat) : List Piece → Piece
  | [] => []
  | [part] => part
  | part :: rest =>
      let after := column + Text.cells (part ++ [' '])
      let more := (tabSize - after % tabSize) % tabSize
      part ++ ' ' :: blanks more ++ expandTabsFrom (after + more) rest

def expandTabs (line : Piece) : Piece := expandTabsFrom 0 (Text.splitAt '\t' line)

/-- The words of a line, each with the white space after it and the first also with what stands
before it. White space alone is no word. -/
def words (line : Piece) : List Piece :=
  match _found : line.dropWhile Text.isBlank with
  | [] => []
  | c :: rest =>
      let blanksBefore := line.takeWhile Text.isBlank
      let word := rest.takeWhile fun d => !Text.isBlank d
      let after := rest.dropWhile fun d => !Text.isBlank d
      let gap := after.takeWhile Text.isBlank
      (blanksBefore ++ c :: word ++ gap) :: words (after.dropWhile Text.isBlank)
  termination_by line.length
  decreasing_by
    have whole := congrArg List.length (List.takeWhile_append_dropWhile (p := Text.isBlank)
      (l := line))
    rw [_found] at whole
    simp only [List.length_append, List.length_cons] at whole
    have first := (List.dropWhile_sublist (fun d => !Text.isBlank d) (l := rest)).length_le
    have second := (List.dropWhile_sublist Text.isBlank
      (l := rest.dropWhile fun d => !Text.isBlank d)).length_le
    omega

/-- Lines being broken: those finished, the last one first, and the one being filled. -/
structure Breaking where
  finished : List Piece := []
  line : Piece := []
  /-- The columns taken on the line, white space at its end included. -/
  used : Nat := 0

namespace Breaking

/-- Ends the line, unless nothing has been laid out yet. -/
def newLine (breaking : Breaking) : Breaking :=
  if breaking.finished.isEmpty && breaking.line.isEmpty then breaking
  else { breaking with finished := breaking.line :: breaking.finished, line := [] }

/-- Puts text on the line, which it fills up to the given column. -/
def put (breaking : Breaking) (text : Piece) (used : Nat) : Breaking :=
  { breaking with line := breaking.line ++ text, used }

def addWord (width : Nat) (overflow : Overflow) (breaking : Breaking) (word : Piece) : Breaking :=
  let bare := Text.cells (Text.trimEnd Text.isBlank word)
  if breaking.used + bare ≤ width then
    breaking.put word (breaking.used + Text.cells word)
  else if bare ≤ width then breaking.newLine.put word (Text.cells word)
  else match overflow with
    | .ellipsis => breaking.newLine.put word (Text.cells word)
    | .fold => (Text.chopCells width word).foldl
        (fun breaking piece => breaking.newLine.put piece (Text.cells piece)) breaking

def lines (breaking : Breaking) : List Piece := (breaking.line :: breaking.finished).reverse

end Breaking

/-- Breaks a line into lines of the given width. They may still have white space at the end, or,
with ellipses, a long word. -/
def split (width : Nat) (overflow : Overflow) (line : Piece) : List Piece :=
  match words line with
  | [] => [line]
  | words => (words.foldl (Breaking.addWord width overflow) {}).lines

/-- Drops white space at the end as far as the text has more characters than fit. -/
def dropExcessBlanks (width : Nat) (line : Piece) : Piece :=
  let blank := (line.reverse.takeWhile Text.isBlank).length
  line.take (line.length - min blank (line.length - width))

/-- Cuts a line that is too wide. -/
def truncate (width : Nat) (overflow : Overflow) (line : Piece) : Piece :=
  if Text.cells line ≤ width then line
  else match overflow with
    | .fold => Text.fitCells width line
    | .ellipsis => Text.fitCells (width - 1) line ++ ['…']

def align (width : Nat) (flow : Flow) (line : Piece) : Piece :=
  match flow.alignment with
  | .unset => line
  | .left => line ++ blanks (width - Text.cells line)
  | .right =>
      let cut := truncate width flow.overflow (Text.trimEnd Text.isBlank line)
      blanks (width - Text.cells cut) ++ cut

end Piece

/-- A line of a screen. Its pieces are measured one by one, so that nothing joins the end of one
to the next. -/
abbrev Line := List Piece

namespace Line

def cells (line : Line) : Nat := sumOf (line.map Text.cells)

/-- Cuts a line at the width, within the piece that reaches it. -/
def cut (width : Nat) : Line → Line
  | [] => []
  | piece :: rest =>
      if Text.cells piece < width then piece :: cut (width - Text.cells piece) rest
      else [Text.fitCells width piece]

/-- Cuts a line that is too wide. -/
def crop (width : Nat) (line : Line) : Line :=
  if width < line.cells then line.cut width else line

/-- Cuts a line or fills it up to the width. -/
def fit (width : Nat) (line : Line) : Line :=
  if line.cells < width then line ++ [blanks (width - line.cells)] else line.crop width

end Line

/-- Lays out a text in lines filled up to the width; without width there are none. -/
def wrap (width : Nat) (flow : Flow) (text : List Char) : List Line :=
  if width = 0 then []
  else (Text.splitAt '\n' text).flatMap fun line =>
    (Piece.split width flow.overflow (Piece.expandTabs line)).map fun part =>
      Line.fit width [Piece.truncate width flow.overflow <| Piece.align width flow <|
        Piece.dropExcessBlanks width part]

/-- Whether a line of a text ends here when its widest line is looked for. -/
def endsLine (c : Char) : Bool :=
  c == '\n' || c == '\r' || (0xb ≤ c.toNat && c.toNat ≤ 0xc) ||
  (0x1c ≤ c.toNat && c.toNat ≤ 0x1e) || c == '\u0085' || c == '\u2028' || c == '\u2029'

/-- The columns of the widest line, with `line` before the text, the last character first. -/
def widestAfter (line : Piece) : List Char → Nat
  | [] => Text.cells line.reverse
  | c :: rest =>
      if endsLine c then max (Text.cells line.reverse) (widestAfter [] rest)
      else widestAfter (c :: line) rest

/-- The columns of the widest line of a text. -/
def widest (text : List Char) : Nat := widestAfter [] text

end Rulebook.Terminal
