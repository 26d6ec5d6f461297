import Rulebook.Terminal.Markup
import Rulebook.Terminal.Share
import Rulebook.Terminal.Wrap

/-!
Tables of markup: how wide their columns become, and their lines.

A framed table has a header and lines between its columns, and fills the width it is given; a
plain one has neither and takes what its cells need.
-/

namespace Rulebook.Terminal

structure Column where
  header : String := ""
  /-- The columns for the text of a cell, if these are fixed. -/
  width : Option Nat := none
  /-- The most columns for the text of a cell whose width is not fixed. -/
  maxWidth : Option Nat := none
  alignment : Alignment := .left

structure Table where
  columns : List Column
  /-- For each row the markup of its cells. -/
  rows : List (List String)
  framed : Bool := true

/-- A column of a table with the texts of its cells, its header among them, and the blanks to the
left and right of each. -/
structure Column.Filled where
  column : Column
  cells : List (List Char)
  before : Nat
  after : Nat

namespace Column.Filled

def padding (filled : Filled) : Nat := filled.before + filled.after

/-- The columns that a cell would take of those available. -/
def cellWidth (available : Nat) (filled : Filled) (cell : List Char) : Nat :=
  if available ≤ filled.padding then available
  else min (min (widest cell) available + filled.padding) available

/-- The columns that the column of the table would take of those available. -/
def naturalWidth (available : Nat) (filled : Filled) : Nat :=
  if available = 0 then 0
  else match filled.column.width with
    | some width => min (width + filled.padding) available
    | none =>
        let needed := (filled.cells.map (cellWidth available filled)).foldl max 0
        match filled.column.maxWidth with
        | some most => min needed (most + filled.padding)
        | none => needed

def canShrink (filled : Filled) : Bool := filled.column.width.isNone

/-- The lines of a cell in the given width. -/
def cellLines (width : Nat) (filled : Filled) (cell : List Char) : List Line :=
  (wrap (width - filled.padding) ⟨.ellipsis, filled.column.alignment⟩ cell).map fun line =>
    Line.fit width (blanks filled.before :: line ++ [blanks filled.after])

end Column.Filled

namespace Table

/-- Narrows the widest of the columns that can shrink to the next widest, again and again, until
`excess` columns are gone or those that can shrink are all as wide. -/
def shrink (shrinkable : List Bool) : (fuel excess : Nat) → List Nat → List Nat
  | 0, _, widths => widths
  | fuel + 1, excess, widths =>
      let open_ := (widths.zip shrinkable).map fun (width, can) => if can then width else 0
      let greatest := open_.foldl max 0
      let next := (open_.filter (· ≠ greatest)).foldl max 0
      if excess = 0 || greatest = next then widths
      else
        let givers := (widths.zip open_).map fun (width, own) =>
          ⟨if own = greatest then 1 else 0, min excess (greatest - next), width⟩
        let narrowed := Share.take excess givers
        shrink shrinkable fuel (excess - (sumOf widths - sumOf narrowed)) narrowed

/-- The columns taken by the frame. -/
def frameWidth (table : Table) : Nat := if table.framed then table.columns.length + 1 else 0

/-- The widths of the columns of a table when `available` are to be shared among them. -/
def columnWidths (framed : Bool) (available : Nat) (columns : List Column.Filled) : List Nat :=
  let natural := columns.map fun filled => max 1 (filled.naturalWidth available)
  let excess := sumOf natural - available
  if excess = 0 then
    if framed then
      natural.zipWith (· + ·) (Share.give (available - sumOf natural) natural)
    else natural
  else
    let shrinkable := columns.map Column.Filled.canShrink
    let shrunk :=
      if shrinkable.any id then shrink shrinkable excess excess natural else natural
    let fitted := Share.take (sumOf shrunk - available) (shrunk.map fun width => ⟨1, width, width⟩)
    fitted.zipWith (fun width filled => filled.naturalWidth width) columns

/-- The columns of a table with their cells. -/
def filledColumns (table : Table) (rows : List (List (List Char))) : List Column.Filled :=
  table.columns.zipIdx.map fun (column, index) =>
    let isLast := index + 1 == table.columns.length
    { column
      cells := rows.map fun row => row.getD index []
      before := if table.framed then 1 else 0
      after := if table.framed then 1 else if isLast then 0 else 2 }

/-- The lines of a row, filled up to the height of its highest cell and at least one line. -/
def rowLines (edge : Piece) (widths : List Nat) (columns : List Column.Filled)
    (row : List (List Char)) : List Line :=
  let cells := (widths.zip (columns.zip row)).map fun (width, filled, cell) =>
    (width, filled.cellLines width cell)
  let height := (cells.map fun (_, lines) => lines.length).foldl max 1
  (List.range height).map fun index =>
    edge :: List.intercalate [edge]
      (cells.map fun (width, lines) => lines.getD index [blanks width]) ++ [edge]

/-- A line of the frame: its left end, its stroke, its crossings and its right end. -/
def frameLine (left stroke crossing right : Char) (widths : List Nat) : Piece :=
  left :: [crossing].intercalate (widths.map fun width => List.replicate width stroke) ++ [right]

/-- The lines of a table in the given width; a table that needs more is not cut here. -/
def lines (table : Table) (width : Nat) : Except Markup.Error (List Line) := do
  let rows ← table.rows.mapM fun row => row.mapM fun cell => Markup.plain cell.toList
  if width = 0 then return []
  let header := table.columns.map fun column => column.header.toList
  let columns := table.filledColumns (if table.framed then header :: rows else rows)
  let widths := columnWidths table.framed (width - table.frameWidth) columns
  if table.framed then
    return [[frameLine '┏' '━' '┳' '┓' widths]] ++
      rowLines ['┃'] widths columns header ++
      [[frameLine '┡' '━' '╇' '┩' widths]] ++
      rows.flatMap (rowLines ['│'] widths columns) ++
      [[frameLine '└' '─' '┴' '┘' widths]]
  else
    return rows.flatMap (rowLines [] widths columns)

end Table

end Rulebook.Terminal
