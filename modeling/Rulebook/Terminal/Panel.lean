import Rulebook.Terminal.Table

/-!
Panels: a frame with a title around a text or a table.
-/

namespace Rulebook.Terminal

inductive Content where
  /-- A text with style tags. -/
  | markup (text : String)
  | table (grid : Table)

structure Panel where
  title : String
  content : Content

namespace Content

def lines (width : Nat) : Content → Except Markup.Error (List Line)
  | markup text => do return wrap width {} (← Markup.plain text.toList)
  | table grid => do
      return (← grid.lines width).map (Line.fit width)

end Content

namespace Panel

/-- The upper edge, with the title in its middle where there is room for it. -/
def topEdge (width : Nat) (title : String) : Piece :=
  let inner :=
    if width ≤ 4 then List.replicate (width - 2) '─'
    else
      let text := Piece.truncate (width - 4) .fold (' ' :: title.toList ++ [' '])
      let free := width - 4 - Text.cells text
      List.replicate (1 + free / 2) '─' ++ text ++ List.replicate (1 + (free - free / 2)) '─'
  '╭' :: inner ++ ['╮']

/-- The lines of a panel on a terminal of the given width. -/
def lines (width : Nat) (panel : Panel) : Except Markup.Error (List Line) := do
  let body ← panel.content.lines (width - 4)
  if width = 0 then return []
  let framed := body.map fun line => [['│'], [' ']] ++ line ++ [[' '], ['│']]
  let bottom := '╰' :: List.replicate (width - 2) '─' ++ ['╯']
  return ([[topEdge width panel.title]] ++ framed ++ [[bottom]]).map (Line.crop width)

/-- A panel as it is printed. -/
def text (width : Nat) (panel : Panel) : Except Markup.Error String := do
  let lines ← panel.lines width
  return String.ofList (lines.flatMap fun line => line.flatten ++ ['\n'])

end Panel

end Rulebook.Terminal
