/-!
Positions in a document's text, and the characters that the grammar of documents tells apart. The
end of the text reads as the null character, which no document holds.
-/

namespace Rulebook.Yaml

/-- A position: the number of characters, line breaks, and characters of the line before it. -/
structure Mark where
  index : Nat
  line : Nat
  column : Nat
  deriving DecidableEq, Repr, Inhabited

/-- The position behind a single character that is no line break. -/
def Mark.behind (mark : Mark) : Mark := ⟨mark.index + 1, mark.line, mark.column + 1⟩

def isBreak (c : Char) : Bool :=
  c == '\r' || c == '\n' || c == '\x85' || c == '\u2028' || c == '\u2029'

def isBreakOrEnd (c : Char) : Bool := c == '\x00' || isBreak c

/-- A space, a line break or the end. -/
def isSpaceOrEnd (c : Char) : Bool := c == ' ' || isBreakOrEnd c

/-- A space, a tab, a line break or the end. -/
def isGapOrEnd (c : Char) : Bool := c == '\t' || isSpaceOrEnd c

def isSpaceOrTab (c : Char) : Bool := c == ' ' || c == '\t'

/-- The characters of anchors, tag handles and the names of directives. -/
def isNameChar (c : Char) : Bool :=
  ('0' ≤ c && c ≤ '9') || ('A' ≤ c && c ≤ 'Z') || ('a' ≤ c && c ≤ 'z') || c == '-' || c == '_'

/-- The characters of a tag's address. -/
def isAddressChar (c : Char) : Bool :=
  isNameChar c || ";/?:@&=+$,.!~*'()[]%".toList.contains c

/-- Characters that a document may hold. -/
def isAcceptable (c : Char) : Bool :=
  c == '\t' || c == '\n' || c == '\r' || (' ' ≤ c && c ≤ '~') || c == '\x85' ||
  ('\xA0' ≤ c && c ≤ '\uFFFD') || 0x10000 ≤ c.toNat

/-- What is left of the text, and where it starts. -/
structure Cursor where
  rest : List Char
  mark : Mark

namespace Cursor

def ofText (text : String) : Cursor := ⟨text.toList, ⟨0, 0, 0⟩⟩

/-- The character so many places ahead. -/
def peek (cursor : Cursor) (ahead : Nat := 0) : Char := (cursor.rest.drop ahead).headD '\x00'

def column (cursor : Cursor) : Nat := cursor.mark.column

/-- Passes one character. A carriage return before a line feed does not end the line yet, and a
byte order mark takes no column. -/
def next (cursor : Cursor) : Cursor :=
  match cursor.rest with
  | [] => cursor
  | c :: rest =>
      let mark := cursor.mark
      let ends := if c = '\r' then rest.head? != some '\n' else isBreak c
      ⟨rest,
        if ends then ⟨mark.index + 1, mark.line + 1, 0⟩
        else if c = '\uFEFF' then ⟨mark.index + 1, mark.line, mark.column⟩
        else mark.behind⟩

def advance : Nat → Cursor → Cursor
  | 0, cursor => cursor
  | count + 1, cursor => advance count cursor.next

/-- Passes the longest run of characters of a class. -/
def run (belongs : Char → Bool) (cursor : Cursor) : List Char × Cursor :=
  let taken := cursor.rest.takeWhile belongs
  (taken, cursor.advance taken.length)

def skip (belongs : Char → Bool) (cursor : Cursor) : Cursor := (cursor.run belongs).2

def skipSpaces (cursor : Cursor) : Cursor := cursor.skip (· == ' ')

/-- Passes a comment up to the end of its line. -/
def skipComment (cursor : Cursor) : Cursor :=
  if cursor.peek = '#' then cursor.skip (!isBreak ·) else cursor

/-- Passes a line break, if there is one. All but the two separators count as line feeds. -/
def lineBreak? (cursor : Cursor) : Option Char × Cursor :=
  match cursor.rest with
  | '\r' :: '\n' :: _ => (some '\n', cursor.advance 2)
  | c :: _ =>
      if c = '\u2028' ∨ c = '\u2029' then (some c, cursor.next)
      else if isBreak c then (some '\n', cursor.next)
      else (none, cursor)
  | [] => (none, cursor)

/-- A marker of three equal characters that ends before a gap stands here. -/
def hasMarker (c : Char) (cursor : Cursor) : Bool :=
  cursor.rest.take 3 == [c, c, c] && isGapOrEnd (cursor.peek 3)

/-- One of the two markers between documents stands here. -/
def hasSeparator (cursor : Cursor) : Bool := cursor.hasMarker '-' || cursor.hasMarker '.'

end Cursor

/-- The part of a line around a position, cut at both sides to some 37 characters, with a caret
below the position. -/
def Mark.snippet (text : String) (mark : Mark) : String :=
  let chars := text.toList
  let before := ((chars.take mark.index).reverse.takeWhile (!isBreakOrEnd ·)).take 37
  let behind := ((chars.drop mark.index).takeWhile (!isBreakOrEnd ·)).take 37
  let (head, before) := if before.length = 37 then (" ... ", before.take 32) else ("", before)
  let (tail, behind) := if behind.length = 37 then (" ... ", behind.take 32) else ("", behind)
  let indent := String.ofList (List.replicate (4 + before.length + head.length) ' ')
  "    " ++ head ++ String.ofList (before.reverse ++ behind) ++ tail ++ "\n" ++ indent ++ "^"

/-- A position as messages show it. -/
def Mark.message (text : String) (mark : Mark) : String :=
  s!"  in \"<unicode string>\", line {mark.line + 1}, column {mark.column + 1}:\n" ++
  mark.snippet text

end Rulebook.Yaml
