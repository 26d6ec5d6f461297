import Rulebook.Terminal.Pictograph
import Rulebook.Text.Blank
import Rulebook.Text.Replace

/-!
Text with style tags in square brackets and names of pictographs between colons. A backslash before
a tag makes it text; other brackets are text anyway. Styles themselves are not shown.
-/

namespace Rulebook.Terminal.Markup

inductive Piece where
  | text (text : List Char)
  /-- A tag: where it stands and what its brackets hold. -/
  | tag (position : Nat) (content : List Char)

inductive Error where
  /-- A closing tag for a style that is not open. -/
  | unopened (content : List Char) (position : Nat)
  /-- A closing tag for the last open style when none is open. -/
  | nothingOpen (position : Nat)
  deriving DecidableEq, Repr

def Error.message : Error → String
  | unopened content position =>
      s!"closing tag '[{String.ofList content}]' at position {position} doesn't match any open tag"
  | nothingOpen position => s!"closing tag '[/]' at position {position} has nothing to close"

def startsTag (c : Char) : Bool := ('a' ≤ c && c ≤ 'z') || c == '#' || c == '/' || c == '@'

/-- The content of the tag at the head of a text, and what follows it. -/
def tag? : List Char → Option (List Char × List Char)
  | '[' :: c :: rest =>
      if startsTag c then
        match rest.dropWhile fun d => d != '[' && d != ']' with
        | ']' :: after => some (c :: rest.takeWhile fun d => d != '[' && d != ']', after)
        | _ => none
      else none
  | _ => none

theorem tag?_shorter {text content after : List Char} (found : tag? text = some (content, after)) :
    after.length < text.length := by
  unfold tag? at found
  split at found
  · rename_i c rest
    split at found
    · split at found
      · rename_i tail closed
        have bound := (List.dropWhile_sublist (fun d => d != '[' && d != ']') (l := rest)).length_le
        rw [closed] at bound
        simp only [Option.some.injEq, Prod.mk.injEq] at found
        rw [← found.2]
        simp only [List.length_cons] at bound ⊢
        omega
      · simp at found
    · simp at found
  · simp at found

/-- What a run of backslashes and the tag after it stand for: two backslashes for one, and an odd
one takes the meaning from the tag. -/
def taggedPieces (position backslashes : Nat) (content : List Char) : List Piece :=
  let literal := if backslashes < 2 then [] else [.text (List.replicate (backslashes / 2) '\\')]
  literal ++
    if backslashes % 2 = 1 then [.text ('[' :: content ++ [']'])]
    else [.tag (position + backslashes) content]

/-- The text collected so far as a piece, unless there is none. -/
def textPiece (reversed : List Char) : List Piece :=
  if reversed.isEmpty then [] else [.text reversed.reverse]

/-- Splits a text at its tags. `before` is the text since the last tag, the last character first,
and `backslashes` how many backslashes stand behind that. -/
def piecesAfter (position : Nat) (before : List Char) (backslashes : Nat) (text : List Char) :
    List Piece :=
  match text with
  | [] => textPiece (List.replicate backslashes '\\' ++ before)
  | c :: rest =>
      match _found : tag? (c :: rest) with
      | some (content, after) =>
          textPiece before ++ taggedPieces position backslashes content ++
            piecesAfter (position + backslashes + content.length + 2) [] 0 after
      | none =>
          if c = '\\' then piecesAfter position before (backslashes + 1) rest
          else piecesAfter (position + backslashes + 1)
            (c :: List.replicate backslashes '\\' ++ before) 0 rest
  termination_by text.length
  decreasing_by
    · exact tag?_shorter _found
    · simp
    · simp

def pieces (text : List Char) : List Piece := piecesAfter 0 [] 0 text

/-- Puts backslashes before the tags of a text, where `backslashes` stand before the rest. -/
def escapeAfter (backslashes : Nat) (text : List Char) : List Char :=
  match text with
  | [] => List.replicate backslashes '\\'
  | c :: rest =>
      match _found : tag? (c :: rest) with
      | some (content, after) =>
          List.replicate (2 * backslashes + 1) '\\' ++ '[' :: content ++ ']' ::
            escapeAfter 0 after
      | none =>
          if c = '\\' then escapeAfter (backslashes + 1) rest
          else List.replicate backslashes '\\' ++ c :: escapeAfter 0 rest
  termination_by text.length
  decreasing_by
    · exact tag?_shorter _found
    · simp
    · simp

/-- Makes a text safe to be put into markup. A single backslash at the end is doubled, lest it
meets a tag that follows. -/
def escape (text : List Char) : List Char :=
  let escaped := escapeAfter 0 text
  match escaped.reverse with
  | '\\' :: '\\' :: _ => escaped
  | '\\' :: _ => escaped ++ ['\\']
  | _ => escaped

/-- Controls that are never passed on: bell, backspace, vertical tab, form feed and carriage
return. -/
def isDropped (c : Char) : Bool :=
  c.toNat == 7 || c.toNat == 8 || c.toNat == 11 || c.toNat == 12 || c.toNat == 13

def shown (text : List Char) : List Char := text.filter fun c => !isDropped c

/-- The style that a tag names, as far as two names are compared. -/
def styleName (text : List Char) : List Char := (Text.trim Text.isBlank text).map Char.toLower

def tagName (content : List Char) : List Char := content.takeWhile (· != '=')

/-- The text shown for pieces, where the given styles are open, the last one first. A backslash
before a bracket that is no tag is left out. -/
def render (opened : List (List Char)) : List Piece → Except Error (List Char)
  | [] => .ok []
  | .text text :: rest => do
      let text := Pictograph.expand (Text.replaceAll ['\\', '['] ['['] text)
      return shown text ++ (← render opened rest)
  | .tag position content :: rest =>
      match tagName content with
      | '/' :: name =>
          match styleName name with
          | [] => match opened with
              | [] => .error (.nothingOpen position)
              | _ :: outer => render outer rest
          | style =>
              if opened.contains style then render (opened.erase style) rest
              else .error (.unopened content position)
      | name => render (styleName name :: opened) rest

/-- The text that markup shows. -/
def plain (markup : List Char) : Except Error (List Char) := render [] (pieces markup)

end Rulebook.Terminal.Markup
