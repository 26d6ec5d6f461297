import Rulebook.Text.Hex
import Rulebook.Text.Utf8
import Rulebook.Yaml.Error
import Rulebook.Yaml.Token

/-!
The texts of single tokens: directives, anchors, tags and the scalars in their four styles. Each
reader starts where its token does and leaves the cursor behind it.
-/

namespace Rulebook.Yaml

abbrev Lexing := StateT Cursor (Except Failure)

namespace Lexing

/-- Stops with a problem where the cursor is, in a token that began at `start`. -/
def refuse (activity : Activity) (start : Mark) (problem : Problem) : Lexing α := do
  throw (.malformed (.located (some (activity, some start)) problem (← get).mark))

def peek (ahead : Nat := 0) : Lexing Char := return (← get).peek ahead

def advance (count : Nat) : Lexing Unit := modify (·.advance count)

def run (belongs : Char → Bool) : Lexing (List Char) := modifyGet (·.run belongs)

def lineBreak? : Lexing (Option Char) := modifyGet Cursor.lineBreak?

/-- A bound on the number of steps that each pass a character. -/
def bound : Lexing Nat := return (← get).rest.length + 1

/-- Passes the rest of a line, which may hold spaces and a comment, and its break. -/
def emptyRest (activity : Activity) (start : Mark) : Lexing Unit := do
  modify fun cursor => cursor.skipSpaces.skipComment
  let found ← peek
  if !isBreakOrEnd found then refuse activity start (.notCommentOrBreak found)
  let _ ← lineBreak?

/-! ## Tags and anchors -/

/-- Bytes written with percent signs. -/
def escapedBytes (activity : Activity) (start : Mark) : Nat → List UInt8 → Lexing (List UInt8)
  | 0, bytes => return bytes
  | fuel + 1, bytes => do
      if (← peek) != '%' then return bytes
      advance 1
      let high ← peek
      let some highValue := Text.hexValue? high
        | refuse activity start (.notAddressEscape high)
      let low ← peek 1
      let some lowValue := Text.hexValue? low
        | refuse activity start (.notAddressEscape low)
      advance 2
      escapedBytes activity start fuel (bytes ++ [UInt8.ofNat (16 * highValue + lowValue)])

def addressParts (activity : Activity) (start : Mark) : Nat → String → Lexing String
  | 0, read => return read
  | fuel + 1, read => do
      let read := read ++ String.ofList (← run fun c => isAddressChar c && c != '%')
      if (← peek) != '%' then return read
      let mark := (← get).mark
      match Text.utf8Decode (← escapedBytes activity start (← bound) []) with
      | .ok chars => addressParts activity start fuel (read ++ String.ofList chars)
      | .error error =>
          throw (.malformed
            (.located (some (activity, some start)) (.undecodableAddress error.message) mark))

/-- The address that a tag or a tag directive names. -/
def address (activity whole : Activity) (start : Mark) : Lexing String := do
  let before := (← get).mark.index
  let text ← addressParts activity start (← bound) ""
  if (← get).mark.index = before then refuse whole start (.notAddress (← peek))
  return text

/-- An exclamation mark, or two with a name between them. -/
def tagHandle (activity : Activity) (start : Mark) : Lexing String := do
  let first ← peek
  if first != '!' then refuse activity start (.notExclamation first)
  advance 1
  if (← peek) == ' ' then return "!"
  let name ← run isNameChar
  let last ← peek
  if last != '!' then refuse activity start (.notExclamation last)
  advance 1
  return "!" ++ String.ofList name ++ "!"

def tag : Lexing Token.Kind := do
  let start := (← get).mark
  let second ← peek 1
  let (handle, suffix) ← (
    if second == '<' then do
      advance 2
      let suffix ← address .tag .tagAddress start
      let found ← peek
      if found != '>' then refuse .tagAddress start (.notAddressEnd found)
      advance 1
      return (none, suffix)
    else if isGapOrEnd second then do
      advance 1
      return (none, "!")
    else do
      let ahead := ((← get).rest.drop 1).takeWhile (!isSpaceOrEnd ·)
      let handle ← if ahead.contains '!' then tagHandle .tag start
        else do
          advance 1
          pure "!"
      let suffix ← address .tag .tagAddress start
      return (some handle, suffix) : Lexing (Option String × String))
  let found ← peek
  if !isSpaceOrEnd found then refuse .tag start (.notSpace found)
  return .tag handle suffix

/-- The name of an anchor or an alias, with the sign before it. -/
def anchorName (activity : Activity) : Lexing String := do
  let start := (← get).mark
  advance 1
  let name ← run isNameChar
  let found ← peek
  if name.isEmpty || !(isGapOrEnd found || "?:,]\x7d%@\x60".toList.contains found) then
    refuse activity start (.notNameChar found)
  return String.ofList name

/-! ## Directives -/

def versionNumber (start : Mark) : Lexing Nat := do
  let digits ← run Decimal.isDigit
  if digits.isEmpty then refuse .directive start (.notDigit (← peek))
  if Decimal.digitLimit < digits.length then
    throw (.badScalar (.tooManyDigits digits.length))
  return Decimal.valueOf digits

def versionDirective (start : Mark) : Lexing Directive := do
  modify Cursor.skipSpaces
  let major ← versionNumber start
  let point ← peek
  if point != '.' then refuse .directive start (.notDigitOrPoint point)
  advance 1
  let minor ← versionNumber start
  let found ← peek
  if !isSpaceOrEnd found then refuse .directive start (.notDigitOrSpace found)
  return .version major minor

def tagDirective (start : Mark) : Lexing Directive := do
  modify Cursor.skipSpaces
  let handle ← tagHandle .directive start
  let found ← peek
  if found != ' ' then refuse .directive start (.notSpace found)
  modify Cursor.skipSpaces
  let address ← address .directive .directiveAddress start
  let found ← peek
  if !isSpaceOrEnd found then refuse .directive start (.notSpace found)
  return .tag handle address

def directive : Lexing Token.Kind := do
  let start := (← get).mark
  advance 1
  let name := String.ofList (← run isNameChar)
  let found ← peek
  if name = "" || !isSpaceOrEnd found then refuse .directive start (.notNameChar found)
  let directive ← match name with
    | "YAML" => versionDirective start
    | "TAG" => tagDirective start
    | _ => do
        modify (·.skip (!isBreak ·))
        pure (.other name)
  emptyRest .directive start
  return .directive directive

/-! ## Block scalars -/

/-- What becomes of the line breaks at the end of a block scalar. -/
inductive Chomping where
  | strip
  | clip
  | keep
  deriving DecidableEq, Repr

def chomping? : Lexing (Option Chomping) := do
  match ← peek with
  | '+' => do
      advance 1
      return some .keep
  | '-' => do
      advance 1
      return some .strip
  | _ => return none

def increment? (start : Mark) : Lexing (Option Nat) := do
  let found ← peek
  if found = '0' then refuse .blockScalar start .zeroIndentation
  if !Decimal.isDigit found then return none
  advance 1
  return some (found.toNat - 48)

/-- The signs behind a block scalar's indicator, in either order. -/
def blockIndicators (start : Mark) : Lexing (Chomping × Option Nat) := do
  let first ← chomping?
  let increment ← increment? start
  let chomping ← if first.isNone && increment.isSome then chomping? else pure first
  let found ← peek
  if !isSpaceOrEnd found then refuse .blockScalar start (.notBlockIndicator found)
  return (chomping.getD .clip, increment)

/-- Passes blank lines before the first line of a block scalar: their breaks, and the largest
indentation seen. -/
def firstIndentation : Nat → String → Nat → Lexing (String × Nat)
  | 0, breaks, widest => return (breaks, widest)
  | fuel + 1, breaks, widest => do
      if (← peek) == ' ' then
        advance 1
        firstIndentation fuel breaks (max widest (← get).column)
      else match ← lineBreak? with
        | some c => firstIndentation fuel (breaks.push c) widest
        | none => return (breaks, widest)

def indentTo (indent : Nat) : Lexing Unit :=
  modify fun cursor =>
    let spaces := (cursor.rest.takeWhile (· == ' ')).length
    cursor.advance (min spaces (indent - cursor.column))

/-- Passes blank lines of a block scalar: their breaks. -/
def blankLines (indent : Nat) : Nat → String → Lexing String
  | 0, breaks => return breaks
  | fuel + 1, breaks => do
      indentTo indent
      match ← lineBreak? with
      | some c => blankLines indent fuel (breaks.push c)
      | none => return breaks

/-- The lines of a block scalar from one that is indented enough on. `breaks` are those before it.
Gives the text, the break behind the last line and the breaks behind that. -/
def blockLines (folded : Bool) (indent : Nat) :
    Nat → String → String → Lexing (String × String × String)
  | 0, text, breaks => return (text, "", breaks)
  | fuel + 1, text, breaks => do
      let text := text ++ breaks
      let startsWithText := !isSpaceOrTab (← peek)
      let text := text ++ String.ofList (← run (!isBreak ·))
      let lineEnd := match ← lineBreak? with
        | some c => String.singleton c
        | none => ""
      let breaks ← blankLines indent (← bound) ""
      let next ← peek
      if (← get).column = indent && next != '\x00' then
        if folded && lineEnd == "\n" && startsWithText && !isSpaceOrTab next then
          let text := if breaks = "" then text ++ " " else text
          blockLines folded indent fuel text breaks
        else blockLines folded indent fuel (text ++ lineEnd) breaks
      else return (text, lineEnd, breaks)

/-- A block scalar within a collection at the given indentation. -/
def blockScalar (folded : Bool) (outer : Int) : Lexing Token.Kind := do
  let start := (← get).mark
  advance 1
  let (chomping, increment) ← blockIndicators start
  emptyRest .blockScalar start
  let least := (max 1 (outer + 1)).toNat
  let (indent, breaks) ← match increment with
    | none => do
        let (breaks, widest) ← firstIndentation (← bound) "" 0
        pure (max least widest, breaks)
    | some increment => do
        let indent := least + increment - 1
        pure (indent, ← blankLines indent (← bound) "")
  let (text, lineEnd, breaks) ←
    if (← get).column = indent && (← peek) != '\x00' then
      blockLines folded indent (← bound) "" breaks
    else pure ("", "", breaks)
  let text := if chomping = .strip then text else text ++ lineEnd
  let text := if chomping = .keep then text ++ breaks else text
  return .scalar text false

/-! ## Quoted scalars -/

/-- The character that a letter behind a backslash stands for. -/
def escapedChar? : Char → Option Char
  | '0' => some '\x00'
  | 'a' => some '\x07'
  | 'b' => some '\x08'
  | 't' => some '\t'
  | '\t' => some '\t'
  | 'n' => some '\n'
  | 'v' => some '\x0b'
  | 'f' => some '\x0c'
  | 'r' => some '\r'
  | 'e' => some '\x1b'
  | ' ' => some ' '
  | '"' => some '"'
  | '\\' => some '\\'
  | '/' => some '/'
  | 'N' => some '\x85'
  | '_' => some '\xA0'
  | 'L' => some '\u2028'
  | 'P' => some '\u2029'
  | _ => none

/-- The number of hexadecimal digits that belong to a letter behind a backslash. -/
def escapeLength? : Char → Option Nat
  | 'x' => some 2
  | 'u' => some 4
  | 'U' => some 8
  | _ => none

def hexEscape (start : Mark) (length : Nat) : Lexing Char := do
  let digits := (← get).rest.take length
  match digits.dropWhile fun c => (Text.hexValue? c).isSome with
  | found :: _ => refuse .doubleQuotedScalar start (.notHexDigits length found)
  | [] =>
      if digits.length < length then
        refuse .doubleQuotedScalar start (.notHexDigits length '\x00')
      let code := Text.hexValue digits
      if 0x80000000 ≤ code then throw (.badScalar .codePointOverflow)
      if 0x110000 ≤ code then throw (.badScalar .codePointTooLarge)
      advance length
      return Char.ofNat code

/-- Passes blank lines inside quotes: their breaks. -/
def quotedBreaks (start : Mark) : Nat → String → Lexing String
  | 0, breaks => return breaks
  | fuel + 1, breaks => do
      if (← get).hasSeparator then refuse .quotedScalar start .separatorInQuotes
      modify (·.skip isSpaceOrTab)
      match ← lineBreak? with
      | some c => quotedBreaks start fuel (breaks.push c)
      | none => return breaks

/-- Reads inside quotes up to white space or the closing quote. -/
def quotedWord (double : Bool) (start : Mark) : Nat → String → Lexing String
  | 0, read => return read
  | fuel + 1, read => do
      let plain ← run fun c => !(isGapOrEnd c || c == '\'' || c == '"' || c == '\\')
      let read := read ++ String.ofList plain
      let c ← peek
      if !double && c == '\'' && (← peek 1) == '\'' then
        advance 2
        quotedWord double start fuel (read.push '\'')
      else if (double && c == '\'') || (!double && (c == '"' || c == '\\')) then
        advance 1
        quotedWord double start fuel (read.push c)
      else if double && c == '\\' then
        advance 1
        let letter ← peek
        if let some escaped := escapedChar? letter then
          advance 1
          quotedWord double start fuel (read.push escaped)
        else if let some length := escapeLength? letter then
          advance 1
          quotedWord double start fuel (read.push (← hexEscape start length))
        else if isBreak letter then
          let _ ← lineBreak?
          quotedWord double start fuel (read ++ (← quotedBreaks start (← bound) ""))
        else refuse .doubleQuotedScalar start (.unknownEscape letter)
      else return read

/-- Reads white space inside quotes. A single line break becomes a space. -/
def quotedSpace (start : Mark) : Lexing String := do
  let spaces ← run isSpaceOrTab
  if (← peek) == '\x00' then refuse .quotedScalar start .endInQuotes
  match ← lineBreak? with
  | none => return String.ofList spaces
  | some c =>
      let breaks ← quotedBreaks start (← bound) ""
      if c ≠ '\n' then return String.singleton c ++ breaks
      return if breaks = "" then " " else breaks

def quotedParts (double : Bool) (start : Mark) : Nat → String → Lexing String
  | 0, read => return read
  | fuel + 1, read => do
      let read := read ++ (← quotedWord double start (← bound) "")
      if (← peek) == (if double then '"' else '\'') then return read
      quotedParts double start fuel (read ++ (← quotedSpace start))

def quotedScalar (double : Bool) : Lexing Token.Kind := do
  let start := (← get).mark
  advance 1
  let text ← quotedParts double start (← bound) ""
  advance 1
  return .scalar text false

/-! ## Plain scalars -/

/-- The longest beginning that a plain scalar may hold on one line without white space. -/
def plainWord (inFlow : Bool) : List Char → List Char
  | [] => []
  | c :: rest =>
      let next := rest.headD '\x00'
      let endsHere := isGapOrEnd c ||
        (c == ':' && (isGapOrEnd next || (inFlow && ",[]\x7b\x7d".toList.contains next))) ||
        (inFlow && ",?[]\x7b\x7d".toList.contains c)
      if endsHere then [] else c :: plainWord inFlow rest

/-- Passes blank lines behind a line of a plain scalar: their breaks, or `none` at the end of the
document. -/
def plainBreaks : Nat → String → Lexing (Option String)
  | 0, breaks => return some breaks
  | fuel + 1, breaks => do
      if (← get).hasSeparator then return none
      modify Cursor.skipSpaces
      match ← lineBreak? with
      | some c => plainBreaks fuel (breaks.push c)
      | none => return some breaks

/-- Reads white space behind a word of a plain scalar, and tells if there was a line break. -/
def plainSpace : Lexing (String × Bool) := do
  let spaces ← run (· == ' ')
  match ← lineBreak? with
  | none => return (String.ofList spaces, false)
  | some c => match ← plainBreaks (← bound) "" with
    | none => return ("", true)
    | some breaks =>
        if c ≠ '\n' then return (String.singleton c ++ breaks, true)
        return (if breaks = "" then " " else breaks, true)

/-- The words of a plain scalar from here on. `space` stands before the next one; `broken` tells
if it holds a line break. Gives the text and whether a line break was passed last. -/
def plainWords (inFlow : Bool) (outer : Int) :
    Nat → String → String → Bool → Lexing (String × Bool)
  | 0, read, _, broken => return (read, broken)
  | fuel + 1, read, space, broken => do
      if (← peek) == '#' then return (read, broken)
      let word := plainWord inFlow (← get).rest
      if word.isEmpty then return (read, broken)
      advance word.length
      let read := read ++ space ++ String.ofList word
      let (space, broken) ← plainSpace
      let tooFarLeft := !inFlow && ((← get).column : Int) ≤ outer
      if space = "" || tooFarLeft then return (read, broken)
      plainWords inFlow outer fuel read space broken

/-- A plain scalar within a collection at the given indentation, and whether its end is behind a
line break. -/
def plainScalar (inFlow : Bool) (outer : Int) : Lexing (Token.Kind × Bool) := do
  let (text, broken) ← plainWords inFlow outer (← bound) "" "" false
  return (.scalar text true, broken)

end Lexing

end Rulebook.Yaml
