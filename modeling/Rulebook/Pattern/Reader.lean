import Rulebook.Decimal.Reading
import Rulebook.Pattern.Error
import Rulebook.Pattern.Expr
import Rulebook.Text.CharacterName
import Rulebook.Text.Hex
import Rulebook.Text.Letter

/-!
Reading a regular expression.

A pattern is read token by token; a backslash and the character after it are one token. The reader
keeps what later parts of a pattern depend on: the groups so far with their names and widths, and
the flags turned on for the whole pattern.
-/

namespace Rulebook.Pattern

inductive Token where
  | plain (c : Char)
  | escaped (c : Char)
  deriving DecidableEq

namespace Token

def text : Token → String
  | plain c => String.singleton c
  | escaped c => String.ofList ['\\', c]

def length : Token → Nat
  | plain _ => 1
  | escaped _ => 2

/-- Whether the token is one of the unescaped characters. -/
def isIn (set : String) : Token → Bool
  | plain c => set.contains c
  | escaped _ => false

end Token

structure Reader where
  text : Array Char
  position : Nat := 0
  flags : Flags := {}
  /-- Named groups with their numbers. -/
  names : List (String × Nat) := []
  /-- The widths of the groups from group zero on; a group that is still open has none. -/
  groups : List (Option (Nat × Nat)) := [none]
  /-- Within a look-behind, the number of groups before it. -/
  lookbehind : Option Nat := none
  /-- Groups that conditions refer to by number, with the position of the first reference. -/
  references : List (Nat × Nat) := []
  /-- How far the groups around the position are nested, counted as in `depthLimit`. -/
  depth : Nat := 0

/-- Reading fails with a `Failure` or goes on with a changed reader. -/
abbrev Read := StateT Reader (Except Failure)

/-- More groups than this are refused. -/
def groupLimit : Nat := 1073741823

/-- Groups may be nested up to this depth. A group counts twice, once for its alternatives and once
for the one that is being read; a condition's branches have no alternatives and count once. -/
def depthLimit : Nat := 982

/-- A repeat count has to be smaller than this. -/
def repeatLimit : Nat := 4294967295

namespace Read

def failAt (problem : Problem) (position : Nat) : Read α :=
  throw (.rejected ⟨problem, some position⟩)

/-- Fails with a position that lies `back` characters before the next token. -/
def fail (problem : Problem) (back : Nat) : Read α := do
  failAt problem ((← get).position - back)

def tell : Read Nat := return (← get).position

/-- The next token, which stays. -/
def peek : Read (Option Token) := do
  let reader ← get
  match reader.text[reader.position]? with
  | none => return none
  | some '\\' => return (reader.text[reader.position + 1]?).map .escaped
  | some c => return some (.plain c)

/-- Goes on at a position; a backslash must not end the pattern there. -/
def goto (position : Nat) : Read Unit := do
  let reader ← get
  if reader.text[position]? == some '\\' && reader.text.size ≤ position + 1 then
    failAt .escapeAtEnd (reader.text.size - 1)
  set { reader with position }

/-- Takes the next token. -/
def next : Read (Option Token) := do
  let token ← peek
  match token with
  | none => return none
  | some found => do
      goto ((← tell) + found.length)
      return token

/-- Takes the next token if it is the given character. -/
def accept (c : Char) : Read Bool := do
  if (← peek) == some (.plain c) then
    let _ ← next
    return true
  return false

/-- Takes up to `count` tokens that are characters of the set. -/
def takeWhile (set : Char → Bool) : Nat → Read (List Char)
  | 0 => return []
  | count + 1 => do
      match ← peek with
      | some (.plain c) =>
          if set c then
            let _ ← next
            return c :: (← takeWhile set count)
          return []
      | _ => return []

/-- Takes the text up to a terminator, which is taken too; `what` names it in errors. -/
def takeUntil (terminator : Char) (what : String) : Nat → String → Read String
  | 0, _ => fail (.missing what) 0
  | fuel + 1, found => do
      match ← next with
      | none =>
          if found.isEmpty then fail (.missing what) 0
          else fail (.unterminatedName terminator) found.length
      | some token =>
          if token == .plain terminator then
            if found.isEmpty then fail (.missing what) 1
            return found
          takeUntil terminator what fuel (found ++ token.text)

/-- Takes a name up to a terminator. -/
def nameUntil (terminator : Char) (what : String) : Read String := do
  takeUntil terminator what ((← get).text.size + 1) ""

/-- The width of a group that is closed. -/
def isClosed (group : Nat) : Read Bool := do
  return ((← get).groups[group]?).join.isSome

/-- Within a look-behind, only groups closed before it can be referred to. -/
def checkLookbehind (group : Nat) : Read Unit := do
  match (← get).lookbehind with
  | none => return
  | some before =>
      if !(← isClosed group) then fail .openGroup 0
      if before ≤ group then fail .groupOfLookbehind 0

/-- Opens a new group and returns its number. -/
def openGroup (name : Option String) : Read Nat := do
  let reader ← get
  let group := reader.groups.length
  set { reader with groups := reader.groups ++ [none] }
  match name with
  | none => return group
  | some name =>
      match reader.names.lookup name with
      | some earlier => fail (.groupRedefinition name group earlier) (name.length + 1)
      | none =>
          modify fun reader => { reader with names := reader.names ++ [(name, group)] }
          return group

def closeGroup (group : Nat) (body : List Item) : Read Unit :=
  modify fun reader =>
    { reader with groups := reader.groups.set group (some (sequenceWidth reader.groups body)) }

end Read

def isOctalDigit (c : Char) : Bool := '0' ≤ c && c ≤ '7'

def isHexDigit (c : Char) : Bool := (Text.hexValue? c).isSome

def octalValue (digits : List Char) : Nat :=
  digits.foldl (fun value c => 8 * value + (c.toNat - 48)) 0

def isAsciiLetter (c : Char) : Bool := ('a' ≤ c && c ≤ 'z') || ('A' ≤ c && c ≤ 'Z')

/-- Escapes that stand for a control character or for the backslash. -/
def controlEscape? : Char → Option Nat
  | 'a' => some 7
  | 'b' => some 8
  | 'f' => some 12
  | 'n' => some 10
  | 'r' => some 13
  | 't' => some 9
  | 'v' => some 11
  | '\\' => some 92
  | _ => none

/-- Escapes that stand for a class of characters: the class, and whether it is negated. -/
def categoryEscape? : Char → Option SetItem
  | 'd' => some (.category .digit false)
  | 'D' => some (.category .digit true)
  | 's' => some (.category .space false)
  | 'S' => some (.category .space true)
  | 'w' => some (.category .word false)
  | 'W' => some (.category .word true)
  | _ => none

def anchorEscape? : Char → Option Anchor
  | 'A' => some .textStart
  | 'b' => some .boundary
  | 'B' => some .notBoundary
  | 'Z' => some .textEnd
  | _ => none

namespace Read

/-- Reads the rest of an escape that gives a code in hexadecimal digits. -/
def hexEscape (letter : Char) (count : Nat) : Read Nat := do
  let digits ← takeWhile isHexDigit count
  let escape := String.ofList ('\\' :: letter :: digits)
  if digits.length ≠ count then fail (.incompleteEscape escape) escape.length
  let code := Text.hexValue digits
  if 0x7FFFFFFF < code then throw .characterTooLarge
  if 0x10FFFF < code then fail (.badEscape escape) escape.length
  return code

/-- Reads the rest of an escape that names a character. -/
def namedEscape : Read Nat := do
  if !(← accept '\x7b') then fail .missingBrace 0
  let name ← nameUntil '\x7d' "character name"
  match Text.characterNamed? name with
  | some code => return code
  | none => fail (.unknownCharacterName name) (name.length + 4)

/-- Reads the rest of an escape of either kind that gives a character by its code or name. -/
def codeEscape? (c : Char) : Read (Option Nat) := do
  match c with
  | 'x' => return some (← hexEscape c 2)
  | 'u' => return some (← hexEscape c 4)
  | 'U' => return some (← hexEscape c 8)
  | 'N' => return some (← namedEscape)
  | _ => return none

/-- An escaped character that stands for itself. -/
def selfEscape (c : Char) : Read Nat := do
  if isAsciiLetter c || Decimal.isDigit c then
    fail (.badEscape (Token.escaped c).text) 2
  return c.toNat

/-- Reads the rest of an escape within a character set. -/
def setEscape (c : Char) : Read SetItem := do
  if let some code := controlEscape? c then return .char code
  if let some item := categoryEscape? c then return item
  if let some code ← codeEscape? c then return .char code
  if isOctalDigit c then
    let digits := c :: (← takeWhile isOctalDigit 2)
    let escape := String.ofList ('\\' :: digits)
    let code := octalValue digits
    if 0o377 < code then fail (.octalTooLarge escape) escape.length
    return .char code
  return .char (← selfEscape c)

/-- Reads the rest of a reference to a group, or of a character given by three octal digits. -/
def digitEscape (c : Char) : Read Item := do
  let second : Option Char ← (do
    match ← peek with
    | some (.plain d) =>
        if Decimal.isDigit d then
          let _ ← next
          return some d
        return none
    | _ => return none)
  if let some d := second then
    if isOctalDigit c && isOctalDigit d then
      match ← takeWhile isOctalDigit 1 with
      | [e] =>
          let escape := String.ofList ['\\', c, d, e]
          let code := octalValue [c, d, e]
          if 0o377 < code then fail (.octalTooLarge escape) escape.length
          return .char code
      | _ => pure ()
  let digits := c :: second.toList
  let group := Decimal.valueOf digits
  if group < (← get).groups.length then
    if !(← isClosed group) then fail .openGroup (digits.length + 1)
    checkLookbehind group
    return .backReference group
  fail (.invalidGroupReference group) digits.length

/-- Reads the rest of an escape outside of character sets. -/
def itemEscape (c : Char) : Read Item := do
  if let some anchor := anchorEscape? c then return .anchor anchor
  if let some item := categoryEscape? c then return .set false [item]
  if let some code := controlEscape? c then return .char code
  if let some code ← codeEscape? c then return .char code
  if c == '0' then return .char (octalValue (← takeWhile isOctalDigit 2))
  if Decimal.isDigit c then return ← digitEscape c
  return .char (← selfEscape c)

/-- Reads the members of a character set; `start` is the position of its bracket and `read` holds
the members so far, the last one first. -/
def setMembers (start : Nat) : Nat → List SetItem → Read (List SetItem)
  | 0, _ => failAt .unterminatedSet start
  | fuel + 1, read => do
      let some this ← next | failAt .unterminatedSet start
      if this == .plain ']' && !read.isEmpty then return read.reverse
      let low ← match this with
        | .escaped c => setEscape c
        | .plain c => pure (.char c.toNat)
      if ← accept '-' then
        let some that ← next | failAt .unterminatedSet start
        if that == .plain ']' then return (.char '-'.toNat :: low :: read).reverse
        let high ← match that with
          | .escaped c => setEscape c
          | .plain c => pure (.char c.toNat)
        let problem := Problem.badRange this.text that.text
        let back := this.length + 1 + that.length
        match low, high with
        | .char first, .char last =>
            if last < first then fail problem back
            setMembers start fuel (.range first last :: read)
        | _, _ => fail problem back
      else setMembers start fuel (low :: read)

/-- Reads a character set behind its opening bracket. -/
def setItem : Read Item := do
  let start := (← tell) - 1
  let negated ← accept '^'
  let members := (← setMembers start ((← get).text.size + 1) []).eraseDups
  match members with
  | [.char code] => return if negated then .notChar code else .char code
  | _ => return .set negated members

/-- Reads the bounds of a counted repetition behind its opening brace; `none` if the brace stands
for itself. The end of the bounds is then not taken. -/
def bounds : Read (Option (Nat × Option Nat)) := do
  let here ← tell
  if (← peek) == some (.plain '\x7d') then return none
  let low ← takeWhile Decimal.isDigit (← get).text.size
  let high ← if ← accept ',' then takeWhile Decimal.isDigit (← get).text.size else pure low
  if !(← accept '\x7d') then
    goto here
    return none
  let value? (digits : List Char) : Read (Option Nat) := do
    if digits.isEmpty then return none
    if Decimal.digitLimit < digits.length then throw (.tooManyDigits digits.length)
    let value := Decimal.valueOf digits
    if repeatLimit ≤ value then throw .repeatTooLarge
    return some value
  let least := (← value? low).getD 0
  let most ← value? high
  if most.any (· < least) then failAt .emptyRepeatRange here
  return some (least, most)

def flag? : Token → Option Flags
  | .plain 'i' => some { ignoreCase := true }
  | .plain 'm' => some { multiline := true }
  | .plain 's' => some { dotAll := true }
  | .plain 'x' => some { verbose := true }
  | .plain 'a' => some { ascii := true }
  | .plain 'u' => some { unicode := true }
  | .plain 't' => some { template := true }
  | _ => none

def isFlag (token : Token) : Bool := (flag? token).isSome || token == .plain 'L'

def isLetter : Token → Bool
  | .plain c => Text.isLetterCode c.toNat
  | .escaped _ => false

/-- Reads flags that are turned on, from `token` on, up to the character that ends them. -/
def addedFlags : Nat → Token → Flags → Read (Flags × Token)
  | 0, _, _ => fail .unfinishedFlags 0
  | fuel + 1, token, added => do
      let some flag := flag? token | fail .localeFlag 0
      let added := added.union flag
      if (flag.ascii || flag.unicode) && (added.ascii && added.unicode) then
        fail .incompatibleFlags 0
      let some token ← next | fail .unfinishedFlags 0
      if token.isIn ")-:" then return (added, token)
      if !isFlag token then
        fail (if isLetter token then .unknownFlag else .unfinishedFlags) token.length
      addedFlags fuel token added

/-- Reads flags that are turned off, from `token` on, up to a colon. -/
def removedFlags : Nat → Token → Flags → Read Flags
  | 0, _, _ => fail .missingColon 0
  | fuel + 1, token, removed => do
      let some flag := flag? token | fail .classFlagOff 0
      if flag.ascii || flag.unicode then fail .classFlagOff 0
      let removed := removed.union flag
      let some token ← next | fail .missingColon 0
      if token == .plain ':' then return removed
      if !isFlag token then
        fail (if isLetter token then .unknownFlag else .missingColon) token.length
      removedFlags fuel token removed

/-- Reads flags from `token` on. Flags for the whole pattern are stored and nothing is returned;
flags for a group are returned, those turned on and those turned off. -/
def groupFlags (token : Token) : Read (Option (Flags × Flags)) := do
  let fuel := (← get).text.size + 1
  let (added, terminator) ←
    if token == .plain '-' then pure (Flags.none, token) else addedFlags fuel token {}
  if terminator == .plain ')' then
    modify fun reader => { reader with flags := reader.flags.union added }
    return none
  if added.template then fail .globalFlagOn 1
  if terminator == .plain ':' then return some (added, {})
  let some token ← next | fail .missingFlag 0
  if !isFlag token then
    fail (if isLetter token then .unknownFlag else .missingFlag) token.length
  let removed ← removedFlags fuel token {}
  if removed.template then fail .globalFlagOff 1
  if !(added.intersection removed).isNone then fail .flagOnAndOff 1
  return some (added, removed)

/-- Reads the group that a condition tests, behind its opening parenthesis. -/
def condition : Read Nat := do
  let name ← nameUntil ')' "group name"
  let back := name.length + 1
  let group ← (do
    if Text.isIdentifier name.toList then
      match (← get).names.lookup name with
      | some group => return group
      | none => fail (.unknownGroupName name) back
    match Decimal.readInteger name with
    | .ok (.ofNat group) =>
        if group = 0 then fail .badGroupNumber back
        if groupLimit ≤ group then fail (.invalidGroupReference group) back
        let reader ← get
        if (reader.references.lookup group).isNone then
          set { reader with references := reader.references ++ [(group, reader.position - back)] }
        return group
    | _ => fail (.badGroupName name) back)
  checkLookbehind group
  return group

/-- Reads a group name up to a terminator. -/
def groupName (terminator : Char) : Read String := do
  let name ← nameUntil terminator "group name"
  if !Text.isIdentifier name.toList then fail (.badGroupName name) (name.length + 1)
  return name

/-- Reads the name of a reference to a named group. -/
def namedReference : Read Item := do
  let name ← groupName ')'
  let back := name.length + 1
  let some group := (← get).names.lookup name | fail (.unknownGroupName name) back
  if !(← isClosed group) then fail .openGroup back
  checkLookbehind group
  return .backReference group

/-- Reads something that lies `levels` deeper than what is around it. -/
def nested (levels : Nat) (inside : Read α) : Read α := do
  let outer := (← get).depth
  if depthLimit < outer + levels then throw .tooDeep
  modify fun reader => { reader with depth := outer + levels }
  let found ← inside
  modify fun reader => { reader with depth := outer }
  return found

/-- Skips a comment; `start` is the position of its parenthesis. -/
def skipComment (start : Nat) : Nat → Read Unit
  | 0 => failAt .unterminatedComment start
  | fuel + 1 => do
      if (← peek).isNone then failAt .unterminatedComment start
      if (← next) == some (.plain ')') then return
      skipComment start fuel

/-- Skips the rest of a line. -/
def skipLine : Nat → Read Unit
  | 0 => return
  | fuel + 1 => do
      match ← next with
      | none | some (.plain '\n') => return
      | _ => skipLine fuel

end Read

/-- The common leaves at the front of all alternatives, and what then is left of each. -/
def commonFront : List Item → List (List Item) → List Item × List (List Item)
  | [], others => ([], [] :: others)
  | item :: rest, others =>
      if others.all fun other => match other with
        | head :: _ => head.sameLeaf item
        | [] => false
      then
        let (front, alternatives) := commonFront rest (others.map List.tail)
        (item :: front, alternatives)
      else ([], (item :: rest) :: others)

/-- Joins alternatives: common leaves move in front, and alternatives of one character each become
a set. -/
def alternation : List (List Item) → List Item
  | [] => []
  | [only] => only
  | first :: others =>
      let (front, alternatives) := commonFront first others
      let sets := alternatives.map fun alternative => match alternative with
        | [item] => item.asSet?
        | _ => none
      if sets.all Option.isSome then
        front ++ [.set false (sets.filterMap fun set => set).flatten.eraseDups]
      else front ++ [.branch alternatives]

/-- What a group's opening leads to. -/
inductive Opening where
  | capture (name : Option String)
  | plain (added removed : Flags)
  | atomic
  | look (ahead negated : Bool)
  | conditional (group : Nat)
  | item (item : Item)
  | nothing

namespace Read

/-- Reads what follows the opening parenthesis at `start` up to the group's content. Flags for the
whole pattern may come only where `atStart` says that nothing has come before. -/
def opening (start : Nat) (atStart : Bool) : Read Opening := do
  if !(← accept '?') then return .capture none
  let some token ← next | fail .unexpectedEnd 0
  match token with
  | .plain 'P' =>
      if ← accept '<' then return .capture (some (← groupName '>'))
      if ← accept '=' then return .item (← namedReference)
      let some token ← next | fail .unexpectedEnd 0
      fail (.unknownExtension ("P" ++ token.text)) (token.length + 2)
  | .plain ':' => return .plain {} {}
  | .plain '#' =>
      skipComment start ((← get).text.size + 1)
      return .nothing
  | .plain '=' => return .look true false
  | .plain '!' => return .look true true
  | .plain '<' =>
      let some token ← next | fail .unexpectedEnd 0
      match token with
      | .plain '=' => return .look false false
      | .plain '!' => return .look false true
      | _ => fail (.unknownExtension ("<" ++ token.text)) (token.length + 2)
  | .plain '(' => return .conditional (← condition)
  | .plain '>' => return .atomic
  | _ =>
      if isFlag token || token == .plain '-' then
        match ← groupFlags token with
        | some (added, removed) => return .plain added removed
        | none =>
            if !atStart then failAt .lateGlobalFlags start
            return .nothing
      fail (.unknownExtension token.text) (token.length + 1)

/-- Reads what may follow a repetition to say which number of turns is tried first. -/
def greed : Read Greed := do
  match ← peek with
  | some (.plain '?') =>
      let _ ← next
      return .lazy
  | some (.plain '+') =>
      let _ ← next
      return .possessive
  | _ => return .greedy

mutual

/-- Reads alternatives up to a closing parenthesis or the end; `read` holds those so far, the last
one first. At the top, flags for the whole pattern take effect from one alternative to the next. -/
def alternatives (fuel : Nat) (top verbose : Bool) (read : List (List Item)) :
    Read (List Item) := do
  match fuel with
  | 0 => return []
  | fuel + 1 =>
      let items ← sequence fuel (top && read.isEmpty) verbose []
      if ← accept '|' then
        let flags := (← get).flags
        let verbose := if top then flags.verbose else verbose
        alternatives fuel top verbose (items :: read)
      else return alternation (items :: read).reverse
  termination_by structural fuel

/-- Reads one alternative; `read` holds its items so far, the last one first. -/
def sequence (fuel : Nat) (first verbose : Bool) (read : List Item) : Read (List Item) := do
  match fuel with
  | 0 => return []
  | fuel + 1 =>
      let some token ← peek | return (read.reverse.map Item.ungrouped).flatten
      if token.isIn "|)" then return (read.reverse.map Item.ungrouped).flatten
      let _ ← next
      if verbose && token.isIn " \t\n\r\x0b\x0c" then sequence fuel first verbose read
      else if verbose && token.isIn "#" then
        skipLine ((← get).text.size + 1)
        sequence fuel first verbose read
      else
        match token with
        | .escaped c => sequence fuel first verbose ((← itemEscape c) :: read)
        | .plain '[' => sequence fuel first verbose ((← setItem) :: read)
        | .plain '.' => sequence fuel first verbose (.any :: read)
        | .plain '^' => sequence fuel first verbose (.anchor .lineStart :: read)
        | .plain '$' => sequence fuel first verbose (.anchor .lineEnd :: read)
        | .plain '(' => group fuel ((← tell) - 1) first verbose read
        | .plain c =>
            if c == '?' || c == '*' || c == '+' || c == '\x7b' then
              let here ← tell
              let found ← match c with
                | '?' => pure (some (0, some 1))
                | '*' => pure (some (0, none))
                | '+' => pure (some (1, none))
                | _ => bounds
              match found with
              | none => sequence fuel first verbose (.char c.toNat :: read)
              | some (least, most) =>
                  match read with
                  | [] => failAt .nothingToRepeat (here - 1)
                  | item :: before =>
                      if item.isAnchor then failAt .nothingToRepeat (here - 1)
                      if item.isRepetition then failAt .multipleRepeat (here - 1)
                      let greed ← greed
                      let repeated := Item.repetition greed least most item.ungrouped
                      sequence fuel first verbose (repeated :: before)
            else sequence fuel first verbose (.char c.toNat :: read)
  termination_by structural fuel

/-- Reads a group behind its opening parenthesis at `start`, and then the rest of the sequence. -/
def group (fuel : Nat) (start : Nat) (first verbose : Bool) (read : List Item) :
    Read (List Item) := do
  match fuel with
  | 0 => return []
  | fuel + 1 =>
      let close : Read Unit := do
        if !(← accept ')') then failAt .unterminatedGroup start
      match ← opening start (first && read.isEmpty) with
      | .nothing =>
          -- Only at the top can this be about flags, and then it may have turned on `verbose`.
          let flags := (← get).flags
          let verbose := verbose || (first && read.isEmpty && flags.verbose)
          sequence fuel first verbose read
      | .item item => sequence fuel first verbose (item :: read)
      | .capture name =>
          let index ← openGroup name
          let body ← nested 2 (alternatives fuel false verbose [])
          close
          closeGroup index body
          sequence fuel first verbose (.group (some index) {} {} body :: read)
      | .plain added removed =>
          let inside := (verbose || added.verbose) && !removed.verbose
          let body ← nested 2 (alternatives fuel false inside [])
          close
          sequence fuel first verbose (.group none added removed body :: read)
      | .atomic =>
          let body ← nested 2 (alternatives fuel false verbose [])
          close
          sequence fuel first verbose (.atomic body :: read)
      | .look ahead negated =>
          let outer := (← get).lookbehind
          if !ahead && outer.isNone then
            modify fun reader => { reader with lookbehind := some reader.groups.length }
          let body ← nested 2 (alternatives fuel false verbose [])
          if !ahead then modify fun reader => { reader with lookbehind := outer }
          close
          sequence fuel first verbose (.look ahead negated body :: read)
      | .conditional index =>
          let present ← nested 1 (sequence fuel false verbose [])
          let absent ← (do
            if ← accept '|' then
              let absent ← nested 1 (sequence fuel false verbose [])
              if (← peek) == some (.plain '|') then fail .thirdBranch 0
              return some absent
            return none)
          close
          sequence fuel first verbose (.conditional index present absent :: read)
  termination_by structural fuel

end

end Read

/-- A pattern that has been read: its items, its flags, and the widths of its groups. -/
structure Expression where
  items : List Item
  flags : Flags
  groups : List (Option (Nat × Nat))

/-- Reads a whole pattern. Every item, group and alternative takes a character of its own, so the
number of characters bounds the steps. -/
def Expression.read (text : String) : Except Failure Expression := do
  let start : Reader := { text := text.toList.toArray, flags := { ignoreCase := true } }
  let whole : Read (List Item) := do
    Read.goto 0
    let items ← Read.alternatives (4 * start.text.size + 8) true false []
    let reader ← get
    if reader.flags.ascii && reader.flags.unicode then throw .conflictingFlags
    if (← Read.peek).isSome then Read.fail .unbalancedParenthesis 0
    match reader.references.find? fun (index, _) => reader.groups.length ≤ index with
    | some (index, position) => Read.failAt (.invalidGroupReference index) position
    | none => return items
  let (items, reader) ← whole.run start
  let flags := if reader.flags.ascii then reader.flags else { reader.flags with unicode := true }
  return ⟨items, flags, reader.groups⟩

end Rulebook.Pattern
