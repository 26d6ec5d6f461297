import Rulebook.Yaml.Lexeme

/-!
The tokens of a text. Indentation opens and closes collections, and a colon turns a token before it
on its line into a key: until that is decided the token is withheld from readers.
-/

namespace Rulebook.Yaml

/-- A token that a colon may turn into a key. -/
structure PossibleKey where
  /-- The number of tokens before it. -/
  number : Nat
  /-- It starts at the indentation of its collection, so nothing else than a key may stand there. -/
  required : Bool
  mark : Mark

/-- How far a text has been taken apart. -/
structure Tokenizer where
  cursor : Cursor
  tokens : Array Token
  /-- How many brackets and braces are open. -/
  flowLevel : Nat := 0
  /-- The column of the innermost open collection, -1 outside of all. -/
  indent : Int := -1
  /-- The columns of the collections around it. -/
  outer : List Int := []
  /-- A key may start here. -/
  keyAllowed : Bool := true
  /-- The possible key of each flow level. -/
  keys : List (Nat × PossibleKey) := []
  finished : Bool := false

abbrev Tokenizing := StateT Tokenizer (Except Failure)

namespace Tokenizer

/-- How many tokens may be read although a colon could still come. -/
def ready (state : Tokenizer) : Nat :=
  state.keys.foldl (fun count (_, key) => min count key.number) state.tokens.size

end Tokenizer

namespace Tokenizing

/-- Stops with a problem at the cursor. -/
def refuse (problem : Problem) (activity : Option (Activity × Option Mark) := none) :
    Tokenizing α := do
  throw (.malformed (.located activity problem (← get).cursor.mark))

def peek (ahead : Nat := 0) : Tokenizing Char := return (← get).cursor.peek ahead

def inFlow : Tokenizing Bool := return (← get).flowLevel != 0

def allowKey (allowed : Bool) : Tokenizing Unit := modify ({ · with keyAllowed := allowed })

def emit (kind : Token.Kind) : Tokenizing Unit :=
  modify fun state => { state with tokens := state.tokens.push ⟨kind, state.cursor.mark⟩ }

/-- Adds a token that takes some characters of its own. -/
def emitMarker (kind : Token.Kind) (length : Nat) : Tokenizing Unit := do
  emit kind
  modify fun state => { state with cursor := state.cursor.advance length }

/-- Runs a reader of a single token's text. -/
def lex (reader : Lexing α) : Tokenizing α := do
  let state ← get
  match reader state.cursor with
  | .ok (value, cursor) => do
      set { state with cursor }
      return value
  | .error failure => throw failure

/-- Adds the token that a reader finds here. -/
def emitLexeme (reader : Lexing Token.Kind) : Tokenizing Unit := do
  let mark := (← get).cursor.mark
  let kind ← lex reader
  modify fun state => { state with tokens := state.tokens.push ⟨kind, mark⟩ }

/-! ## Possible keys -/

def missingColon (key : PossibleKey) : Tokenizing α :=
  refuse .colonMissing (some (.simpleKey, some key.mark))

/-- A key has at most 1024 characters on one line. -/
def dropStaleKeys : Tokenizing Unit := do
  let state ← get
  let here := state.cursor.mark
  let isStale := fun (entry : Nat × PossibleKey) =>
    entry.2.mark.line != here.line || 1024 < here.index - entry.2.mark.index
  match state.keys.find? fun entry => isStale entry && entry.2.required with
  | some (_, key) => missingColon key
  | none => set { state with keys := state.keys.filter (!isStale ·) }

def dropKey : Tokenizing Unit := do
  let state ← get
  match state.keys.lookup state.flowLevel with
  | none => return
  | some key =>
      if key.required then missingColon key
      set { state with keys := state.keys.filter (·.1 != state.flowLevel) }

/-- Notes that the next token may turn out to be a key. -/
def noteKey : Tokenizing Unit := do
  if (← get).keyAllowed then
    dropKey
    modify fun state =>
      let required := state.flowLevel == 0 && state.indent == state.cursor.column
      let key := ⟨state.tokens.size, required, state.cursor.mark⟩
      { state with keys := state.keys ++ [(state.flowLevel, key)] }

/-! ## Indentation -/

/-- Closes the collections that stand further right than a column. -/
def closeTo (column : Int) : Tokenizing Unit := do
  if !(← inFlow) then
    for _ in (← get).outer do
      if column < (← get).indent then
        emit .blockEnd
        modify fun state => { state with
          indent := state.outer.headD (-1)
          outer := state.outer.tail }

/-- Opens a collection unless one is open at the column. -/
def opens (column : Nat) : Tokenizing Bool := do
  let state ← get
  if state.indent < column then
    set { state with indent := column, outer := state.indent :: state.outer }
    return true
  return false

/-! ## Tokens -/

/-- Passes blanks, comments and line breaks up to the next token. A key may start on a new line. -/
def toNextToken : Nat → Tokenizing Unit
  | 0 => return
  | fuel + 1 => do
      modify fun state => { state with cursor := state.cursor.skipSpaces.skipComment }
      if (← lex Lexing.lineBreak?).isSome then
        if !(← inFlow) then allowKey true
        toNextToken fuel

/-- Ends what belongs to the document so far. -/
def closeDocument : Tokenizing Unit := do
  closeTo (-1)
  dropKey
  allowKey false

def streamEnd : Tokenizing Unit := do
  closeDocument
  emit .streamEnd
  modify ({ · with keys := [], finished := true })

def separator (kind : Token.Kind) : Tokenizing Unit := do
  closeDocument
  emitMarker kind 3

def flowStart (kind : Token.Kind) : Tokenizing Unit := do
  noteKey
  modify fun state => { state with flowLevel := state.flowLevel + 1 }
  allowKey true
  emitMarker kind 1

def flowEnd (kind : Token.Kind) : Tokenizing Unit := do
  dropKey
  modify fun state => { state with flowLevel := state.flowLevel - 1 }
  allowKey false
  emitMarker kind 1

def flowEntry : Tokenizing Unit := do
  allowKey true
  dropKey
  emitMarker .flowEntry 1

/-- Opens a block collection for an entry that starts here; `problem` if none may start here. -/
def openBlock (problem : Problem) (kind : Token.Kind) : Tokenizing Unit := do
  if !(← inFlow) then
    if !(← get).keyAllowed then refuse problem
    if ← opens (← get).cursor.column then emit kind

def blockEntry : Tokenizing Unit := do
  openBlock .entryNotAllowed .blockSequenceStart
  allowKey true
  dropKey
  emitMarker .blockEntry 1

def explicitKey : Tokenizing Unit := do
  openBlock .keyNotAllowed .blockMappingStart
  allowKey (!(← inFlow))
  dropKey
  emitMarker .key 1

/-- Makes the token that was noted a key. -/
def insertKey (key : PossibleKey) : Tokenizing Unit := do
  let starts ← if ← inFlow then pure false else opens key.mark.column
  let kinds := if starts then [Token.Kind.blockMappingStart, .key] else [.key]
  modify fun state => { state with
    keys := state.keys.filter (·.1 != state.flowLevel)
    tokens := state.tokens.extract 0 key.number ++ (kinds.map (⟨·, key.mark⟩)).toArray ++
      state.tokens.extract key.number state.tokens.size }
  allowKey false

def mappingValue : Tokenizing Unit := do
  let state ← get
  match state.keys.lookup state.flowLevel with
  | some key => insertKey key
  | none => do
      openBlock .valueNotAllowed .blockMappingStart
      allowKey (!(← inFlow))
      dropKey
  emitMarker .value 1

/-- A token that may be a key, and behind which none may start. -/
def keyLexeme (reader : Lexing Token.Kind) : Tokenizing Unit := do
  noteKey
  allowKey false
  emitLexeme reader

def blockScalar (folded : Bool) : Tokenizing Unit := do
  allowKey true
  dropKey
  emitLexeme (Lexing.blockScalar folded (← get).indent)

def plainScalar : Tokenizing Unit := do
  noteKey
  let state ← get
  let (kind, broken) ← lex (Lexing.plainScalar (state.flowLevel != 0) state.indent)
  modify fun after => { after with tokens := after.tokens.push ⟨kind, state.cursor.mark⟩ }
  allowKey broken

/-- A plain scalar may start with this character before that one. -/
def startsPlain (inFlow : Bool) (c next : Char) : Bool :=
  !(isGapOrEnd c || "-?:,[]\x7b\x7d#&*!|>'\"%@\x60".toList.contains c) ||
  (!isGapOrEnd next && (c == '-' || (!inFlow && (c == '?' || c == ':'))))

/-- Adds the tokens that start at the cursor. -/
def token : Tokenizing Unit := do
  let cursor := (← get).cursor
  let inFlow ← inFlow
  let c := cursor.peek
  let next := cursor.peek 1
  let atLineStart := cursor.column = 0
  if c == '\x00' then streamEnd
  else if c == '%' && atLineStart then do
    closeDocument
    emitLexeme Lexing.directive
  else if atLineStart && cursor.hasMarker '-' then separator .documentStart
  else if atLineStart && cursor.hasMarker '.' then separator .documentEnd
  else if c == '[' then flowStart .flowSequenceStart
  else if c == '\x7b' then flowStart .flowMappingStart
  else if c == ']' then flowEnd .flowSequenceEnd
  else if c == '\x7d' then flowEnd .flowMappingEnd
  else if c == ',' then flowEntry
  else if c == '-' && isGapOrEnd next then blockEntry
  else if c == '?' && (inFlow || isGapOrEnd next) then explicitKey
  else if c == ':' && (inFlow || isGapOrEnd next) then mappingValue
  else if c == '*' then keyLexeme (return .reference (← Lexing.anchorName .reference))
  else if c == '&' then keyLexeme (return .anchor (← Lexing.anchorName .anchor))
  else if c == '!' then keyLexeme Lexing.tag
  else if c == '|' && !inFlow then blockScalar false
  else if c == '>' && !inFlow then blockScalar true
  else if c == '\'' then keyLexeme (Lexing.quotedScalar false)
  else if c == '"' then keyLexeme (Lexing.quotedScalar true)
  else if startsPlain inFlow c next then plainScalar
  else refuse (.noToken c) (some (.nextToken, none))

/-- Passes to the next token and adds it. -/
def step : Tokenizing Unit := do
  toNextToken ((← get).cursor.rest.length + 1)
  dropStaleKeys
  closeTo (← get).cursor.column
  token
  if !(← get).finished then dropStaleKeys

end Tokenizing

/-- The tokens that can be read, and what stops a reader that asks for more. -/
structure Token.Stream where
  tokens : Array Token
  failure : Option Failure

namespace Token.Stream

def complete : Nat → Tokenizer → Stream
  | 0, state => ⟨state.tokens, none⟩
  | fuel + 1, state =>
      if state.finished then ⟨state.tokens, none⟩
      else match Tokenizing.step.run state with
        | .ok (_, next) => complete fuel next
        | .error failure => ⟨state.tokens.extract 0 state.ready, some failure⟩

/-- The tokens of a text whose characters are all acceptable. -/
def ofText (text : String) : Stream :=
  let start := Cursor.ofText text
  let tokens := #[⟨.streamStart, start.mark⟩]
  let cursor := if start.peek = '\uFEFF' then start.next else start
  complete (cursor.rest.length + 2) { cursor, tokens }

end Token.Stream

end Rulebook.Yaml
