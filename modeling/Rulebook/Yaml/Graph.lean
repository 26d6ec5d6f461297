import Rulebook.Yaml.Error
import Rulebook.Yaml.Tag
import Rulebook.Yaml.Token.Stream

/-!
The nodes of a document. Aliases make a graph of them, which may have cycles.
-/

namespace Rulebook.Yaml

/-- What a node holds; nodes inside it are given by their numbers. -/
inductive Content where
  | scalar (text : String)
  | sequence (items : List Nat)
  | mapping (entries : List (Nat × Nat))
  deriving DecidableEq, Repr, Inhabited

def Content.shape : Content → Shape
  | scalar _ => .scalar
  | sequence _ => .sequence
  | mapping _ => .mapping

structure Node where
  tag : String
  mark : Mark
  content : Content
  deriving DecidableEq, Repr, Inhabited

/-- The nodes of a document by number. -/
structure Graph where
  nodes : Array Node
  root : Nat
  /-- Some collection is inside itself. -/
  cyclic : Bool
  deriving Repr

/-- A document under construction. -/
structure GraphBuilder where
  stream : Token.Stream
  /-- How many tokens have been read. -/
  position : Nat := 0
  nodes : Array Node := #[]
  anchors : List (String × Nat) := []
  handles : List (String × String) := []
  /-- The collections that the next token is inside of. -/
  unfinished : List Nat := []
  cyclic : Bool := false

abbrev Building := StateT GraphBuilder (Except Failure)

namespace Building

def refuse (problem : Problem) (mark : Mark)
    (activity : Option (Activity × Option Mark) := none) : Building α :=
  throw (.malformed (.located activity problem mark))

/-! ## Tokens -/

/-- The next token. -/
def peek : Building Token := do
  let state ← get
  match state.stream.tokens[state.position]?, state.stream.failure with
  | some token, _ => return token
  | none, some failure => throw failure
  | none, none => return ⟨.streamEnd, default⟩

def take : Building Token := do
  let token ← peek
  modify fun state => { state with position := state.position + 1 }
  return token

def nextIs (kind : Token.Kind) : Building Bool := return (← peek).kind = kind

/-! ## Nodes -/

def add (node : Node) : Building Nat :=
  modifyGet fun state => (state.nodes.size, { state with nodes := state.nodes.push node })

/-- A scalar without text, where content is left out. -/
def empty (mark : Mark) : Building Nat := add ⟨Tag.ofForm "", mark, .scalar ""⟩

/-- The properties before a node's content. -/
structure Properties where
  anchor : Option String := none
  tag : Option String := none
  /-- Where the properties begin. -/
  mark : Option Mark := none

def resolveHandle (start tagMark : Mark) : Option String → String → Building String
  | none, suffix => return suffix
  | some handle, suffix => do
      match (← get).handles.lookup handle with
      | some address => return address ++ suffix
      | none => refuse (.undefinedHandle handle) tagMark (some (.node, some start))

def properties : Building Properties := do
  let first ← peek
  match first.kind with
  | .anchor name => do
      let _ ← take
      let second ← peek
      match second.kind with
      | .tag handle suffix => do
          let _ ← take
          let tag ← resolveHandle first.mark second.mark handle suffix
          return ⟨some name, some tag, some first.mark⟩
      | _ => return ⟨some name, none, some first.mark⟩
  | .tag handle suffix => do
      let _ ← take
      let second ← peek
      let anchor ← match second.kind with
        | .anchor name => do
            let _ ← take
            pure (some name)
        | _ => pure none
      let tag ← resolveHandle first.mark first.mark handle suffix
      return ⟨anchor, some tag, some first.mark⟩
  | _ => return {}

/-- Adds a node whose properties have been read, and remembers its anchor. -/
def addNode (properties : Properties) (start : Mark) (tag : String) (content : Content) :
    Building Nat := do
  let number ← add ⟨tag, start, content⟩
  if let some name := properties.anchor then
    modify fun state => { state with anchors := (name, number) :: state.anchors }
  return number

/-- An anchor's name may be given once. -/
def checkAnchor (properties : Properties) (start : Mark) : Building Unit := do
  if let some name := properties.anchor then
    let state ← get
    if let some number := state.anchors.lookup name then
      let earlier := (state.nodes[number]?.getD default).mark
      refuse .secondAnchor start (some (.firstAnchor name, some earlier))

/-- The tag of a collection; a lone exclamation mark is none. -/
def Properties.collectionTag (properties : Properties) (name : String) : String :=
  match properties.tag with
  | some tag => if tag = "!" then Tag.named name else tag
  | none => Tag.named name

/-- The tag of a scalar. A lone exclamation mark has it told by the form of the text. -/
def Properties.scalarTag (properties : Properties) (text : String) (plain : Bool) : String :=
  match properties.tag with
  | some tag => if tag = "!" then Tag.ofForm text else tag
  | none => if plain then Tag.ofForm text else Tag.named "str"

/-- Adds a collection and then, with `fill`, its content. -/
def addCollection (properties : Properties) (start : Mark) (name : String)
    (fill : Building Content) : Building Nat := do
  let hollow := if name = "seq" then Content.sequence [] else .mapping []
  if depthLimit ≤ (← get).unfinished.length then throw .tooDeep
  let number ← addNode properties start (properties.collectionTag name) hollow
  modify fun state => { state with unfinished := number :: state.unfinished }
  let content ← fill
  modify fun state => { state with
    unfinished := state.unfinished.tail
    nodes := state.nodes.modify number ({ · with content }) }
  return number

/-- The node that an alias stands for. -/
def aliased (name : String) (mark : Mark) : Building Nat := do
  let state ← get
  match state.anchors.lookup name with
  | none => refuse (.undefinedAlias name) mark
  | some number => do
      if state.unfinished.contains number then set { state with cyclic := true }
      return number

/-- Which nodes may stand at a place. -/
inductive Place where
  | flow
  | block
  /-- A block sequence may stand here without being indented. -/
  | mappingItem
  deriving DecidableEq

mutual

/-- Reads a node. -/
def node (place : Place) (fuel : Nat) : Building Nat := do
  match fuel with
  | 0 => empty (← peek).mark
  | fuel + 1 =>
      let first ← peek
      if let .reference name := first.kind then
        let _ ← take
        return ← aliased name first.mark
      let properties ← properties
      let next ← peek
      let start := properties.mark.getD next.mark
      let collection := addCollection properties start
      match next.kind with
      | .scalar text plain => do
          let _ ← take
          checkAnchor properties start
          addNode properties start (properties.scalarTag text plain) (.scalar text)
      | .flowSequenceStart => do
          checkAnchor properties start
          let opening ← take
          collection "seq" (.sequence <$> flowItems opening.mark true fuel)
      | .flowMappingStart => do
          checkAnchor properties start
          let opening ← take
          collection "map" (.mapping <$> flowEntries opening.mark true fuel)
      | kind =>
          if kind = .blockEntry ∧ place = .mappingItem then
            checkAnchor properties start
            collection "seq" (.sequence <$> looseItems fuel)
          else if kind = .blockSequenceStart ∧ place ≠ .flow then
            checkAnchor properties start
            let opening ← take
            collection "seq" (.sequence <$> blockItems opening.mark fuel)
          else if kind = .blockMappingStart ∧ place ≠ .flow then
            checkAnchor properties start
            let opening ← take
            collection "map" (.mapping <$> blockEntries opening.mark fuel)
          else if properties.mark.isSome then
            checkAnchor properties start
            addNode properties start (properties.scalarTag "" true) (.scalar "")
          else
            let activity := if place = .flow then .flowNode else .blockNode
            refuse (.noContent kind.name) next.mark (some (activity, some start))
  termination_by structural fuel

/-- Reads a node behind a sign, or adds an empty one if one of the given tokens comes next. -/
def nodeUnless (ends : List Token.Kind) (place : Place) (sign : Token) (fuel : Nat) :
    Building Nat := do
  match fuel with
  | 0 => empty sign.mark
  | fuel + 1 =>
      if ends.contains (← peek).kind then empty sign.mark.behind else node place fuel
  termination_by structural fuel

/-- Reads a colon and the node behind it, or adds an empty node if no colon comes next. -/
def valueUnless (ends : List Token.Kind) (place : Place) (fuel : Nat) : Building Nat := do
  match fuel with
  | 0 => empty (← peek).mark
  | fuel + 1 =>
      let next ← peek
      if next.kind = .value then
        let colon ← take
        nodeUnless ends place colon fuel
      else empty next.mark
  termination_by structural fuel

/-- The items of a block sequence up to its end. -/
def blockItems (opening : Mark) (fuel : Nat) : Building (List Nat) := do
  match fuel with
  | 0 => return []
  | fuel + 1 =>
      let next ← take
      if next.kind = .blockEntry then
        let item ← nodeUnless [.blockEntry, .blockEnd] .block next fuel
        return item :: (← blockItems opening fuel)
      else if next.kind = .blockEnd then return []
      else refuse (.noBlockEnd next.kind.name) next.mark (some (.blockCollection, some opening))
  termination_by structural fuel

/-- The items of a block sequence that is not indented. -/
def looseItems (fuel : Nat) : Building (List Nat) := do
  match fuel with
  | 0 => return []
  | fuel + 1 =>
      if ← nextIs .blockEntry then
        let sign ← take
        let item ← nodeUnless [.blockEntry, .key, .value, .blockEnd] .block sign fuel
        return item :: (← looseItems fuel)
      else return []
  termination_by structural fuel

/-- The entries of a block mapping up to its end. -/
def blockEntries (opening : Mark) (fuel : Nat) : Building (List (Nat × Nat)) := do
  match fuel with
  | 0 => return []
  | fuel + 1 =>
      let next ← peek
      let ends := [.key, .value, .blockEnd]
      if next.kind = .key then
        let sign ← take
        let key ← nodeUnless ends .mappingItem sign fuel
        let value ← valueUnless ends .mappingItem fuel
        return (key, value) :: (← blockEntries opening fuel)
      else if next.kind = .blockEnd then
        let _ ← take
        return []
      else refuse (.noBlockEnd next.kind.name) next.mark (some (.blockMapping, some opening))
  termination_by structural fuel

/-- The items of a sequence in brackets up to its end. An item with a colon is a mapping. -/
def flowItems (opening : Mark) (isFirst : Bool) (fuel : Nat) : Building (List Nat) := do
  match fuel with
  | 0 => return []
  | fuel + 1 =>
      if ← nextIs .flowSequenceEnd then
        let _ ← take
        return []
      if !isFirst then
        let comma ← peek
        if comma.kind ≠ .flowEntry then
          refuse (.noSequenceEnd comma.kind.name) comma.mark (some (.flowSequence, some opening))
        let _ ← take
      let next ← peek
      if next.kind = .key then
        let item ← addCollection {} next.mark "map" do
          let sign ← take
          let ends := [.value, .flowEntry, .flowSequenceEnd]
          let key ← nodeUnless ends .flow sign fuel
          let value ← valueUnless [.flowEntry, .flowSequenceEnd] .flow fuel
          return .mapping [(key, value)]
        return item :: (← flowItems opening false fuel)
      else if next.kind = .flowSequenceEnd then
        let _ ← take
        return []
      else
        let item ← node .flow fuel
        return item :: (← flowItems opening false fuel)
  termination_by structural fuel

/-- The entries of a mapping in braces up to its end. -/
def flowEntries (opening : Mark) (isFirst : Bool) (fuel : Nat) :
    Building (List (Nat × Nat)) := do
  match fuel with
  | 0 => return []
  | fuel + 1 =>
      if ← nextIs .flowMappingEnd then
        let _ ← take
        return []
      if !isFirst then
        let comma ← peek
        if comma.kind ≠ .flowEntry then
          refuse (.noMappingEnd comma.kind.name) comma.mark (some (.flowMapping, some opening))
        let _ ← take
      let next ← peek
      if next.kind = .key then
        let sign ← take
        let ends := [.value, .flowEntry, .flowMappingEnd]
        let key ← nodeUnless ends .flow sign fuel
        let value ← valueUnless [.flowEntry, .flowMappingEnd] .flow fuel
        return (key, value) :: (← flowEntries opening false fuel)
      else if next.kind = .flowMappingEnd then
        let _ ← take
        return []
      else
        let key ← node .flow fuel
        let value ← empty (← peek).mark
        return (key, value) :: (← flowEntries opening false fuel)
  termination_by structural fuel

end

/-! ## Documents -/

/-- The handles that tags may use without a directive. -/
def defaultHandles : List (String × String) := [("!", "!"), ("!!", Tag.named "")]

/-- Reads the directives before a document. -/
def directives : Nat → Bool → Building Unit
  | 0, _ => return
  | fuel + 1, versionSeen => do
      let token ← peek
      match token.kind with
      | .directive (.version major _) => do
          let _ ← take
          if versionSeen then refuse .repeatedVersion token.mark
          if major ≠ 1 then refuse .incompatibleVersion token.mark
          directives fuel true
      | .directive (.tag handle address) => do
          let _ ← take
          let state ← get
          if (state.handles.lookup handle).isSome then
            refuse (.repeatedHandle handle) token.mark
          set { state with handles := (handle, address) :: state.handles }
          directives fuel versionSeen
      | .directive (.other _) => do
          let _ ← take
          directives fuel versionSeen
      | _ => return

def skipDocumentEnds : Nat → Building Unit
  | 0 => return
  | fuel + 1 => do
      if ← nextIs .documentEnd then
        let _ ← take
        skipDocumentEnds fuel

/-- Reads the directives and the marker before a document: where they begin, or `none` at the end
of the stream. -/
def documentStart (fuel : Nat) : Building (Option Mark) := do
  skipDocumentEnds fuel
  let first ← peek
  if first.kind = .streamEnd then return none
  modify ({ · with handles := [] })
  directives fuel false
  modify fun state => { state with handles := state.handles ++ defaultHandles }
  let marker ← peek
  if marker.kind ≠ .documentStart then
    refuse (.noDocumentStart marker.kind.name) marker.mark
  let _ ← take
  return some first.mark

/-- Reads the content of a document behind its marker. -/
def explicitContent (fuel : Nat) : Building Nat := do
  let next ← peek
  match next.kind with
  | .directive _ | .documentStart | .documentEnd | .streamEnd => empty next.mark
  | _ => node .block fuel

/-- Reads a stream with at most one document: its root. -/
def document (fuel : Nat) : Building (Option Nat) := do
  let _ ← take
  let next ← peek
  let root ← match next.kind with
    | .streamEnd => return none
    | .directive _ | .documentStart => do
        let _ ← documentStart fuel
        explicitContent fuel
    | _ => do
        modify ({ · with handles := defaultHandles })
        node .block fuel
  if ← nextIs .documentEnd then
    let _ ← take
  match ← documentStart fuel with
  | none => return some root
  | some mark =>
      let start := ((← get).nodes[root]?.getD default).mark
      refuse .anotherDocument mark (some (.singleDocument, some start))

end Building

/-- The nodes of the one document of a stream; `none` if there is none. -/
def Graph.ofTokens (stream : Token.Stream) : Except Failure (Option Graph) := do
  let (root, state) ← (Building.document (4 * stream.tokens.size + 8)).run { stream }
  return root.map fun root => ⟨state.nodes, root, state.cyclic⟩

end Rulebook.Yaml
