import Rulebook.Yaml.Graph
import Rulebook.Yaml.Scalar

/-!
The value of a document. The nodes of a collection get their values in the order in which they are
written, and collections in the order in which they are found, outer ones first; so of several
nodes without a value the first in that order decides the error.
-/

namespace Rulebook.Yaml

/-- The value of a node whose parts are given by number. -/
inductive Cell where
  | plain (value : Value)
  /-- A collection whose content has not been looked at yet. -/
  | pending
  | list (items : List Nat)
  | pairs (items : List (Nat × Nat))
  | set (items : List Value)
  | map (entries : List (Value × Nat))
  deriving Inhabited

/-- Values under construction. -/
structure Valuation where
  nodes : Array Node
  cells : Array (Option Cell)
  /-- Collections whose content is still to be looked at. -/
  queue : List Nat := []

abbrev Valuing := StateT Valuation (Except Failure)

namespace Valuing

def refuse (problem : Problem) (mark : Mark)
    (activity : Option (Activity × Option Mark) := none) : Valuing α :=
  throw (.malformed (.located activity problem mark))

def scalar (result : Except ScalarError α) : Valuing α :=
  match result with
  | .ok value => return value
  | .error error => throw (.badScalar error)

def nodeAt (number : Nat) : Valuing Node := return (← get).nodes[number]?.getD default

def entriesOf (number : Nat) : Valuing (List (Nat × Nat)) := do
  match (← nodeAt number).content with
  | .mapping entries => return entries
  | _ => return []

def setEntries (number : Nat) (entries : List (Nat × Nat)) : Valuing Unit :=
  modify fun state => { state with
    nodes := state.nodes.modify number ({ · with content := .mapping entries }) }

def setTag (number : Nat) (tag : String) : Valuing Unit :=
  modify fun state => { state with nodes := state.nodes.modify number ({ · with tag }) }

def setCell (number : Nat) (cell : Cell) : Valuing Unit :=
  modify fun state => { state with cells := state.cells.setIfInBounds number (some cell) }

/-! ## Scalars -/

/-- The text of a scalar, or of the value at the default key of a mapping. -/
def textOf : Nat → Nat → Valuing String
  | 0, _ => return ""
  | fuel + 1, number => do
      let node ← nodeAt number
      let nodes := (← get).nodes
      let isDefault := fun (entry : Nat × Nat) =>
        (nodes[entry.1]?.getD default).tag = Tag.named "value"
      match node.content with
      | .scalar text => return text
      | .mapping entries => match entries.find? isDefault with
          | some (_, value) => textOf fuel value
          | none => refuse (.wrongShape .scalar .mapping) node.mark
      | .sequence _ => refuse (.wrongShape .scalar .sequence) node.mark

/-- The value of a node by its tag; the content of collections is left for later. -/
def cellFor (number : Nat) (node : Node) : Valuing Cell := do
  let text := textOf ((← get).nodes.size + 1) number
  let tag := node.tag
  if tag = Tag.named "str" then return .plain (.text (← text))
  else if tag = Tag.named "null" then
    let _ ← text
    return .plain .null
  else if tag = Tag.named "bool" then return .plain (.bool (← scalar (Scalar.bool (← text))))
  else if tag = Tag.named "int" then return .plain (.int (← scalar (Scalar.int (← text))))
  else if tag = Tag.named "float" then return .plain (.float (← scalar (Scalar.float (← text))))
  else if tag = Tag.named "timestamp" then
    let text ← text
    if node.content.shape ≠ .scalar then throw (.badScalar .momentOfMapping)
    return .plain (← scalar (Scalar.moment text))
  else if tag = Tag.named "binary" then
    match Scalar.bytes (← text) with
    | .ok bytes => return .plain (.bytes bytes)
    | .error problem => refuse problem node.mark
  else if ["seq", "map", "set", "omap", "pairs"].any fun name => tag = Tag.named name then
    modify fun state => { state with queue := state.queue ++ [number] }
    return .pending
  else refuse (.unknownTag tag) node.mark

/-- The value of a node, found once. -/
def cellAt (number : Nat) : Valuing Cell := do
  match (← get).cells[number]? with
  | some (some cell) => return cell
  | _ => do
      let cell ← cellFor number (← nodeAt number)
      setCell number cell
      return cell

/-! ## Merge keys -/

mutual

/-- Replaces merge keys of a mapping, from the entry at `index` on, by the entries of the mappings
they name, which come before its own. `merged` holds those found so far. A default key counts as a
text. -/
def flattenFrom (fuel number index : Nat) (merged : List (Nat × Nat)) : Valuing Unit := do
  match fuel with
  | 0 => return
  | fuel + 1 =>
      let entries ← entriesOf number
      match entries[index]? with
      | none => if merged ≠ [] then setEntries number (merged ++ entries)
      | some (key, value) => do
          let tag := (← nodeAt key).tag
          if tag = Tag.named "merge" then
            setEntries number (entries.eraseIdx index)
            let source ← nodeAt value
            match source.content with
            | .mapping _ => do
                flattenFrom fuel value 0 []
                flattenFrom fuel number index (merged ++ (← entriesOf value))
            | .sequence items => do
                let found ← flattenItems fuel number items
                flattenFrom fuel number index (merged ++ found.reverse.flatten)
            | .scalar _ =>
                refuse (.nothingToMerge .scalar) source.mark
                  (some (.mappingValue, some (← nodeAt number).mark))
          else
            if tag = Tag.named "value" then setTag key (Tag.named "str")
            flattenFrom fuel number (index + 1) merged
  termination_by structural fuel

/-- The entries of each of the mappings that a merge key of a mapping names. -/
def flattenItems (fuel number : Nat) (items : List Nat) : Valuing (List (List (Nat × Nat))) := do
  match fuel, items with
  | fuel + 1, item :: rest =>
      let source ← nodeAt item
      if source.content.shape ≠ .mapping then
        refuse (.noMappingToMerge source.content.shape) source.mark
          (some (.mappingValue, some (← nodeAt number).mark))
      flattenFrom fuel item 0 []
      let entries ← entriesOf item
      return entries :: (← flattenItems fuel number rest)
  | _, _ => return []
  termination_by structural fuel

end

/-! ## Collections -/

/-- Stores an entry; an equal key keeps its place and its form. -/
def store (entries : List (Value × Nat)) (key : Value) (value : Nat) : List (Value × Nat) :=
  if entries.any (·.1.key == key.key) then
    entries.map fun entry => if entry.1.key == key.key then (entry.1, value) else entry
  else entries ++ [(key, value)]

/-- The entries of a mapping, after its merge keys have been replaced. -/
def mappingEntries (number : Nat) : Valuing (List (Value × Nat)) := do
  let node ← nodeAt number
  if node.content.shape ≠ .mapping then
    refuse (.wrongShape .mapping node.content.shape) node.mark
  let size := (← get).nodes.size
  flattenFrom ((size + 2) * (size + 2)) number 0 []
  let mut entries := []
  for (keyNumber, valueNumber) in ← entriesOf number do
    match ← cellAt keyNumber with
    | .plain key => do
        let _ ← cellAt valueNumber
        entries := store entries key valueNumber
    | _ => refuse .unhashableKey (← nodeAt keyNumber).mark (some (.mappingValue, some node.mark))
  return entries

/-- The entries of a sequence of mappings with one entry each. -/
def pairsOf (activity : Activity) (node : Node) : Valuing (List (Nat × Nat)) := do
  let place := some (activity, some node.mark)
  match node.content with
  | .sequence items => items.mapM fun item => do
      let inner ← nodeAt item
      match inner.content with
      | .mapping [(key, value)] => do
          let _ ← cellAt key
          let _ ← cellAt value
          return (key, value)
      | .mapping entries => refuse (.severalEntries entries.length) inner.mark place
      | content => refuse (.noSingleEntry content.shape) inner.mark place
  | content => refuse (.noSequence content.shape) node.mark place

/-- The content of a collection. -/
def content (number : Nat) : Valuing Cell := do
  let node ← nodeAt number
  if node.tag = Tag.named "seq" then
    match node.content with
    | .sequence items => do
        for item in items do
          let _ ← cellAt item
        return .list items
    | content => refuse (.wrongShape .sequence content.shape) node.mark
  else if node.tag = Tag.named "map" then return .map (← mappingEntries number)
  else if node.tag = Tag.named "set" then
    return .set ((← mappingEntries number).map (·.1))
  else if node.tag = Tag.named "omap" then return .pairs (← pairsOf .orderedMapValue node)
  else return .pairs (← pairsOf .pairsValue node)

/-- Looks at the content of collections until none is left. -/
def complete : Nat → Valuing Unit
  | 0 => return
  | fuel + 1 => do
      match (← get).queue with
      | [] => return
      | number :: rest => do
          modify ({ · with queue := rest })
          setCell number (← content number)
          complete fuel

end Valuing

/-- How deep a value may be looked into before it is written out. -/
def inspectedDepth : Nat := 4

/-- Puts together the value of a node. Within a graph with cycles each collection is marked as a
loop, and left out where it stands inside itself, not counting the outermost levels. `path` holds
the collections around the node below those levels. Without cycles each value is made once. -/
def assemble (cells : Array (Option Cell)) (cyclic : Bool) :
    Nat → Nat → List Nat → Nat → StateM (Array (Option Value)) Value
  | 0, _, _, _ => return .null
  | fuel + 1, depth, path, number => do
      if let some (some value) := (← get)[number]? then return value
      let loop := if cyclic then some number else none
      let inside := if depth < inspectedDepth then path else number :: path
      let part := assemble cells cyclic fuel (depth + 1) inside
      let cut := path.contains number
      let value ← match (cells[number]?.getD none).getD .pending with
        | .plain value => pure value
        | .pending => pure .null
        | .list items => do pure (.list loop (← if cut then pure [] else items.mapM part))
        | .pairs items => do
            let pairs ← if cut then pure [] else items.mapM fun (key, value) => do
              let first ← part key
              let second ← part value
              pure (Value.pair first second)
            pure (.list loop pairs)
        | .set items => pure (.set items)
        | .map entries => do
            let found ← if cut then pure [] else entries.mapM fun (key, value) => do
              let item ← part value
              pure (key, item)
            pure (.map loop found)
      if !cyclic then modify (·.setIfInBounds number (some value))
      return value

/-- The value of a document's nodes. -/
def Graph.value (graph : Graph) : Except Failure Value := do
  let size := graph.nodes.size
  let start : Valuation := { nodes := graph.nodes, cells := Array.replicate size none }
  let ((), final) ← (do
    let _ ← Valuing.cellAt graph.root
    Valuing.complete (size + 1) : Valuing Unit).run start
  let known := Array.replicate size none
  let depth := size + inspectedDepth + 2
  let (value, _) := (assemble final.cells graph.cyclic depth 0 [] graph.root).run known
  return value

/-- The value of a text with at most one document; none is null. -/
def read (text : String) : Except Failure Value := do
  let chars := text.toList
  let before := (chars.takeWhile isAcceptable).length
  match chars.drop before with
  | found :: _ => throw (.malformed (.unacceptable found before))
  | [] =>
      match ← Graph.ofTokens (Token.Stream.ofText text) with
      | none => return .null
      | some graph => graph.value

end Rulebook.Yaml
