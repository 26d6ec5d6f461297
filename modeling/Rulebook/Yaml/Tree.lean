import Rulebook.Value

/-!
What documents are written from: texts, numbers, lists, and mappings with named entries.
-/

namespace Rulebook.Yaml

inductive Tree where
  | text (value : String)
  | number (value : Float)
  | list (items : List Tree)
  | map (entries : List (String × Tree))
  deriving Inhabited

namespace Tree

mutual

/-- The value that the written form of a tree reads as. -/
def toValue : Tree → Value
  | text value => .text value
  | number value => .float value
  | list items => .list none (itemValues items)
  | map entries => .map none (entryValues entries)

def itemValues : List Tree → List Value
  | [] => []
  | item :: rest => item.toValue :: itemValues rest

def entryValues : List (String × Tree) → List (Value × Value)
  | [] => []
  | (name, tree) :: rest => (.text name, tree.toValue) :: entryValues rest

end

end Tree

end Rulebook.Yaml
