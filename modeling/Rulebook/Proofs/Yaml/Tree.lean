import Rulebook.Yaml.Printer
import Rulebook.Yaml.Reading

namespace Rulebook.Yaml

namespace Tree

@[simp] theorem itemValues_eq_map (items : List Tree) : itemValues items = items.map toValue := by
  induction items with
  | nil => rfl
  | cons item rest ih => simp only [itemValues, ih, List.map_cons]

@[simp] theorem toValue_text (value : String) : (text value).toValue = .text value := rfl

@[simp] theorem toValue_number (value : Float) : (number value).toValue = .float value := rfl

@[simp] theorem toValue_list (items : List Tree) :
    (list items).toValue = .list none (items.map toValue) := by
  simp only [toValue, itemValues_eq_map]

theorem toValue_get? (entries : List (String × Tree)) (name : String) :
    (map entries).toValue.get? name = (entries.lookup name).map toValue := by
  simp only [toValue, Value.get?]
  induction entries with
  | nil => rfl
  | cons entry rest ih =>
      obtain ⟨key, tree⟩ := entry
      simp only [entryValues, List.find?_cons, List.lookup_cons]
      by_cases here : key = name
      · simp [here]
      · have passed : (name == key) = false := beq_eq_false_iff_ne.mpr (Ne.symm here)
        have skipped : (key == name) = false := beq_eq_false_iff_ne.mpr here
        simpa [skipped, passed] using ih

mutual

/-- The value is that of the tree. -/
def isValue : Tree → Value → Bool
  | text written, .text read => written = read
  | number written, .float read => written = read
  | list items, .list none values => areValues items values
  | map entries, .map none values => areEntries entries values
  | _, _ => false

def areValues : List Tree → List Value → Bool
  | [], [] => true
  | item :: rest, value :: values => item.isValue value && areValues rest values
  | _, _ => false

def areEntries : List (String × Tree) → List (Value × Value) → Bool
  | [], [] => true
  | (name, tree) :: rest, (.text key, value) :: values =>
      name = key && tree.isValue value && areEntries rest values
  | _, _ => false

end

mutual

theorem eq_toValue_of_isValue (tree : Tree) (value : Value) (same : tree.isValue value) :
    value = tree.toValue := by
  cases tree with
  | text written => cases value <;> simp_all [isValue]
  | number written => cases value <;> simp_all [isValue]
  | list items =>
      match value, same with
      | .list none values, same =>
          rw [toValue, eq_itemValues_of_areValues items values (by simpa [isValue] using same)]
  | map entries =>
      match value, same with
      | .map none values, same =>
          rw [toValue, eq_entryValues_of_areEntries entries values (by simpa [isValue] using same)]

theorem eq_itemValues_of_areValues (items : List Tree) (values : List Value)
    (same : areValues items values) : values = itemValues items := by
  match items, values, same with
  | [], [], _ => rfl
  | item :: rest, value :: values, same =>
      simp only [areValues, Bool.and_eq_true] at same
      rw [itemValues, ← eq_toValue_of_isValue item value same.1,
        ← eq_itemValues_of_areValues rest values same.2]

theorem eq_entryValues_of_areEntries (entries : List (String × Tree))
    (values : List (Value × Value)) (same : areEntries entries values) :
    values = entryValues entries := by
  match entries, values, same with
  | [], [], _ => rfl
  | (name, tree) :: rest, (.text key, value) :: values, same =>
      simp only [areEntries, Bool.and_eq_true, decide_eq_true_eq] at same
      obtain ⟨⟨rfl, own⟩, others⟩ := same
      rw [entryValues, ← eq_toValue_of_isValue tree value own,
        ← eq_entryValues_of_areEntries rest values others]

end

end Tree

theorem read_of_isValue {text : String} {tree : Tree}
    (same : (match read text with
      | .ok value => tree.isValue value
      | .error _ => false) = true) : read text = .ok tree.toValue := by
  cases found : read text with
  | error failure => simp [found] at same
  | ok value =>
      simp only [found] at same
      rw [Tree.eq_toValue_of_isValue _ value same]

/-- Reading undoes the writing of the entries. -/
def Restores (entries : List (String × Tree)) : Prop :=
  read (write entries) = .ok (Tree.map entries).toValue

theorem restores_of_isValue {entries : List (String × Tree)}
    (same : (match read (write entries) with
      | .ok value => (Tree.map entries).isValue value
      | .error _ => false) = true) : Restores entries :=
  read_of_isValue same

end Rulebook.Yaml
