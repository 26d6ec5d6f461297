import Rulebook.Rule.Basic

/-!
Rule lists of three tiers merged by id, and the rules that apply to a framework.

A merged list has each id once, where it first occurred. Rules of the base tier replace one
another; those of the project and runtime tiers overlay what is there.
-/

namespace Rulebook.Rule

/-- Stores a rule under its id: combined with the held rule of that id where that stands, or else
at the end. -/
def place (combine : Rule → Rule → Rule) (rule : Rule) : List Rule → List Rule
  | [] => [rule]
  | held :: rest =>
      if held.id = rule.id then combine held rule :: rest else held :: place combine rule rest

/-- Merges the tiers; later tiers amend the fields that they set, and no rule is removed. -/
def merge (base project runtime : List Rule) : List Rule :=
  let seeded := base.foldl (fun held rule => place (fun _ new => new) rule held) []
  (project ++ runtime).foldl (fun held rule => place overlay rule held) seeded

/-- Whether the rule applies to a project with the framework, if it has one. -/
def appliesTo (framework : Option String) (rule : Rule) : Bool :=
  match rule.frameworks, framework with
  | none, _ => true
  | some names, some name => name != "" && names.contains name
  | some _, none => false

def filterByFramework (rules : List Rule) (framework : Option String) : List Rule :=
  rules.filter (appliesTo framework)

end Rulebook.Rule
