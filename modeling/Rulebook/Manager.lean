import Rulebook.Classification
import Rulebook.Loading
import Rulebook.Rule.Merge

/-!
Resolving rules: those of the sources, amended by those of a project and by those given with the
request. Results are kept by language, framework and project.
-/

namespace Rulebook

/-- What rules are asked for. -/
structure RuleQuery where
  project : Option Path := none
  language : Option String := none
  framework : Option String := none
  noUpdate : Bool := false
  overrides : List Rule := []

namespace RuleQuery

def languageOrGeneral (query : RuleQuery) : String :=
  match query.language with
  | none | some "" => generalLanguage
  | some language => language

/-- What the result of a query is kept by. -/
structure Key where
  language : String
  framework : String
  project : String
  deriving DecidableEq, Repr

def key (query : RuleQuery) : Key where
  language := query.languageOrGeneral
  framework := match query.framework with
    | none | some "" => "none"
    | some framework => framework
  project := match query.project with
    | none => ""
    | some path => path.toText

end RuleQuery

/-- The rules for a query. -/
structure Resolved where
  /-- How many results were made before this one. -/
  number : Nat
  rules : List Rule
  errors : List LoadError := []
  staleSources : List String := []

def Resolved.isDegraded (resolved : Resolved) : Bool :=
  !resolved.errors.isEmpty || !resolved.staleSources.isEmpty

/-- What is kept between queries. -/
structure Manager where
  results : List (RuleQuery.Key × Resolved) := []
  compiler : Compiler := {}
  /-- How many results have been made. -/
  made : Nat := 0

namespace Manager

/-- Finds the rules for a query without regard to earlier results. -/
def load (loader : Loader σ) (around : Surroundings) (query : RuleQuery) :
    Running σ Breakdown LoadResult := do
  let base ← loader.base around query.languageOrGeneral query.framework query.noUpdate
  let project ← match query.project with
    | none => pure {}
    | some path => loader.project path
  return {
    rules := Rule.merge base.rules project.rules query.overrides
    errors := base.errors ++ project.errors
    staleSources := base.staleSources ++ project.staleSources }

/-- The rules for a query. A result is made once for each key. -/
def resolve (loader : Loader σ) (around : Surroundings) (query : RuleQuery) (manager : Manager) :
    Running σ Breakdown (Resolved × Manager) := do
  match manager.results.lookup query.key with
  | some resolved => return (resolved, manager)
  | none => do
      let result ← load loader around query
      let resolved := ⟨manager.made, result.rules, result.errors, result.staleSources⟩
      return (resolved, { manager with
        results := (query.key, resolved) :: manager.results
        made := manager.made + 1 })

/-- Forgets results and compiled patterns. -/
def clear (manager : Manager) : Manager :=
  { manager with results := [], compiler := manager.compiler.clear }

end Manager

end Rulebook
