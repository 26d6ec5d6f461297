import Rulebook.Manager
import Rulebook.Proofs.Path

namespace Rulebook

namespace RuleQuery

/-- The framework that a query asks for. -/
def framework? (query : RuleQuery) : Option String := query.framework.filter (· ≠ "")

/-- The project is a path that was read or joined. -/
def Proper (query : RuleQuery) : Prop := ∀ path ∈ query.project, path.Proper

/-- The names of sources and the file of a project. -/
@[ext]
structure Consulted where
  sources : List String
  project : Option Path
  deriving DecidableEq, Repr

/-- What a query is answered from. -/
def consulted (query : RuleQuery) : Consulted where
  sources := Source.chainNames query.languageOrGeneral query.framework
  project := query.project.map Loader.projectFile

/-- One of the queries asks for no framework, and the other for the one called "none". -/
def Confused (first second : RuleQuery) : Prop :=
  (first.framework? = none ∧ second.framework? = some "none") ∨
    (first.framework? = some "none" ∧ second.framework? = none)

variable {first second : RuleQuery}

theorem sources_eq (query : RuleQuery) :
    query.consulted.sources =
      (if query.languageOrGeneral = generalLanguage then [] else [generalLanguage]) ++
      [query.languageOrGeneral] ++
      (query.framework?.map fun framework => frameworksFolder ++ "/" ++ framework).toList := by
  simp only [consulted, Source.chainNames, framework?]
  cases query.framework with
  | none => rfl
  | some framework => by_cases blank : framework = "" <;> simp [Option.filter, blank]

theorem key_framework (query : RuleQuery) :
    query.key.framework = query.framework?.getD "none" := by
  simp only [key, framework?]
  cases query.framework with
  | none => rfl
  | some framework => by_cases blank : framework = "" <;> simp [Option.filter, blank]

theorem key_framework_eq_iff : first.key.framework = second.key.framework ↔
    first.framework? = second.framework? ∨ Confused first second := by
  rw [key_framework, key_framework, Confused]
  cases first.framework? with
  | none => cases second.framework? <;> simp [eq_comm]
  | some framework => cases second.framework? <;> simp

theorem toText_ne_empty (path : Path) : path.toText ≠ "" := by
  unfold Path.toText
  by_cases blank : path.root ++ "/".intercalate path.segments = "" <;> simp [blank]

theorem key_project_eq_iff (firstProper : first.Proper) (secondProper : second.Proper) :
    first.key.project = second.key.project ↔ first.project = second.project := by
  simp only [key]
  cases one : first.project with
  | none =>
      cases second.project with
      | none => simp
      | some path => simpa using (toText_ne_empty path).symm
  | some path =>
      cases two : second.project with
      | none => simpa using toText_ne_empty path
      | some other =>
          simp only [Option.some.injEq]
          exact ⟨Path.toText_injective (firstProper path one) (secondProper other two),
            congrArg Path.toText⟩

theorem key_eq_iff (firstProper : first.Proper) (secondProper : second.Proper) :
    first.key = second.key ↔ first.languageOrGeneral = second.languageOrGeneral ∧
      first.project = second.project ∧
      (first.framework? = second.framework? ∨ Confused first second) := by
  rw [← key_project_eq_iff firstProper secondProper, ← key_framework_eq_iff]
  constructor
  · intro same
    exact ⟨congrArg Key.language same, congrArg Key.project same, congrArg Key.framework same⟩
  · rintro ⟨language, project, framework⟩
    calc first.key
        = ⟨first.languageOrGeneral, first.key.framework, first.key.project⟩ := rfl
      _ = second.key := by rw [language, framework, project]; rfl

theorem sources_ne_of_confused (same : first.key = second.key) (confused : Confused first second) :
    first.consulted.sources ≠ second.consulted.sources := by
  have language : first.languageOrGeneral = second.languageOrGeneral := congrArg Key.language same
  intro consulted
  have lengths := congrArg List.length consulted
  simp only [sources_eq, language, List.length_append] at lengths
  rcases confused with ⟨one, two⟩ | ⟨one, two⟩ <;> simp [one, two] at lengths

/-- Of queries with one key, those that are not confused are answered from the same. -/
theorem consulted_eq_iff (firstProper : first.Proper) (secondProper : second.Proper)
    (same : first.key = second.key) :
    first.consulted = second.consulted ↔ ¬ Confused first second := by
  obtain ⟨language, project, framework⟩ := (key_eq_iff firstProper secondProper).mp same
  constructor
  · intro consulted confused
    exact sources_ne_of_confused same confused (congrArg Consulted.sources consulted)
  · intro distinct
    have sameFramework := framework.resolve_right distinct
    have sources : first.consulted.sources = second.consulted.sources := by
      rw [sources_eq, sources_eq, language, sameFramework]
    have file : first.consulted.project = second.consulted.project := by
      simp only [consulted, project]
    exact Consulted.ext sources file

end RuleQuery

namespace Manager

variable {σ : Type} {first second : RuleQuery}

/-- Queries that are answered from the same are answered the same, but for the overrides that they
come with and for whether updates are allowed. -/
theorem load_congr (loader : Loader σ) (around : Surroundings)
    (consulted : first.consulted = second.consulted) (noUpdate : first.noUpdate = second.noUpdate)
    (overrides : first.overrides = second.overrides) :
    load loader around first = load loader around second := by
  have sources := congrArg RuleQuery.Consulted.sources consulted
  have project := congrArg RuleQuery.Consulted.project consulted
  simp only [RuleQuery.consulted] at sources project
  simp only [load, Loader.base, Source.chain, sources, noUpdate, overrides]
  cases one : first.project with
  | none =>
      cases two : second.project with
      | none => rfl
      | some path => simp [one, two] at project
  | some path =>
      cases two : second.project with
      | none => simp [one, two] at project
      | some other =>
          have file : Loader.projectFile path = Loader.projectFile other := by
            simpa [one, two] using project
          simp only [Loader.project, file]

end Manager

end Rulebook
