import Rulebook.Document
import Rulebook.LoadError
import Rulebook.Source

/-!
Loading rules from sources and projects. A source that cannot be loaded is reported with the rules
of the others.
-/

namespace Rulebook

/-- An error that ends the loading of all sources. -/
inductive Breakdown where
  | badScalar (error : Yaml.ScalarError)
  | tooDeep
  | badField (error : Rule.ReadError)
  | file (error : FileError)
  | crashed (message : String)
  deriving DecidableEq, Repr

def Breakdown.message : Breakdown → String
  | badScalar error => error.message
  | tooDeep => Yaml.depthMessage
  | badField error => error.message
  | file error => error.message
  | crashed message => message

/-- Why one source is not loaded. -/
inductive SourceFailure where
  | reported (error : LoadError)
  | breakdown (cause : Breakdown)

structure LoadResult where
  rules : List Rule := []
  errors : List LoadError := []
  /-- The locations of sources whose cached documents were used although they were not fresh. -/
  staleSources : List String := []

/-- Something is missing or may be out of date. -/
def LoadResult.isDegraded (result : LoadResult) : Bool :=
  !result.errors.isEmpty || !result.staleSources.isEmpty

/-- What loading works with, within a state that holds the files and the cache. -/
structure Loader (σ : Type) where
  catalog : Catalog
  remote : Remote
  store : CacheStore σ
  files : σ → Files

namespace Loader

/-- Reads a document whose errors name its origin. -/
def parseDocument (text origin : String) : Except SourceFailure Document :=
  match Document.read text origin with
  | .ok document => .ok document
  | .error (.invalid problem) =>
      .error (.reported ⟨origin, .invalidDocument (problem.detail text)⟩)
  | .error (.badScalar error) => .error (.breakdown (.badScalar error))
  | .error .tooDeep => .error (.breakdown .tooDeep)
  | .error (.badField error) => .error (.breakdown (.badField error))

def readFile (files : Files) (path : Path) : Except SourceFailure Document :=
  match files.readText path with
  | .ok text => parseDocument text path.toText
  | .error error => .error (.reported ⟨path.toText, .unreadableFile error.message⟩)

/-- The document of a source, and whether it is a cached one that is not fresh. -/
def document (loader : Loader σ) (around : Surroundings) (noUpdate : Bool) (source : Source) :
    Running σ SourceFailure (Document × Bool) := do
  match source.localPath with
  | some path => do
      let document ← readFile (loader.files (← get).state) path
      return (document, false)
  | none => do
      let fetching := loader.remote.fetch loader.store around (!noUpdate) source.remotePath
      match ← Running.outcome fetching with
      | .ok fetched => return (← parseDocument fetched.content source.url, fetched.isStale)
      | .error (.failed error) => throw (.reported ⟨source.url, .failedFetch error⟩)
      | .error (.crashed message) => throw (.breakdown (.crashed message))

/-- Adds the rules of one source to a result, or its error. -/
def add (loader : Loader σ) (around : Surroundings) (noUpdate : Bool) (result : LoadResult)
    (source : Source) : Running σ Breakdown LoadResult := do
  match ← Running.outcome (loader.document around noUpdate source) with
  | .ok (document, stale) => return { result with
      rules := result.rules ++ document.rules
      staleSources := result.staleSources ++ if stale then [source.location] else [] }
  | .error (.reported error) => do
      Running.note .warning s!"Failed to load rules from {source.location}: {error.text}"
      return { result with errors := result.errors ++ [error] }
  | .error (.breakdown cause) => throw cause

/-- The rules for a language and a framework that do not depend on a project. -/
def base (loader : Loader σ) (around : Surroundings) (language : String)
    (framework : Option String) (noUpdate : Bool) : Running σ Breakdown LoadResult := do
  let files := loader.files (← get).state
  match Source.chain loader.catalog files language framework with
  | .error error => throw (.file error)
  | .ok sources => sources.foldlM (loader.add around noUpdate) {}

/-- Where a project keeps rules of its own. -/
def projectFile (project : Path) : Path := project / ".rulekit" / "rules" / "custom.yml"

/-- The rules of a project; it need not have any. -/
def project (loader : Loader σ) (path : Path) : Running σ Breakdown LoadResult := do
  let files := loader.files (← get).state
  let path := projectFile path
  match files.pathExists path with
  | .error error => throw (.file error)
  | .ok false => return {}
  | .ok true => match readFile files path with
      | .ok document => return { rules := document.rules }
      | .error (.reported error) => do
          Running.note .warning s!"Failed to load project rules from {path}: {error.text}"
          return { errors := [error] }
      | .error (.breakdown cause) => throw cause

end Loader

end Rulebook
