import Rulebook.Json
import Rulebook.Run
import Rulebook.Version

/-!
Asking for the newest published version of the rules. What goes wrong counts as no newer
version, unless it breaks the check off.
-/

namespace Rulebook

/-- Where published versions are listed. -/
structure VersionList where
  url : String
  timeout : Decimal.Amount

structure UpdateCheck where
  hasUpdate : Bool
  newVersion : Option String
  deriving DecidableEq, Repr

namespace UpdateCheck

/-- How a check breaks off. -/
inductive Failure where
  | crashed (message : String)
  | tooDeep (isObject : Bool)
  deriving DecidableEq, Repr

def Failure.message : Failure → String
  | crashed message => message
  | tooDeep isObject => (Json.Error.tooDeep isObject).message ""

/-- The name of the first item of a list of versions, less a letter `v` before it. -/
def newestName? (versions : Value) : Option String :=
  match versions with
  | .list _ (first :: _) => match first.get? "name" with
      | some (.text name) =>
          if name = "" then none
          else if name.startsWith "v" then some (String.ofList (name.toList.drop 1))
          else some name
      | _ => none
  | _ => none

/-- The newest published version. -/
def newest? (list : VersionList) (network : Network) :
    Running σ Failure (Option String) := do
  let unavailable := fun (reason : String) =>
    Running.note .debug s!"Latest rules version unavailable: {reason}"
  match ← Running.download network list.timeout list.url with
  | .error (.failed error) => do
      unavailable error.text
      return none
  | .error (.crashed message) => throw (.crashed message)
  | .ok text => match Json.read text with
      | .error (.tooDeep isObject) => throw (.tooDeep isObject)
      | .error error => do
          unavailable (error.message text)
          return none
      | .ok versions => return newestName? versions

/-- Compares the newest published version with the current one. -/
def run (list : VersionList) (network : Network) (current : String) :
    Running σ Failure UpdateCheck := do
  match ← newest? list network with
  | none => return ⟨false, none⟩
  | some version => return ⟨Version.isNewer version current, some version⟩

end UpdateCheck

end Rulebook
