import Rulebook.Cache.Database
import Rulebook.Text.CodePoint

/-!
The database for keys and documents that are any texts of code points. They are encoded once it is
open, and a surrogate in them is an error that the store does not expect. A downloaded text has no
surrogates, and the names of languages and frameworks are taken to have none, so that the program
itself does with strings. That a row has a billion bytes at most is left out.
-/

namespace Rulebook

structure CodedKey where
  topic : CodeText
  version : CodeText := .ofString "latest"
  framework : CodeText := []
  deriving DecidableEq, Repr

structure CodedEntry where
  content : CodeText
  fetchedAt : Float

namespace CodedKey

def ofKey (key : CacheKey) : CodedKey :=
  ⟨.ofString key.topic, .ofString key.version, .ofString key.framework⟩

def encode (key : CodedKey) : Except EncodeError CacheKey := do
  return ⟨← key.topic.encode, ← key.version.encode, ← key.framework.encode⟩

end CodedKey

namespace CodedEntry

def ofEntry (entry : CacheEntry) : CodedEntry := ⟨.ofString entry.content, entry.fetchedAt⟩

def encode (entry : CodedEntry) : Except EncodeError CacheEntry := do
  return ⟨← entry.content.encode, entry.fetchedAt⟩

end CodedEntry

/-- Why an operation on a store fails. -/
inductive CacheFailure where
  | unavailable (error : StoreError)
  /-- What was given cannot be encoded. The store does not expect that. -/
  | unencodable (error : EncodeError)
  deriving DecidableEq, Repr

def CacheFailure.message : CacheFailure → String
  | unavailable error => error.text
  | unencodable error => error.message

namespace CacheStore

/-- Runs an operation of the database at a path on what it is given. The database is opened also for
what cannot be encoded. -/
def onEncoded {α β : Type} (path : Path) (given : Except EncodeError α)
    (operation : α → Disk → Except StoreError β × Disk) (disk : Disk) :
    Except CacheFailure β × Disk :=
  match given with
  | .ok given =>
      let (result, disk) := operation given disk
      (result.mapError .unavailable, disk)
  | .error error =>
      match disk.withTable path fun rows => .ok ((), rows) with
      | (.ok (), disk) => (.error (.unencodable error), disk)
      | (.error problem, disk) => (.error (.unavailable problem), disk)

/-- Keeps documents in the database at a path. -/
def codedDatabase (path : Path) : CacheStore Disk CodedKey CodedEntry CacheFailure where
  get key disk :=
    let (found, disk) := onEncoded path key.encode (database path).get disk
    (found.map (·.map .ofEntry), disk)
  upsert key entry :=
    onEncoded path (do return (← key.encode, ← entry.encode)) fun (key, entry) =>
      (database path).upsert key entry

end CacheStore

end Rulebook
