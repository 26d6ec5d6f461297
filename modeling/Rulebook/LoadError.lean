import Rulebook.Network

/-!
Why the rules of a source could not be loaded.
-/

namespace Rulebook

inductive LoadError.Cause where
  | invalidDocument (detail : String)
  | unreadableFile (detail : String)
  | failedFetch (error : FetchError)
  deriving DecidableEq, Repr

/-- An error of one source, which its location names. -/
structure LoadError where
  location : String
  cause : LoadError.Cause
  deriving DecidableEq, Repr

namespace LoadError

def message (error : LoadError) : String :=
  match error.cause with
  | .invalidDocument detail => s!"Invalid rule document ({detail})"
  | .unreadableFile detail => s!"Unreadable rule file ({detail})"
  | .failedFetch fetch => fetch.text

def text (error : LoadError) : String := error.message ++ ": " ++ error.location

end LoadError

end Rulebook
