import Rulebook.Text.Blank

/-!
Slash-separated paths, as names: what a path denotes is a matter of the file system. Segments that
are empty or a single dot do not count; two dots stay.
-/

namespace Rulebook

/-- A path: its root, which is empty for a relative path, and its segments. Exactly two slashes at
the front are a root of their own. -/
structure Path where
  root : String
  segments : List String
  deriving DecidableEq, Repr, Inhabited

namespace Path

def isSegment (segment : List Char) : Bool := segment ≠ [] && segment ≠ ['.']

def parse (text : String) : Path :=
  let slashes := (text.toList.takeWhile (· == '/')).length
  let root := if slashes = 0 then "" else if slashes = 2 then "//" else "/"
  ⟨root, ((Text.splitAt '/' text.toList).filter isSegment).map String.ofList⟩

def toText (path : Path) : String :=
  let text := path.root ++ "/".intercalate path.segments
  if text = "" then "." else text

instance : ToString Path := ⟨toText⟩

def isAbsolute (path : Path) : Bool := path.root != ""

/-- The second path as seen from the first; an absolute one replaces it. -/
def join (base path : Path) : Path :=
  if path.isAbsolute then path else ⟨base.root, base.segments ++ path.segments⟩

instance : HDiv Path String Path := ⟨fun base text => base.join (parse text)⟩

def parent (path : Path) : Path := ⟨path.root, path.segments.dropLast⟩

/-- A file name without its last ending. A dot at either end of the name starts no ending. -/
def stem (name : String) : String :=
  let chars := name.toList
  let ending := (chars.reverse.takeWhile (· ≠ '.')).length
  let dot := chars.length - ending - 1
  if ending < chars.length ∧ 0 < dot ∧ 0 < ending then String.ofList (chars.take dot) else name

/-- Where the home directories are: that of the current user, and those of other users by name. -/
structure Homes where
  own : String
  users : List (String × String) := []

/-- The path with a tilde at its front, alone or before a user's name, replaced by that home
directory; `none` if the home directory is unknown. -/
def expandHome (homes : Homes) (path : Path) : Option Path :=
  match path.segments with
  | first :: rest =>
      if path.isAbsolute then some path
      else match first.toList with
        | '~' :: user =>
            let home := if user = [] then some homes.own else
              homes.users.lookup (String.ofList user)
            match home with
            | none => none
            | some home =>
                let trimmed := String.ofList (Text.trimEnd (· == '/') home.toList)
                let home := if trimmed = "" then "/" else trimmed
                if home.startsWith "~" then none
                else
                  let base := parse home
                  some ⟨base.root, base.segments ++ rest⟩
        | _ => some path
  | [] => some path

/-- The own home directory. -/
def home (homes : Homes) : Option Path := expandHome homes ⟨"", ["~"]⟩

/-- What is told when a home directory is unknown. -/
def unknownHomeMessage : String := "Could not determine home directory."

end Path

end Rulebook
