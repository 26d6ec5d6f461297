import Rulebook.Cache.Table
import Rulebook.Text.Quoted
import Rulebook.Text.Utf8

/-!
A tree of files and directories, and what paths denote in it. A path is followed segment by segment:
each one but the last has to name a directory, also before two dots. Of links there are only those
that lead back to themselves; what other links lead to counts as being where they are. Who may read
or write what, and how large a file can be, is left out.
-/

namespace Rulebook

inductive FileEntry where
  | file (content : List UInt8)
  /-- A database, which may lack the table of cached documents. -/
  | database (table : Option CacheTable)
  | directory
  /-- A link that leads back to itself. -/
  | loop
  deriving Inhabited

inductive FileProblem where
  | missing
  | exists
  | notDirectory
  | isDirectory
  | nameTooLong
  | endlessLinks
  deriving DecidableEq, Repr

/-- A problem with a path. -/
structure FileError where
  problem : FileProblem
  path : Path
  deriving DecidableEq, Repr

def FileProblem.message : FileProblem → String
  | missing => "[Errno 2] No such file or directory"
  | .exists => "[Errno 17] File exists"
  | notDirectory => "[Errno 20] Not a directory"
  | isDirectory => "[Errno 21] Is a directory"
  | nameTooLong => "[Errno 36] File name too long"
  | endlessLinks => "[Errno 40] Too many levels of symbolic links"

def FileError.message (error : FileError) : String :=
  error.problem.message ++ ": " ++ Text.quoted error.path.toText

/-- What there is, by the names that lead to it from the root. The root itself is a directory. -/
structure Files where
  entries : List (List String × FileEntry) := []
  /-- Where relative paths start. The directory there may have been removed. -/
  current : List String := []

namespace Files

def entryAt (files : Files) (place : List String) : Option FileEntry :=
  if place = [] then some .directory else files.entries.lookup place

/-- Names have at most 255 bytes. -/
def isTooLong (name : String) : Bool := 255 < name.utf8ByteSize

/-- Follows segments from a place: the place they lead to, and what is there. Only the last name
may be missing. -/
def follow (files : Files) (place : List String) :
    List String → Except FileProblem (List String × Option FileEntry)
  | [] => .ok (place, files.entryAt place)
  | segment :: rest =>
      match files.entryAt place with
      | none => .error .missing
      | some .directory =>
          if segment = ".." then follow files place.dropLast rest
          else if isTooLong segment then .error .nameTooLong
          else follow files (place ++ [segment]) rest
      | some .loop => .error .endlessLinks
      | some _ => .error .notDirectory

/-- Where the path starts. -/
def start (files : Files) (path : Path) : List String :=
  if path.isAbsolute then [] else files.current

/-- The place that a path leads to, and what is there, which may be a link. -/
def locate (files : Files) (path : Path) :
    Except FileProblem (List String × Option FileEntry) :=
  files.follow (files.start path) path.segments

/-- What a path denotes. -/
def status (files : Files) (path : Path) : Except FileProblem FileEntry := do
  match ← files.locate path with
  | (_, some .loop) => throw .endlessLinks
  | (_, some entry) => return entry
  | (_, none) => throw .missing

/-- What a path denotes, if anything; only a name that is too long is an error. -/
def status? (files : Files) (path : Path) : Except FileError (Option FileEntry) :=
  if path.segments.any fun segment => segment.toList.contains '\x00' then .ok none
  else match files.status path with
    | .ok entry => .ok (some entry)
    | .error .nameTooLong => .error ⟨.nameTooLong, path⟩
    | .error _ => .ok none

def isFile (files : Files) (path : Path) : Except FileError Bool := do
  return match ← files.status? path with
    | some (.file _) | some (.database _) => true
    | _ => false

def isDirectory (files : Files) (path : Path) : Except FileError Bool := do
  return match ← files.status? path with
    | some .directory => true
    | _ => false

def pathExists (files : Files) (path : Path) : Except FileError Bool := do
  return (← files.status? path).isSome

/-- The place that a segment names as seen from another. -/
def step (place : List String) (segment : String) : List String :=
  if segment = ".." then place.dropLast else place ++ [segment]

/-- The place that segments name; what stands before two dots need not be there. -/
def landing (start segments : List String) : List String := segments.foldl step start

/-- The path of the place that a path names. -/
def named (files : Files) (path : Path) : Path :=
  ⟨"/", landing (files.start path) path.segments⟩

/-- Why a path has no absolute form. -/
inductive ResolveError where
  /-- The directory where relative paths start is not there. -/
  | lostStart
  | endlessLinks (path : Path)
  deriving DecidableEq, Repr

def ResolveError.message : ResolveError → String
  | lostStart => FileProblem.missing.message
  | endlessLinks path => "Symlink loop from " ++ Text.quoted path.toText

/-- The absolute form of a path, which names its place without two dots. There need not be anything
at the place or on the way to it, but neither may be a link that leads back to itself. -/
def absolute (files : Files) (path : Path) : Except ResolveError Path :=
  match files.entryAt (files.start path) with
  | some .directory =>
      let path := files.named path
      match files.status path with
      | .error .endlessLinks => .error (.endlessLinks path)
      | _ => .ok path
  | _ => .error .lostStart

/-- Whether a text is the path of a file. A text that ends in a slash is one of a directory. -/
def isFileText (files : Files) (text : String) : Bool :=
  let ending := (Text.splitAt '/' text.toList).getLast?.getD []
  match files.status (Path.parse text) with
  | .ok .directory | .error _ => false
  | .ok _ => Path.isSegment ending

/-- The bytes of a file. -/
def read (files : Files) (path : Path) : Except FileError (List UInt8) :=
  match files.status path with
  | .ok (.file content) => .ok content
  | .ok (.database _) => .ok "SQLite format 3\x00".toUTF8.toList
  | .ok .directory => .error ⟨.isDirectory, path⟩
  | .ok .loop => .error ⟨.endlessLinks, path⟩
  | .error problem => .error ⟨problem, path⟩

/-- Puts something at a place, whose directories have to be there. -/
def put (files : Files) (place : List String) (entry : FileEntry) : Files :=
  { files with entries := (place, entry) :: files.entries.filter (·.1 != place) }

/-- Removes what is at a place, with all that is inside. -/
def remove (files : Files) (place : List String) : Files :=
  { files with entries := files.entries.filter fun entry => !place.isPrefixOf entry.1 }

/-- Makes a directory. The one where paths start cannot be made by its path. -/
def makeDirectory (files : Files) (path : Path) : Except FileProblem Files := do
  match ← files.locate path with
  | (place, none) =>
      if path.segments = [] then throw .missing else return files.put place .directory
  | (_, some _) => throw .exists

/-- Makes a directory unless there is one, and before it those that it needs; `levels` of them at
most. Those made before an error stay. -/
def makeDirectories : Nat → Files → Path → Except FileError Unit × Files
  | 0, files, path => (.error ⟨.missing, path⟩, files)
  | levels + 1, files, path =>
      match files.makeDirectory path with
      | .ok files => (.ok (), files)
      | .error .missing =>
          if path.segments = [] then (.error ⟨.missing, path⟩, files)
          else match makeDirectories levels files path.parent with
            | (.error error, files) => (.error error, files)
            | (.ok (), files) =>
                match files.makeDirectory path with
                | .ok files => (.ok (), files)
                | .error problem => (keepDirectory files problem path, files)
      | .error problem => (keepDirectory files problem path, files)
where
  /-- That a directory is there already is no error. -/
  keepDirectory (files : Files) (problem : FileProblem) (path : Path) : Except FileError Unit :=
    match files.isDirectory path with
    | .ok true => .ok ()
    | _ => .error ⟨problem, path⟩

/-- Makes a directory with all that it needs, unless it is there. -/
def ensureDirectory (files : Files) (path : Path) : Except FileError Unit × Files :=
  makeDirectories (path.segments.length + 1) files path

/-- Why the text of a file cannot be read. -/
inductive TextError where
  | file (error : FileError)
  | encoding (error : Text.Utf8Error)
  deriving DecidableEq, Repr

def TextError.message : TextError → String
  | file error => error.message
  | encoding error => error.message

/-- Line breaks of all three kinds as line feeds. -/
def withLineFeeds : List Char → List Char
  | '\r' :: '\n' :: rest => '\n' :: withLineFeeds rest
  | '\r' :: rest => '\n' :: withLineFeeds rest
  | c :: rest => c :: withLineFeeds rest
  | [] => []

/-- The text of a file. -/
def readText (files : Files) (path : Path) : Except TextError String :=
  match files.read path with
  | .error error => .error (.file error)
  | .ok bytes => match Text.utf8Decode bytes with
    | .error error => .error (.encoding error)
    | .ok chars => .ok (String.ofList (withLineFeeds chars))

end Files

end Rulebook
