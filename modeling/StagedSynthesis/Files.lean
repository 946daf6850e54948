import StagedSynthesis.Text.Joined

/-!
# Files

A tree of files as far as a run can see it. A place in the tree is the list of names that leads to
it from the root, and a path is followed from the working directory name by name. Following a path
fails where a name is missing and where something that is not a directory would have to be entered,
and a path or a name that is too long is refused whatever it leads to.
-/

namespace StagedSynthesis

/-- Why something could not be done with a path. -/
inductive FileProblem where
  | notFound
  | denied
  | busy
  | notDirectory
  | isDirectory
  | nameTooLong
  deriving DecidableEq, Repr

/-- The text of the problem, with its number. -/
def FileProblem.message : FileProblem → String
  | .notFound => "No such file or directory (os error 2)"
  | .denied => "Permission denied (os error 13)"
  | .busy => "Device or resource busy (os error 16)"
  | .notDirectory => "Not a directory (os error 20)"
  | .isDirectory => "Is a directory (os error 21)"
  | .nameTooLong => "File name too long (os error 36)"

/-- What stands at a place. -/
inductive FileEntry where
  | directory
  | file (content : ByteArray)
  /-- A program that can be started. -/
  | program

/-- Two files are equal if their bytes are. -/
instance : DecidableEq FileEntry
  | .directory, .directory | .program, .program => isTrue rfl
  | .file content, .file other =>
      match ByteArray.instDecidableEq content other with
      | isTrue same => isTrue (congrArg FileEntry.file same)
      | isFalse different => isFalse fun same => different (FileEntry.file.inj same)
  | .directory, .file _ | .directory, .program | .file _, .directory | .file _, .program
  | .program, .directory | .program, .file _ => isFalse nofun

/-- A place in the tree: the names that lead to it from the root. -/
abbrev Place := List String

/-- A tree of files, seen from a working directory. -/
structure Files where
  /-- What stands at each place but the root. -/
  entries : List (Place × FileEntry) := []
  /-- The working directory. -/
  working : Place := []
  /-- The directory in which programs are looked up by name. -/
  programs : Place := []

namespace Files

/-- What stands at a place. The root is a directory. -/
def at? (files : Files) (place : Place) : Option FileEntry :=
  if place.isEmpty then some .directory else files.entries.lookup place

/-- The tree with something put at a place, in place of what stood there. -/
def put (files : Files) (place : Place) (entry : FileEntry) : Files :=
  { files with entries := files.entries.filter (·.1 ≠ place) ++ [(place, entry)] }

/-- The tree without what stands at a place. -/
def remove (files : Files) (place : Place) : Files :=
  { files with entries := files.entries.filter (·.1 ≠ place) }

/-- The names of a path, divided at the slashes. -/
def namesOf (path : String) : List String :=
  Text.pieces '/' path

/-- Paths have fewer bytes than this. -/
def pathLimit : Nat :=
  4096

/-- Whether a path is refused for its length. -/
def isTooLong (path : String) : Bool :=
  pathLimit ≤ path.utf8ByteSize

/-- Follow names from a place that must be a directory to be entered. -/
def follow (files : Files) :
    Place → FileEntry → List String → Except FileProblem (Place × FileEntry)
  | place, entry, [] => .ok (place, entry)
  | place, .directory, name :: rest =>
      if name = "" ∨ name = "." then follow files place .directory rest
      else if name = ".." then follow files place.dropLast .directory rest
      else if 255 < name.utf8ByteSize then .error .nameTooLong
      else
        match files.at? (place ++ [name]) with
        | some entry => follow files (place ++ [name]) entry rest
        | none => .error .notFound
  | _, _, _ :: _ => .error .notDirectory

/-- Where the names of a path start: at the root for a path with a leading slash, otherwise in the
working directory. -/
def startOf (files : Files) (path : String) : Place :=
  if path.toList.head? = some '/' then [] else files.working

/-- The place to which a path leads, and what stands there. -/
def find (files : Files) (path : String) : Except FileProblem (Place × FileEntry) :=
  if path.isEmpty then .error .notFound
  else if isTooLong path then .error .nameTooLong
  else files.follow (files.startOf path) .directory (namesOf path)

/-- Whether a path leads anywhere. -/
def has (files : Files) (path : String) : Bool :=
  (files.find path).toOption.isSome

/-- Why the text of a file could not be read. -/
inductive ReadProblem where
  | file (problem : FileProblem)
  | notText
  deriving DecidableEq, Repr

/-- The message of a read problem. -/
def ReadProblem.message : ReadProblem → String
  | .file problem => problem.message
  | .notText => "stream did not contain valid UTF-8"

/-- The text of a file. -/
def readText (files : Files) (path : String) : Except ReadProblem String :=
  match files.find path with
  | .error problem => .error (.file problem)
  | .ok (_, .directory) => .error (.file .isDirectory)
  | .ok (_, .program) => .error .notText
  | .ok (_, .file content) =>
      match String.fromUTF8? content with
      | some text => .ok text
      | none => .error .notText

/-- Whether a path names a program that can be started. A path without a slash is looked up in the
directory of programs. -/
def startProgram (files : Files) (path : String) : Except FileProblem Unit := do
  let (_, entry) ←
    if path.toList.contains '/' then files.find path
    else if path.isEmpty then .error .notFound
    else files.follow files.programs .directory [path]
  if entry = .program then .ok () else .error .denied

/-- Whether a name is a part of a path in its own right: not empty, and not a dot unless the path
starts with it. -/
def isPart (index : Nat) (name : String) : Bool :=
  name ≠ "" && (name ≠ "." || index = 0)

/-- The directory part of a path as it is written, or a dot if the path has none. -/
def directoryOf (path : String) : String :=
  let names := namesOf path
  let parts := (names.zipIdx.filter fun (name, index) => isPart index name).map Prod.snd
  match parts.reverse with
  | _ :: last :: _ => Text.joined "/" (names.take (last + 1))
  | [_] => if path.toList.head? = some '/' then "/" else "."
  | [] => "."

/-- A path that continues a directory by a name. -/
def pathIn (directory name : String) : String :=
  if directory.toList.getLast? = some '/' then directory ++ name else directory ++ "/" ++ name

/-- Move a file to the place that a path names, in place of any file there. The names before the
last must lead to a directory; the last must name a file, so that neither a dot, nor a name with a
slash behind it, nor a directory will do. -/
def move (files : Files) (source : Place) (content : ByteArray) (path : String) :
    Except FileProblem Files := do
  if path.isEmpty then throw .notFound
  if isTooLong path then throw .nameTooLong
  let backwards := (namesOf path).reverse
  let closing := backwards.takeWhile (· = "")
  match backwards.dropWhile (· = "") with
  | [] => throw .busy
  | last :: before =>
      let (place, entry) ← files.follow (files.startOf path) .directory before.reverse
      if entry ≠ .directory then throw .notDirectory
      if last = "." ∨ last = ".." then throw .busy
      if 255 < last.utf8ByteSize then throw .nameTooLong
      if !closing.isEmpty then throw .notDirectory
      if files.at? (place ++ [last]) = some .directory then throw .isDirectory
      pure ((files.remove source).put (place ++ [last]) (.file content))

/-- The files below a directory that are new or have other contents than before, by the paths that
lead to them from there. -/
def changesSince (files before : Files) (directory : Place) : List (String × ByteArray) :=
  files.entries.filterMap fun (place, entry) =>
    match entry with
    | .file content =>
        if directory.isPrefixOf place ∧ before.at? place ≠ some (.file content) then
          some (Text.joined "/" (place.drop directory.length), content)
        else
          none
    | _ => none

end Files

end StagedSynthesis
