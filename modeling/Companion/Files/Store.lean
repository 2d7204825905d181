import Companion.Text

/-!
# Places that keep files

A `FileStore` is a monad in which text files can be read and written below a working directory.
What is written against it runs on the files of the system and on a `Disk` alike. A path is a
text whose segments are separated by slashes.
-/

namespace Companion

/-- What can go wrong with a file. -/
inductive FileError where
  | notFound
  | notDirectory
  | isDirectory
  | alreadyExists
  | nameTooLong
  /-- A path holds a null character. -/
  | invalidName
  /-- Anything else, with the text that reports it. -/
  | other (text : String)
deriving Repr, DecidableEq

/-- The text that reports the error. -/
def FileError.message : FileError → String
  | notFound => "No such file or directory (os error 2)"
  | alreadyExists => "File exists (os error 17)"
  | notDirectory => "Not a directory (os error 20)"
  | isDirectory => "Is a directory (os error 21)"
  | nameTooLong => "File name too long (os error 36)"
  | invalidName => "file name contained an unexpected NUL byte"
  | other text => text

/-- A monad in which files can be read and written. -/
class FileStore (m : Type → Type) where
  /-- The text of a file. -/
  read (path : String) : m (Except FileError String)
  /-- Create one directory; the directory it lies in must exist. -/
  createDirectory (path : String) : m (Except FileError Unit)
  /-- Give a file a text; its directory must exist. -/
  write (path text : String) : m (Except FileError Unit)

namespace FilePath

/-- The path of a name within a directory. -/
def within (directory name : String) : String :=
  if directory.isEmpty || directory.toList.getLast? == some '/' then directory ++ name
  else directory ++ "/" ++ name

/-- Whether a part of a path leads somewhere else: empty ones and single points stay at the same
place. -/
def isStep (part : String) : Bool := !part.isEmpty && part != "."

/-- The paths that end in one of the steps of a path, given its parts from the last to the first;
the longest comes first. -/
def prefixes : List String → List String
  | [] => []
  | part :: before =>
    if isStep part then Text.join "/" (part :: before).reverse :: prefixes before
    else prefixes before

/-- A path and the directories that lie on it, from the last to the first. -/
def ancestors (path : String) : List String :=
  path :: (prefixes (Text.split '/' path).reverse).drop 1

/-- Parts of a path without those at the end that stay at the same place. The first part of a
path is kept. -/
def trimmed : List String → List String
  | [] => []
  | first :: rest =>
    first :: (rest.reverse.dropWhile fun part => !isStep part).reverse

/-- The directory a file lies in. -/
def directory (path : String) : String :=
  match trimmed (trimmed (Text.split '/' path)).dropLast with
  | [""] => "/"
  | above => Text.join "/" above

end FilePath

namespace FileStore

variable {m : Type → Type} [Monad m] [FileStore m]

/-- The outcome of creating a directory, where one that is there already will do. -/
def unlessDirectory (path : String) : Except FileError Unit → m (Except FileError Unit)
  | .ok () => return .ok ()
  | .error e => do
    match ← read path with
    | .error .isDirectory => return .ok ()
    | _ => return .error e

/-- Create the first of some directories, each of which lies in the next, and of the others those
that are missing. -/
def createFirst : List String → m (Except FileError Unit)
  | [] => return .ok ()
  | path :: above => do
    match ← createDirectory path with
    | .error .notFound =>
      match ← createFirst above with
      | .ok () => unlessDirectory path (← createDirectory path)
      | .error e => return .error e
    | outcome => unlessDirectory path outcome

/-- Create a directory and those it lies in, as far as they are missing. Directories created
before an error stay. The empty path is the working directory, which is there. -/
def createDirectories (path : String) : m (Except FileError Unit) :=
  createFirst (if path.isEmpty then [] else FilePath.ancestors path)

end FileStore

end Companion
