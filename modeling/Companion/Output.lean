import Companion.Artifact
import Companion.Files.Store

/-!
# Units on disk

Units are stored below an output directory, each under its path. Writing leaves a file alone that
holds the text already. Checking writes nothing and lists the *drift*: the units whose file is
missing or holds another text.
-/

namespace Companion

/-- A unit whose file is not what it should be. -/
inductive Drift where
  | missing (path : String)
  | changed (path : String)
deriving Repr, DecidableEq

namespace Drift

def path : Drift → String
  | missing path => path
  | changed path => path

/-- The line that reports it. -/
def text : Drift → String
  | missing path => "missing: " ++ path
  | changed path => "out of date: " ++ path

end Drift

/-- A file operation that failed. -/
structure OutputError where
  /-- The file or directory. -/
  path : String
  error : FileError
deriving Repr, DecidableEq

/-- The text that reports the error. -/
def OutputError.message (e : OutputError) : String := e.path ++ ": " ++ e.error.message

/-- The file of a unit below an output directory. -/
def artifactFile (root : String) (a : Artifact) : String :=
  (Text.split '/' a.path).foldl FilePath.within root

section

variable {m : Type → Type} [Monad m] [FileStore m]

/-- The outcome of a file operation, as an outcome of the run. -/
def reported {α : Type} (path : String) (operation : m (Except FileError α)) :
    ExceptT OutputError m α :=
  ExceptT.mk do return (← operation).mapError (⟨path, ·⟩)

/-- Write a unit unless its file holds the text already; tells whether it was written. -/
def writeArtifact (root : String) (a : Artifact) : ExceptT OutputError m Bool := do
  let file := artifactFile root a
  let existing ← ExceptT.lift (FileStore.read file)
  if existing.toOption == some a.text then return false
  else
    reported (FilePath.directory file) (FileStore.createDirectories (FilePath.directory file))
    reported file (FileStore.write file a.text)
    return true

/-- Write units; the result is how many files were written. -/
def writeArtifacts (root : String) : List Artifact → ExceptT OutputError m Nat
  | [] => return 0
  | a :: rest => do
    let written ← writeArtifact root a
    return (if written then 1 else 0) + (← writeArtifacts root rest)

/-- How the file of a unit differs from it. -/
def checkArtifact (root : String) (a : Artifact) : ExceptT OutputError m (Option Drift) := do
  let file := artifactFile root a
  match ← ExceptT.lift (FileStore.read file) with
  | .ok existing => return if existing == a.text then none else some (.changed a.path)
  | .error .notFound => return some (.missing a.path)
  | .error e => throw ⟨file, e⟩

/-- The drift of units, in order. -/
def checkArtifacts (root : String) : List Artifact → ExceptT OutputError m (List Drift)
  | [] => return []
  | a :: rest => do
    let drift ← checkArtifact root a
    return drift.toList ++ (← checkArtifacts root rest)

end

end Companion
