import Companion.Files.Store

/-!
# A disk in memory

A `Disk` is a tree of directories that hold text files. A place is the list of the names that
lead to it from the working directory, which itself is always a directory. Paths are resolved
part by part as a system does: `..` leads one up, and every part but the last must name a
directory.

* `DiskEntry.find?_insert_self` – what is put at a place is found there.
* `DiskEntry.find?_insert_of_apart` – and places that do not lie on one way with it stay as
  they are.
-/

namespace Companion

/-- What a place on a disk holds: a file, or a directory with its entries by name. -/
inductive DiskEntry where
  | file (text : String)
  | directory (entries : List (String × DiskEntry))

namespace DiskEntry

/-- The entries of a directory; a file has none. -/
def entries : DiskEntry → List (String × DiskEntry)
  | file _ => []
  | directory entries => entries

/-- The entry of a name in a directory. -/
def child? (entry : DiskEntry) (name : String) : Option DiskEntry := entry.entries.lookup name

/-- The entries of a directory except the one of a name. -/
def others (entry : DiskEntry) (name : String) : List (String × DiskEntry) :=
  entry.entries.filter (·.1 != name)

/-- A directory with another entry under a name. -/
def setChild (entry : DiskEntry) (name : String) (child : DiskEntry) : DiskEntry :=
  directory ((name, child) :: entry.others name)

@[simp] theorem child?_setChild_self (entry : DiskEntry) (name : String) (child : DiskEntry) :
    (entry.setChild name child).child? name = some child := by
  simp [setChild, child?, entries]

theorem child?_setChild_of_ne (entry : DiskEntry) {name other : String} (child : DiskEntry)
    (h : other ≠ name) : (entry.setChild name child).child? other = entry.child? other := by
  rw [setChild, child?, entries, List.lookup_cons, beq_false_of_ne h, others, child?]
  induction entry.entries with
  | nil => rfl
  | cons e es ih =>
    obtain ⟨key, value⟩ := e
    by_cases hkey : key = name
    · simp [List.lookup_cons, hkey, beq_false_of_ne h, ih]
    · simp [List.lookup_cons, hkey, ih]

/-- What a place below an entry holds. -/
def find? : DiskEntry → List String → Option DiskEntry
  | entry, [] => some entry
  | entry, name :: rest =>
    match entry.child? name with
    | some child => child.find? rest
    | none => none

/-- An entry with something else at a place. Directories on the way that are missing are made. -/
def insert : DiskEntry → List String → DiskEntry → DiskEntry
  | _, [], new => new
  | entry, name :: rest, new =>
    entry.setChild name (((entry.child? name).getD (directory [])).insert rest new)

/-- An entry without what is at a place. -/
def erase : DiskEntry → List String → DiskEntry
  | entry, [] => entry
  | entry, [name] => directory (entry.others name)
  | entry, name :: rest =>
    match entry.child? name with
    | some child => entry.setChild name (child.erase rest)
    | none => entry

@[simp] theorem find?_insert_self (entry : DiskEntry) (place : List String) (new : DiskEntry) :
    (entry.insert place new).find? place = some new := by
  induction place generalizing entry with
  | nil => rfl
  | cons name rest ih => simp [insert, find?, ih]

/-- What is found at a place is still found after something is put at another place, if neither
place leads to the other. -/
theorem find?_insert_of_apart {entry found : DiskEntry} {place other : List String}
    (new : DiskEntry) (h : ¬ place <+: other) (h' : ¬ other <+: place)
    (hfound : entry.find? other = some found) :
    (entry.insert place new).find? other = some found := by
  induction place generalizing entry other with
  | nil => exact absurd List.nil_prefix h
  | cons name rest ih =>
    cases other with
    | nil => exact absurd List.nil_prefix h'
    | cons name' rest' =>
      by_cases hname : name' = name
      · subst hname
        simp only [List.cons_prefix_cons, true_and] at h h'
        cases hchild : entry.child? name' with
        | none => simp [find?, hchild] at hfound
        | some child =>
          simp only [find?, hchild] at hfound
          simpa [insert, find?, hchild] using ih h h' hfound
      · simpa [insert, find?, child?_setChild_of_ne _ _ hname] using hfound

mutual

/-- The places of the files below an entry; `above` are the names that lead to it, from the
last to the first. -/
def files (above : List String) : DiskEntry → List (List String)
  | file _ => [above.reverse]
  | directory entries => filesOf above entries

/-- `files` for the entries of a directory. -/
def filesOf (above : List String) : List (String × DiskEntry) → List (List String)
  | [] => []
  | (name, entry) :: rest => files (name :: above) entry ++ filesOf above rest

end

end DiskEntry

/-- Files and directories below a working directory. -/
structure Disk where
  entries : List (String × DiskEntry) := []

namespace Disk

/-- The working directory. -/
def root (disk : Disk) : DiskEntry := .directory disk.entries

/-- What a place holds. -/
def find? (disk : Disk) (place : List String) : Option DiskEntry := disk.root.find? place

/-- The disk with something else at a place. -/
def set (disk : Disk) (place : List String) (entry : DiskEntry) : Disk :=
  ⟨(disk.root.insert place entry).entries⟩

/-- The longest name that a file or directory can have, in bytes. -/
def longestName : Nat := 255

/-- The longest path that can be resolved, in bytes. -/
def longestPath : Nat := 4095

/-- The parts of a path. -/
def parts (path : String) : Except FileError (List String) :=
  if path.isEmpty then .error .notFound
  else if path.toList.contains '\x00' then .error .invalidName
  else if longestPath < path.utf8ByteSize then .error .nameTooLong
  else .ok (Text.split '/' path)

/-- The place that parts of a path lead to. `trail` are the directories passed so far with their
names, from the last to the first. Nothing need be at the last part. -/
def follow (root : DiskEntry) (trail : List (String × DiskEntry)) :
    List String → Except FileError (List String)
  | [] => .ok (trail.reverse.map (·.1))
  | part :: rest =>
    if !FilePath.isStep part then follow root trail rest
    else if part == ".." then follow root trail.tail rest
    else if longestName < part.utf8ByteSize then .error .nameTooLong
    else
      let here := (trail.head?.map (·.2)).getD root
      match rest, here.child? part with
      | [], _ => .ok (((part, here) :: trail).reverse.map (·.1))
      | _, some (.directory entries) => follow root ((part, .directory entries) :: trail) rest
      | _, some (.file _) => .error .notDirectory
      | _, none => .error .notFound

/-- The place of a path. -/
def place (disk : Disk) (path : String) : Except FileError (List String) := do
  follow disk.root [] (← parts path)

/-- The place of a directory to be created: slashes at the end of its path are ignored. -/
def directoryPlace (disk : Disk) (path : String) : Except FileError (List String) := do
  follow disk.root [] ((← parts path).reverse.dropWhile String.isEmpty).reverse

/-- The text of a file. -/
def read (disk : Disk) (path : String) : Except FileError String := do
  match disk.find? (← disk.place path) with
  | some (.file text) => .ok text
  | some (.directory _) => .error .isDirectory
  | none => .error .notFound

/-- The disk with another text in a file. -/
def write (disk : Disk) (path text : String) : Except FileError Disk := do
  let place ← disk.place path
  match disk.find? place with
  | some (.directory _) => .error .isDirectory
  | _ => .ok (disk.set place (.file text))

/-- The disk without a file. -/
def remove (disk : Disk) (path : String) : Except FileError Disk := do
  let place ← disk.place path
  match disk.find? place with
  | some (.file _) => .ok ⟨(disk.root.erase place).entries⟩
  | some (.directory _) => .error .isDirectory
  | none => .error .notFound

/-- The disk with one more directory. -/
def createDirectory (disk : Disk) (path : String) : Except FileError Disk := do
  let place ← disk.directoryPlace path
  if (disk.find? place).isSome then .error .alreadyExists
  else .ok (disk.set place (.directory []))

/-- The paths of all files. -/
def files (disk : Disk) : List String :=
  (DiskEntry.filesOf [] disk.entries).map (Text.join "/")

end Disk

/-- A change of a disk as state; a change that fails leaves it as it is. -/
def Disk.change (operation : Disk → Except FileError Disk) :
    StateM Disk (Except FileError Unit) :=
  modifyGet fun disk =>
    match operation disk with
    | .ok disk => (.ok (), disk)
    | .error e => (.error e, disk)

/-- Files are kept by a disk as state. -/
instance : FileStore (StateM Disk) where
  read path := return (← get).read path
  createDirectory path := Disk.change (·.createDirectory path)
  write path text := Disk.change (·.write path text)

end Companion
