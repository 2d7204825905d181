import Companion.Output
import Mathlib.Data.Finmap

/-!
# Writing Units and Checking Them

Units are checked by one loop over their files and written by another one, which threads the files
through. Both are run here on a `FileTable`, which holds nothing but texts: it finds a file by the
place that its path leads to, lacks it otherwise, and refuses nothing. Which paths lead to the same
place is left open, so the results hold for any way to resolve paths.

What counts as up to date is the same for both loops, `FileTable.drift?`. One step of writing
settles the unit at hand and leaves the drift of every unit with another file as it is
(`drift?_settle_of_ne`); the count and the final table follow by induction over the units.

## Main results

* `run_checkArtifacts`: checking lists the drift and changes nothing.
* `exists_run_writeArtifacts_eq`: writing counts the drift and settles it.
* `write_settles_drift`: both together, and what they do when they are run again.
-/

namespace Companion

/-- Texts of files by the places that paths lead to. -/
structure FileTable {Place : Type} (place : String → Place) where
  texts : Finmap fun _ : Place => String

namespace FileTable

variable {Place : Type} [DecidableEq Place] {place : String → Place}

/-- The text of the file at a place. -/
def textAt? (disk : FileTable place) (q : Place) : Option String := disk.texts.lookup q

/-- The table with another text in the file of a path. -/
def set (disk : FileTable place) (path text : String) : FileTable place :=
  ⟨disk.texts.insert (place path) text⟩

/-- What was written at a path is found there. -/
@[simp] theorem textAt?_set_self (disk : FileTable place) (path text : String) :
    (disk.set path text).textAt? (place path) = some text :=
  Finmap.lookup_insert _

/-- Other places hold what they held. -/
theorem textAt?_set_of_ne (disk : FileTable place) {path : String} (text : String) {q : Place}
    (h : q ≠ place path) : (disk.set path text).textAt? q = disk.textAt? q :=
  Finmap.lookup_insert_of_ne _ h

/-- A table is determined by the texts of its files. -/
theorem eq_of_textAt?_eq {disk disk' : FileTable place}
    (h : ∀ q, disk.textAt? q = disk'.textAt? q) : disk = disk' := by
  obtain ⟨texts⟩ := disk
  obtain ⟨texts'⟩ := disk'
  exact congrArg FileTable.mk (Finmap.ext_lookup h)

/-- The outcome of reading a file. -/
def read (disk : FileTable place) (path : String) : Except FileError String :=
  (disk.textAt? (place path)).elim (.error .notFound) .ok

/-- A file is read as the text at the place of its path. -/
@[simp] theorem toOption_read (disk : FileTable place) (path : String) :
    (disk.read path).toOption = disk.textAt? (place path) := by
  rw [read]
  cases disk.textAt? (place path) <;> rfl

/-- Files are kept by a table as state. Only a missing file is an error, and only when it is
read. -/
instance : FileStore (StateM (FileTable place)) where
  read path := return (← get).read path
  createDirectory _ := return .ok ()
  write path text := do
    modify (·.set path text)
    return .ok ()

/-- The outcome of an operation on units, and the table after it. -/
def run {α : Type} (disk : FileTable place)
    (operation : ExceptT OutputError (StateM (FileTable place)) α) :
    Except OutputError α × FileTable place :=
  StateT.run operation.run disk

/-! ### One unit -/

/-- How a table differs from a unit: the file is missing, or it holds another text. -/
def drift? (disk : FileTable place) (root : String) (a : Artifact) : Option Drift :=
  match disk.textAt? (place (artifactFile root a)) with
  | none => some (.missing a.path)
  | some text => if text = a.text then none else some (.changed a.path)

/-- The table once a unit is up to date. -/
def settle (disk : FileTable place) (root : String) (a : Artifact) : FileTable place :=
  if (disk.drift? root a).isSome then disk.set (artifactFile root a) a.text else disk

variable {disk : FileTable place} {root : String} {a b : Artifact}

/-- There is no drift exactly when the file holds the text of the unit. -/
theorem drift?_eq_none_iff :
    disk.drift? root a = none ↔ disk.textAt? (place (artifactFile root a)) = some a.text := by
  rw [drift?]
  split
  · next hmissing => simp [hmissing]
  · next text hfound => simp [hfound]

/-- A unit that was settled is up to date. -/
theorem textAt?_settle_self :
    (disk.settle root a).textAt? (place (artifactFile root a)) = some a.text := by
  rw [settle]
  split
  · exact disk.textAt?_set_self _ _
  · next hnone => exact drift?_eq_none_iff.1 (Option.not_isSome_iff_eq_none.1 hnone)

/-- Settling a unit changes no other file. -/
theorem textAt?_settle_of_ne {q : Place} (h : q ≠ place (artifactFile root a)) :
    (disk.settle root a).textAt? q = disk.textAt? q := by
  rw [settle]
  split
  · exact disk.textAt?_set_of_ne _ h
  · rfl

/-- Settling a unit does not touch the drift of a unit with another file. -/
theorem drift?_settle_of_ne
    (h : place (artifactFile root b) ≠ place (artifactFile root a)) :
    (disk.settle root a).drift? root b = disk.drift? root b := by
  rw [drift?, drift?, textAt?_settle_of_ne h]

/-! ### Operations -/

/-- Directories are always there. -/
theorem run_createDirectories (path : String) (disk : FileTable place) :
    StateT.run (FileStore.createDirectories (m := StateM (FileTable place)) path) disk =
      (.ok (), disk) := by
  rw [FileStore.createDirectories]
  split
  · rfl
  · rfl

/-- Reading a file changes nothing. -/
theorem run_read (disk : FileTable place) (path : String) :
    disk.run (ExceptT.lift (FileStore.read path)) = (.ok (disk.read path), disk) := rfl

omit [DecidableEq Place] in
@[simp] theorem run_pure {α : Type} (disk : FileTable place) (x : α) :
    disk.run (pure x) = (.ok x, disk) := rfl

omit [DecidableEq Place] in
/-- What is done after an operation starts from the table that the operation leaves. -/
theorem run_bind {α β : Type} {operation : ExceptT OutputError (StateM (FileTable place)) α}
    {x : α} {disk' : FileTable place} (h : disk.run operation = (.ok x, disk'))
    (next : α → ExceptT OutputError (StateM (FileTable place)) β) :
    disk.run (operation >>= next) = disk'.run (next x) := by
  rw [run] at h ⊢
  rw [ExceptT.run_bind, StateT.run_bind, h]
  rfl

omit [DecidableEq Place] in
/-- A file operation that succeeds is reported as it is. -/
theorem run_reported {α : Type} {operation : StateM (FileTable place) (Except FileError α)} {x : α}
    {disk' : FileTable place} (h : StateT.run operation disk = (.ok x, disk')) (path : String) :
    disk.run (reported path operation) = (.ok x, disk') := by
  rw [run, reported]
  rw [ExceptT.run_mk, StateT.run_bind, h]
  rfl

/-- **Checking one unit** gives its drift. -/
theorem run_checkArtifact (disk : FileTable place) (root : String) (a : Artifact) :
    disk.run (checkArtifact root a) = (.ok (disk.drift? root a), disk) := by
  rw [checkArtifact]
  rw [run_bind (disk.run_read _), drift?, read]
  cases disk.textAt? (place (artifactFile root a)) with
  | none => rfl
  | some text =>
      simp only [Option.elim_some, beq_iff_eq]
      split <;> rfl

/-- **Writing one unit** settles it, and tells whether there was drift. -/
theorem run_writeArtifact (disk : FileTable place) (root : String) (a : Artifact) :
    disk.run (writeArtifact root a) =
      (.ok (disk.drift? root a).isSome, disk.settle root a) := by
  have hdirectory := run_reported
    (run_createDirectories (FilePath.directory (artifactFile root a)) disk)
    (FilePath.directory (artifactFile root a))
  have hwrite : disk.run (reported (artifactFile root a)
      (FileStore.write (artifactFile root a) a.text)) =
      (.ok (), disk.set (artifactFile root a) a.text) := rfl
  rw [writeArtifact, settle]
  rw [run_bind (disk.run_read _), toOption_read]
  simp only [beq_iff_eq, ← drift?_eq_none_iff]
  cases hdrift : disk.drift? root a with
  | none => rfl
  | some drift =>
      rw [if_neg nofun, run_bind hdirectory, run_bind hwrite]
      rfl

/-! ### All units -/

/-- **Checking units** lists their drift in order and changes nothing. -/
theorem run_checkArtifacts (disk : FileTable place) (root : String) (as : List Artifact) :
    disk.run (checkArtifacts root as) = (.ok (as.filterMap (disk.drift? root)), disk) := by
  induction as with
  | nil => rfl
  | cons a as ih =>
      rw [checkArtifacts, run_bind (disk.run_checkArtifact root a), run_bind ih,
        List.filterMap_cons]
      cases disk.drift? root a <;> rfl

/-- **Writing units** of different files counts their drift, leaves every unit up to date, and
touches no file but those of units with drift. -/
theorem exists_run_writeArtifacts_eq (root : String) (as : List Artifact)
    (hdistinct : (as.map fun a => place (artifactFile root a)).Nodup) (disk : FileTable place) :
    ∃ disk', disk.run (writeArtifacts root as) =
        (.ok (as.filterMap (disk.drift? root)).length, disk') ∧
      (∀ a ∈ as, disk'.drift? root a = none) ∧
      ∀ q, (∀ a ∈ as, (disk.drift? root a).isSome → q ≠ place (artifactFile root a)) →
        disk'.textAt? q = disk.textAt? q := by
  induction as generalizing disk with
  | nil => exact ⟨disk, rfl, nofun, fun _ _ => rfl⟩
  | cons a as ih =>
      obtain ⟨hfile, hrest⟩ := List.nodup_cons.1 hdistinct
      obtain ⟨disk', hrun, hsettled, hothers⟩ := ih hrest (disk.settle root a)
      have hapart : ∀ b ∈ as, place (artifactFile root b) ≠ place (artifactFile root a) :=
        fun b hb heq => hfile (List.mem_map.2 ⟨b, hb, heq⟩)
      -- the units behind `a` have the drift they had before `a` was written
      have hdrift : ∀ b ∈ as, (disk.settle root a).drift? root b = disk.drift? root b :=
        fun b hb => drift?_settle_of_ne (hapart b hb)
      rw [List.filterMap_congr hdrift] at hrun
      refine ⟨disk', ?_, List.forall_mem_cons.2 ⟨?_, hsettled⟩, fun q hq => ?_⟩
      · rw [writeArtifacts, run_bind (disk.run_writeArtifact root a), run_bind hrun,
          List.filterMap_cons]
        cases disk.drift? root a with
        | none => simp
        | some drift => simp [Nat.add_comm]
      · rw [drift?_eq_none_iff, hothers _ fun b hb _ => (hapart b hb).symm]
        exact textAt?_settle_self
      · have ⟨hhead, htail⟩ := List.forall_mem_cons.1 hq
        rw [hothers q fun b hb hsome => htail b hb (hdrift b hb ▸ hsome)]
        rw [settle]
        split
        · next hsome => exact disk.textAt?_set_of_ne _ (hhead hsome)
        · rfl

/-- **Writing settles what checking finds.** Checking lists, in order, the units whose file is
missing or holds another text, and changes nothing. Writing units of different files returns how
many these are; it gives exactly their files another text, that of the unit, and changes no other.
After it all files hold the texts of their units: checking finds nothing, and writing once more
writes nothing. -/
theorem write_settles_drift (disk : FileTable place) (root : String) (as : List Artifact)
    (hdistinct : (as.map fun a => place (artifactFile root a)).Nodup) :
    disk.run (checkArtifacts root as) = (.ok (as.filterMap (disk.drift? root)), disk) ∧
      ∃ disk', disk.run (writeArtifacts root as) =
          (.ok (as.filterMap (disk.drift? root)).length, disk') ∧
        (∀ q, disk'.textAt? q ≠ disk.textAt? q ↔
          ∃ a ∈ as, (disk.drift? root a).isSome ∧ place (artifactFile root a) = q) ∧
        (∀ a ∈ as, disk'.textAt? (place (artifactFile root a)) = some a.text) ∧
        disk'.run (checkArtifacts root as) = (.ok [], disk') ∧
        disk'.run (writeArtifacts root as) = (.ok 0, disk') := by
  obtain ⟨disk', hrun, hsettled, hothers⟩ := exists_run_writeArtifacts_eq root as hdistinct disk
  have hclean : as.filterMap (disk'.drift? root) = [] := List.filterMap_eq_nil_iff.2 hsettled
  refine ⟨disk.run_checkArtifacts root as, disk', hrun, fun q => ⟨fun hchanged => ?_, ?_⟩,
    fun a ha => drift?_eq_none_iff.1 (hsettled a ha), ?_, ?_⟩
  · by_contra hnone
    refine hchanged (hothers q fun a ha hsome heq => hnone ⟨a, ha, hsome, heq.symm⟩)
  · rintro ⟨a, ha, hsome, rfl⟩ heq
    rw [drift?_eq_none_iff.1 (hsettled a ha), eq_comm, ← drift?_eq_none_iff] at heq
    rw [heq] at hsome
    cases hsome
  · rw [run_checkArtifacts, hclean]
  · obtain ⟨disk'', hrun', -, hsame⟩ := exists_run_writeArtifacts_eq root as hdistinct disk'
    have hnothing : disk'' = disk' := eq_of_textAt?_eq fun q =>
      hsame q fun a ha hsome => by rw [hsettled a ha] at hsome; cases hsome
    rw [hrun', hclean, hnothing]
    rfl

/-- A file that holds another text and a missing one are both written, whatever slashes their
paths have. -/
theorem two_units_settled :
    let place := fun path => (Text.split '/' path).filter FilePath.isStep
    let units : List Artifact :=
      [⟨.equality, "Shop/Item.g.cs", "class Item", []⟩, ⟨.lifecycle, "Shop/Cart.g.cs", "class Cart", []⟩]
    let disk : FileTable place := (⟨∅⟩ : FileTable place).set "out//Shop/Item.g.cs" "edited"
    (units.map fun a => place (artifactFile "out/" a)).Nodup ∧
      disk.run (checkArtifacts "out/" units) =
        (.ok [.changed "Shop/Item.g.cs", .missing "Shop/Cart.g.cs"], disk) ∧
      ∃ disk', disk.run (writeArtifacts "out/" units) = (.ok 2, disk') ∧
        disk'.run (checkArtifacts "out/" units) = (.ok [], disk') := by
  intro place units disk
  have hdistinct : (units.map fun a => place (artifactFile "out/" a)).Nodup := by decide +kernel
  obtain ⟨hcheck, disk', hwrite, -, -, hclean, -⟩ := write_settles_drift disk "out/" units hdistinct
  have hdrift : units.filterMap (disk.drift? "out/") =
      [.changed "Shop/Item.g.cs", .missing "Shop/Cart.g.cs"] := by decide +kernel
  rw [hdrift] at hcheck hwrite
  exact ⟨hdistinct, hcheck, disk', hwrite, hclean⟩

end FileTable

end Companion
