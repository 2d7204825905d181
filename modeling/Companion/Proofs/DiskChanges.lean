import Companion.Files.Disk
import Companion.Output
import Mathlib.Data.List.Basic

/-!
# What Writing Changes on a Disk

A path leads to a place on a disk, if it leads anywhere: the names of its steps, less one for each
step up. Writing a file changes the text at the place of its path and no other text, since the
directories on the way are there and nothing lies below a file. Creating directories changes no text
at all. So writing units changes texts at the places of their files only, whatever fails on the way;
and if nothing fails, these places hold the texts of the units.

## Main results

* `DiskEntry.textAt?_insert_of_ne`: putting something at a place changes no text elsewhere.
* `Disk.eq_placeFrom_of_follow`: where a path leads, if it leads anywhere.
* `Disk.changesOnly_writeArtifacts`: writing units changes texts at the places of their files only.
* `Disk.exists_text_after_writeArtifacts`: the texts there once all units are written.
-/

namespace Companion

/-! ### Texts below an entry -/

namespace DiskEntry

/-- What a place holds is found on the way to it. -/
theorem find?_append (entry : DiskEntry) (place rest : List String) :
    entry.find? (place ++ rest) = (entry.find? place).bind (·.find? rest) := by
  induction place generalizing entry with
  | nil => rfl
  | cons name place ih =>
      rw [List.cons_append, find?, find?]
      cases entry.child? name with
      | none => rfl
      | some child => exact ih child

/-- The text of a file; a directory has none. -/
def text? : DiskEntry → Option String
  | file text => some text
  | directory _ => none

/-- The text of the file at a place. -/
def textAt? (entry : DiskEntry) (place : List String) : Option String :=
  (entry.find? place).bind text?

/-- A text is looked up step by step. -/
theorem textAt?_cons (entry : DiskEntry) (name : String) (rest : List String) :
    entry.textAt? (name :: rest) = (entry.child? name).bind (·.textAt? rest) := by
  rw [textAt?, find?]
  cases entry.child? name <;> rfl

/-- There is no text below an empty directory. -/
theorem textAt?_empty (place : List String) : (directory []).textAt? place = none := by
  cases place <;> rfl

/-- There is no text below a file. -/
theorem textAt?_file_of_ne_nil (text : String) {place : List String} (h : place ≠ []) :
    (file text).textAt? place = none := by
  cases place with
  | nil => exact absurd rfl h
  | cons => rfl

/-- The texts below a name, where a missing entry counts as an empty directory. -/
theorem textAt?_getD_child? (entry : DiskEntry) (name : String) (rest : List String) :
    ((entry.child? name).getD (directory [])).textAt? rest = entry.textAt? (name :: rest) := by
  rw [textAt?_cons]
  cases entry.child? name with
  | none => exact textAt?_empty rest
  | some child => rfl

/-- Whether there is no text on the way to a place. -/
def HasWayTo (entry : DiskEntry) (place : List String) : Prop :=
  ∀ above, above <+: place → above ≠ place → entry.textAt? above = none

/-- **Putting something at a place changes no text elsewhere**, if there is no text on the way to
the place, nor below the place before and after. -/
theorem textAt?_insert_of_ne {entry new : DiskEntry} {place other : List String}
    (hway : entry.HasWayTo place)
    (hbelow : ∀ rest, rest ≠ [] → entry.textAt? (place ++ rest) = none)
    (hnew : ∀ rest, rest ≠ [] → new.textAt? rest = none) (hne : other ≠ place) :
    (entry.insert place new).textAt? other = entry.textAt? other := by
  induction place generalizing entry other with
  | nil => rw [insert, hnew other hne, ← hbelow other hne, List.nil_append]
  | cons name place ih =>
      cases other with
      | nil => exact (hway [] List.nil_prefix (List.cons_ne_nil name place).symm).symm
      | cons name' other =>
          rw [insert, textAt?_cons]
          by_cases hname : name' = name
          · subst hname
            rw [child?_setChild_self, Option.bind_some, ih, textAt?_getD_child?]
            · intro above habove hne'
              rw [textAt?_getD_child?]
              exact hway _ (List.cons_prefix_cons.2 ⟨rfl, habove⟩) (by simpa using hne')
            · intro rest hrest
              rw [textAt?_getD_child?]
              exact hbelow rest hrest
            · simpa using hne
          · rw [child?_setChild_of_ne _ _ hname, textAt?_cons]

end DiskEntry

/-! ### Where paths lead -/

namespace FilePath

/-- The place that parts of a path lead to, from the place of a trail of names, the last one
first. A step up from the top stays there. -/
def placeFrom : List String → List String → List String
  | trail, [] => trail.reverse
  | trail, part :: rest =>
    if !isStep part then placeFrom trail rest
    else if part = ".." then placeFrom trail.tail rest
    else placeFrom (part :: trail) rest

/-- The place that a path leads to from the working directory. -/
def place (path : String) : List String := placeFrom [] (Text.split '/' path)

/-- Parts are followed one after the other. -/
theorem placeFrom_append (trail parts rest : List String) :
    placeFrom trail (parts ++ rest) = placeFrom (placeFrom trail parts).reverse rest := by
  induction parts generalizing trail with
  | nil => simp [placeFrom]
  | cons part parts ih =>
      rw [List.cons_append, placeFrom, placeFrom]
      split
      · exact ih trail
      · split
        · exact ih trail.tail
        · exact ih (part :: trail)

/-- Parts that are no steps make no difference. -/
theorem placeFrom_filter (trail parts : List String) :
    placeFrom trail (parts.filter isStep) = placeFrom trail parts := by
  induction parts generalizing trail with
  | nil => rfl
  | cons part parts ih =>
      cases hstep : isStep part with
      | true => simp [placeFrom, hstep, ih]
      | false => simp [placeFrom, hstep, ih]

end FilePath

namespace Disk

open DiskEntry

variable {root : DiskEntry} {trail : List (String × DiskEntry)}

/-- The names of the directories passed, in order. -/
def trailNames (trail : List (String × DiskEntry)) : List String := (trail.map (·.1)).reverse

/-- The directory that a trail ends in. -/
def trailEnd (root : DiskEntry) (trail : List (String × DiskEntry)) : DiskEntry :=
  (trail.head?.map (·.2)).getD root

/-- Whether the entries of a trail are the directories that its names lead to. -/
def IsTrail (root : DiskEntry) : List (String × DiskEntry) → Prop
  | [] => root.text? = none
  | step :: above =>
    IsTrail root above ∧ root.find? (trailNames (step :: above)) = some step.2 ∧
      step.2.text? = none

theorem IsTrail.tail (h : IsTrail root trail) : IsTrail root trail.tail := by
  cases trail with
  | nil => exact h
  | cons step above => exact h.1

/-- The names of a trail lead to its end. -/
theorem IsTrail.find?_eq (h : IsTrail root trail) :
    root.find? (trailNames trail) = some (trailEnd root trail) := by
  cases trail with
  | nil => rfl
  | cons step above => exact h.2.1

/-- There is no text on the way that a trail has come. -/
theorem IsTrail.textAt?_eq_none (h : IsTrail root trail) {above : List String}
    (habove : above <+: trailNames trail) : root.textAt? above = none := by
  induction trail with
  | nil =>
      obtain rfl := List.prefix_nil.1 habove
      exact h
  | cons step trail ih =>
      obtain ⟨htrail, hfind, htext⟩ := h
      rw [trailNames, List.map_cons, List.reverse_cons, List.prefix_concat_iff] at habove
      rcases habove with rfl | habove
      · rw [trailNames, List.map_cons, List.reverse_cons] at hfind
        rw [textAt?, hfind, Option.bind_some, htext]
      · exact ih htrail habove

/-- A trail goes on with a directory in its end. -/
theorem IsTrail.cons (h : IsTrail root trail) {name : String} {entries : List (String × DiskEntry)}
    (hchild : (trailEnd root trail).child? name = some (.directory entries)) :
    IsTrail root ((name, .directory entries) :: trail) := by
  refine ⟨h, ?_, rfl⟩
  have hnames : trailNames ((name, .directory entries) :: trail) = trailNames trail ++ [name] := by
    simp [trailNames]
  rw [hnames, find?_append, h.find?_eq, Option.bind_some, DiskEntry.find?, hchild]
  rfl

/-- **Where a path leads**, if it leads anywhere: to the place of its steps, and there is no text on
the way. -/
theorem eq_placeFrom_of_follow {parts place : List String}
    (h : follow root trail parts = .ok place) (htrail : IsTrail root trail) :
    place = FilePath.placeFrom (trail.map (·.1)) parts ∧ root.HasWayTo place := by
  fun_induction follow root trail parts with
  | case1 trail =>
      obtain rfl := Except.ok.inj h
      rw [List.map_reverse]
      exact ⟨rfl, fun above habove _ => htrail.textAt?_eq_none habove⟩
  | case2 trail part rest hstay ih =>
      rw [FilePath.placeFrom, if_pos hstay]
      exact ih h htrail
  | case3 trail part rest hstep hup ih =>
      rw [FilePath.placeFrom, if_neg hstep, if_pos (beq_iff_eq.1 hup), ← List.map_tail]
      exact ih h htrail.tail
  | case5 trail part hstep hdown =>
      -- Nothing need be at the last part; the way to it is the trail.
      obtain rfl := Except.ok.inj h
      have hplace : ((part, trailEnd root trail) :: trail).reverse.map (·.1) =
          trailNames trail ++ [part] := by
        simp [trailNames]
      rw [FilePath.placeFrom, if_neg hstep, if_neg (by simpa using hdown)]
      refine ⟨by simp [FilePath.placeFrom], fun above habove hne => ?_⟩
      refine htrail.textAt?_eq_none ((List.prefix_concat_iff.1 (hplace ▸ habove)).resolve_left ?_)
      exact fun heq => hne (heq.trans hplace.symm)
  | case6 trail part rest hstep hdown _ _ entries hchild _ ih =>
      rw [FilePath.placeFrom, if_neg hstep, if_neg (by simpa using hdown)]
      exact ih h (htrail.cons hchild)
  | case4 | case7 | case8 => cases h

/-- The parts of a path are what slashes separate. -/
theorem eq_split_of_parts {path : String} {ps : List String} (h : parts path = .ok ps) :
    ps = Text.split '/' path := by
  rw [parts] at h
  split at h
  · cases h
  · split at h
    · cases h
    · split at h
      · cases h
      · exact (Except.ok.inj h).symm

variable {disk disk' : Disk}

/-- The place of a path is that of its steps, and there is no text on the way. -/
theorem eq_place_of_place {path : String} {place : List String}
    (h : disk.place path = .ok place) :
    place = FilePath.place path ∧ disk.root.HasWayTo place := by
  rw [Disk.place] at h
  cases hparts : parts path with
  | error e => simp [hparts, bind, Except.bind] at h
  | ok ps =>
      rw [hparts] at h
      obtain rfl := eq_split_of_parts hparts
      exact eq_placeFrom_of_follow h rfl

/-- There is no text on the way to a directory that is created. -/
theorem hasWayTo_of_directoryPlace {path : String} {place : List String}
    (h : disk.directoryPlace path = .ok place) : disk.root.HasWayTo place := by
  rw [directoryPlace] at h
  cases hparts : parts path with
  | error e => simp [hparts, bind, Except.bind] at h
  | ok ps =>
      rw [hparts] at h
      exact (eq_placeFrom_of_follow h rfl).2

/-! ### What operations change -/

/-- The text of the file at a place. -/
def textAt? (disk : Disk) (place : List String) : Option String := disk.root.textAt? place

/-- Putting something at a place changes no text elsewhere, if there is no text on the way and no
directory at the place, and nothing lies below what is put there. -/
theorem textAt?_set_of_ne {place other : List String} {new : DiskEntry}
    (hway : disk.root.HasWayTo place)
    (hplace : ∀ entries, disk.find? place ≠ some (.directory entries))
    (hnew : ∀ rest, rest ≠ [] → new.textAt? rest = none) (hne : other ≠ place) :
    (disk.set place new).textAt? other = disk.textAt? other := by
  cases place with
  | nil => exact absurd rfl (hplace disk.entries)
  | cons name place =>
      refine DiskEntry.textAt?_insert_of_ne hway (fun rest hrest => ?_) hnew hne
      rw [DiskEntry.textAt?, find?_append]
      cases hfound : disk.root.find? (name :: place) with
      | none => rfl
      | some entry =>
          cases entry with
          | file text => exact textAt?_file_of_ne_nil text hrest
          | directory entries => exact absurd hfound (hplace entries)

/-- A new directory is no text, like what was not there before. -/
theorem textAt?_set_directory {place : List String} {entries : List (String × DiskEntry)}
    (h : disk.find? place = none) :
    (disk.set place (.directory entries)).textAt? place = disk.textAt? place := by
  cases place with
  | nil => cases h
  | cons name place =>
      have hnew : (disk.root.insert (name :: place) (.directory entries)).textAt? (name :: place) =
          none := by
        rw [DiskEntry.textAt?, find?_insert_self]
        rfl
      have hold : disk.root.textAt? (name :: place) = none := by
        rw [DiskEntry.textAt?]
        exact congrArg (·.bind text?) h
      exact hnew.trans hold.symm

/-- **Writing a file** puts its text at the place of its path, to which there is a way, and which is
no directory. -/
theorem eq_set_of_write {path text : String} (h : disk.write path text = .ok disk') :
    disk.root.HasWayTo (FilePath.place path) ∧
      (∀ entries, disk.find? (FilePath.place path) ≠ some (.directory entries)) ∧
        disk' = disk.set (FilePath.place path) (.file text) := by
  rw [write] at h
  cases hplace : disk.place path with
  | error e => simp [hplace, bind, Except.bind] at h
  | ok place =>
      obtain ⟨rfl, hway⟩ := eq_place_of_place hplace
      simp only [hplace, bind, Except.bind] at h
      split at h
      · cases h
      · next hfound => exact ⟨hway, hfound, (Except.ok.inj h).symm⟩

/-- Writing a file changes the text at the place of its path only. -/
theorem textAt?_of_write {path text : String} (h : disk.write path text = .ok disk')
    {other : List String} (hne : other ≠ FilePath.place path) :
    disk'.textAt? other = disk.textAt? other := by
  obtain ⟨hway, hfound, rfl⟩ := eq_set_of_write h
  exact textAt?_set_of_ne hway hfound (fun _ => textAt?_file_of_ne_nil text) hne

/-- What was written to a file is at the place of its path. -/
theorem textAt?_place_of_write {path text : String} (h : disk.write path text = .ok disk') :
    disk'.textAt? (FilePath.place path) = some text := by
  obtain ⟨-, hfound, rfl⟩ := eq_set_of_write h
  cases hplace : FilePath.place path with
  | nil => exact absurd (hplace ▸ rfl) (hfound disk.entries)
  | cons name rest =>
      exact congrArg (·.bind text?) (find?_insert_self disk.root (name :: rest) (.file text))

/-- What is read from a file is at the place of its path. -/
theorem textAt?_place_of_read {path text : String} (h : disk.read path = .ok text) :
    disk.textAt? (FilePath.place path) = some text := by
  rw [read] at h
  cases hplace : disk.place path with
  | error e => simp [hplace, bind, Except.bind] at h
  | ok place =>
      obtain ⟨rfl, -⟩ := eq_place_of_place hplace
      simp only [hplace, bind, Except.bind] at h
      split at h
      · next hfound =>
          obtain rfl := Except.ok.inj h
          exact congrArg (·.bind text?) hfound
      · cases h
      · cases h

/-- Creating a directory changes no text. -/
theorem textAt?_of_createDirectory {path : String} (h : disk.createDirectory path = .ok disk')
    (other : List String) : disk'.textAt? other = disk.textAt? other := by
  rw [createDirectory] at h
  cases hplace : disk.directoryPlace path with
  | error e => simp [hplace, bind, Except.bind] at h
  | ok place =>
      have hway := hasWayTo_of_directoryPlace hplace
      simp only [hplace, bind, Except.bind] at h
      split at h
      · cases h
      · next hmissing =>
          obtain rfl := Except.ok.inj h
          have hnone : disk.find? place = none := by simpa using hmissing
          by_cases hother : other = place
          · subst hother
            exact textAt?_set_directory hnone
          · exact textAt?_set_of_ne hway (by simp [hnone]) (fun rest _ => textAt?_empty rest) hother

/-- The disk after an operation. -/
def after {α : Type} (disk : Disk) (operation : StateM Disk α) : Disk :=
  (StateT.run operation disk).2

/-- The outcome of an operation. -/
def outcome {α : Type} (disk : Disk) (operation : StateM Disk α) : α :=
  (StateT.run operation disk).1

/-- To do nothing leaves the disk as it was. -/
theorem after_run_pure {ε α : Type} (disk : Disk) (x : α) :
    disk.after (pure x : ExceptT ε (StateM Disk) α).run = disk := rfl

/-- What follows an operation starts from the disk that the operation left. -/
theorem outcome_bind {α β : Type} (disk : Disk) (operation : StateM Disk α)
    (next : α → StateM Disk β) :
    disk.outcome (operation >>= next) =
      (disk.after operation).outcome (next (disk.outcome operation)) := rfl

/-- The disk that two operations leave, one behind the other. -/
theorem after_bind {α β : Type} (disk : Disk) (operation : StateM Disk α)
    (next : α → StateM Disk β) :
    disk.after (operation >>= next) =
      (disk.after operation).after (next (disk.outcome operation)) := rfl

/-- After a change the disk is what the change gives, or as it was if there was an error. -/
theorem outcome_after_change (disk : Disk) (operation : Disk → Except FileError Disk) :
    disk.outcome (Disk.change operation) = (operation disk).map (fun _ => ()) ∧
      disk.after (Disk.change operation) = (operation disk).toOption.getD disk := by
  rw [outcome, after, Disk.change]
  rw [StateT.run_modifyGet]
  cases operation disk with
  | ok disk' => exact ⟨rfl, rfl⟩
  | error e => exact ⟨rfl, rfl⟩

/-- When two operations succeed one after the other, the second one does on the disk that the first
one leaves. -/
theorem exists_of_outcome_bind {ε α β : Type} {operation : ExceptT ε (StateM Disk) α}
    {next : α → ExceptT ε (StateM Disk) β} {y : β}
    (h : disk.outcome (operation >>= next).run = .ok y) :
    ∃ x, disk.outcome operation.run = .ok x ∧
      (disk.after operation.run).outcome (next x).run = .ok y ∧
      disk.after (operation >>= next).run = (disk.after operation.run).after (next x).run := by
  rw [ExceptT.run_bind, outcome_bind] at h
  rw [ExceptT.run_bind, after_bind]
  cases hfirst : disk.outcome operation.run with
  | error e =>
      rw [hfirst] at h
      cases h
  | ok x =>
      rw [hfirst] at h
      exact ⟨x, rfl, h, rfl⟩

/-- Whether an operation changes texts at the given places only, from any disk and whatever its
outcome is. -/
def ChangesOnly {α : Type} (places : List String → Prop) (operation : StateM Disk α) : Prop :=
  ∀ (disk : Disk) (place : List String), ¬ places place →
    (disk.after operation).textAt? place = disk.textAt? place

namespace ChangesOnly

variable {α β : Type} {places : List String → Prop}

/-- To do nothing changes nothing. -/
theorem pure (x : α) : ChangesOnly places (Pure.pure x) := fun _ _ _ => rfl

/-- One operation after another changes what they change. -/
theorem bind {operation : StateM Disk α} {next : α → StateM Disk β}
    (h : ChangesOnly places operation) (hnext : ∀ x, ChangesOnly places (next x)) :
    ChangesOnly places (operation >>= next) := fun disk place hplace =>
  (hnext _ _ place hplace).trans (h disk place hplace)

/-- An operation that may fail, and another one after it unless it did. -/
theorem bindExcept {ε : Type} {operation : ExceptT ε (StateM Disk) α}
    {next : α → ExceptT ε (StateM Disk) β} (h : ChangesOnly places operation.run)
    (hnext : ∀ x, ChangesOnly places (next x).run) :
    ChangesOnly places (operation >>= next).run := by
  rw [ExceptT.run_bind]
  refine h.bind fun outcome => ?_
  cases outcome with
  | ok x => exact hnext x
  | error e => exact .pure _

/-- More places may change. -/
theorem mono {places' : List String → Prop} {operation : StateM Disk α}
    (h : ChangesOnly places operation) (hle : ∀ place, places place → places' place) :
    ChangesOnly places' operation :=
  fun disk place hplace => h disk place fun hin => hplace (hle place hin)

/-- A change of the disk changes what it does where it succeeds. -/
theorem change {operation : Disk → Except FileError Disk}
    (h : ∀ disk disk', operation disk = .ok disk' →
      ∀ place, ¬ places place → disk'.textAt? place = disk.textAt? place) :
    ChangesOnly places (Disk.change operation) := by
  intro disk place hplace
  rw [(outcome_after_change disk operation).2]
  cases hresult : operation disk with
  | ok disk' => exact h disk disk' hresult place hplace
  | error e => rfl

/-- To read changes nothing. -/
theorem read (path : String) : ChangesOnly places (FileStore.read path) := fun _ _ _ => rfl

/-- To create a directory changes no text. -/
theorem createDirectory (path : String) :
    ChangesOnly places (FileStore.createDirectory path) :=
  .change fun _ _ h place _ => textAt?_of_createDirectory h place

/-- To write a file changes the text at its place only. -/
theorem write (path text : String) :
    ChangesOnly (· = FilePath.place path) (FileStore.write path text) :=
  .change fun _ _ h _ hne => textAt?_of_write h hne

theorem unlessDirectory (path : String) (outcome : Except FileError Unit) :
    ChangesOnly places (FileStore.unlessDirectory path outcome) := by
  cases outcome with
  | ok => exact .pure _
  | error e =>
      refine (read path).bind fun found => ?_
      split
      · exact .pure _
      · exact .pure _

theorem createFirst (paths : List String) : ChangesOnly places (FileStore.createFirst paths) := by
  induction paths with
  | nil => exact .pure _
  | cons path above ih =>
      refine (createDirectory path).bind fun outcome => ?_
      split
      · refine ih.bind fun outcome => ?_
        cases outcome with
        | ok => exact (createDirectory path).bind fun outcome => unlessDirectory path outcome
        | error e => exact .pure _
      · exact unlessDirectory path _

/-- Creating directories changes no text. -/
theorem createDirectories (path : String) :
    ChangesOnly places (FileStore.createDirectories path) :=
  createFirst _

/-- To report what went wrong changes nothing more. -/
theorem reported {operation : StateM Disk (Except FileError α)} (path : String)
    (h : ChangesOnly places operation) : ChangesOnly places (reported path operation).run :=
  h.bind fun _ => .pure _

end ChangesOnly

/-- Writing a unit changes the text at the place of its file only. -/
theorem changesOnly_writeArtifact (root : String) (a : Artifact) :
    ChangesOnly (· = FilePath.place (artifactFile root a)) (writeArtifact root a).run := by
  rw [writeArtifact]
  refine .bindExcept (ChangesOnly.bind (.read _) fun _ => .pure _) fun existing => ?_
  split
  · exact .pure _
  · refine .bindExcept (.reported _ (.createDirectories _)) fun _ => ?_
    exact .bindExcept (.reported _ (.write _ _)) fun _ => .pure _

/-- **Writing units** changes texts at the places of their files only. -/
theorem changesOnly_writeArtifacts (root : String) (units : List Artifact) :
    ChangesOnly (fun place => ∃ a ∈ units, place = FilePath.place (artifactFile root a))
      (writeArtifacts root units).run := by
  induction units with
  | nil => exact .pure _
  | cons a units ih =>
      rw [writeArtifacts]
      refine .bindExcept ((changesOnly_writeArtifact root a).mono ?_) fun _ => ?_
      · exact fun place hplace => ⟨a, List.mem_cons_self, hplace⟩
      · refine .bindExcept (ih.mono ?_) fun _ => .pure _
        exact fun place ⟨b, hb, hplace⟩ => ⟨b, List.mem_cons_of_mem a hb, hplace⟩

/-- A file that was written has its text. -/
theorem textAt?_after_reported_write {path text : String}
    (h : disk.outcome (reported path (FileStore.write path text)).run = .ok ()) :
    (disk.after (reported path (FileStore.write path text)).run).textAt? (FilePath.place path) =
      some text := by
  obtain ⟨houtcome, hafter⟩ := outcome_after_change disk (·.write path text)
  have hreported : disk.outcome (reported path (FileStore.write path text)).run =
      (disk.outcome (Disk.change (·.write path text))).mapError (⟨path, ·⟩) := rfl
  rw [hreported, houtcome] at h
  change (disk.after (Disk.change (·.write path text))).textAt? _ = _
  rw [hafter]
  cases hresult : disk.write path text with
  | ok disk' => exact textAt?_place_of_write hresult
  | error e =>
      rw [hresult] at h
      cases h

/-- A unit that was written is at the place of its file. -/
theorem textAt?_after_writeArtifact {root : String} {a : Artifact} {written : Bool}
    (h : disk.outcome (writeArtifact root a).run = .ok written) :
    (disk.after (writeArtifact root a).run).textAt? (FilePath.place (artifactFile root a)) =
      some a.text := by
  rw [writeArtifact] at h ⊢
  obtain ⟨existing, hread, h, hafter⟩ := exists_of_outcome_bind h
  obtain rfl : disk.read (artifactFile root a) = existing := Except.ok.inj hread
  have hunread : ∀ path, disk.after
      (ExceptT.lift (FileStore.read path) : ExceptT OutputError (StateM Disk) _).run = disk :=
    fun _ => rfl
  rw [hunread] at h hafter
  rw [hafter]
  by_cases hsame : (disk.read (artifactFile root a)).toOption == some a.text
  · rw [if_pos hsame]
    suffices hread : disk.read (artifactFile root a) = .ok a.text from textAt?_place_of_read hread
    cases hresult : disk.read (artifactFile root a) with
    | ok text => simpa [hresult, Except.toOption] using hsame
    | error e => simp [hresult, Except.toOption] at hsame
  · rw [if_neg hsame] at h ⊢
    obtain ⟨_, -, h, hafter⟩ := exists_of_outcome_bind h
    rw [hafter]
    obtain ⟨_, hwrite, -, hafter⟩ := exists_of_outcome_bind h
    rw [hafter, after_run_pure]
    exact textAt?_after_reported_write hwrite

/-- **Units that were written** are at the places of their files: at each such place is the text of
a unit that has its file there. -/
theorem exists_text_after_writeArtifacts {root : String} {units : List Artifact} {written : Nat}
    (h : disk.outcome (writeArtifacts root units).run = .ok written) {place : List String}
    (hplace : ∃ a ∈ units, FilePath.place (artifactFile root a) = place) :
    ∃ a ∈ units, FilePath.place (artifactFile root a) = place ∧
      (disk.after (writeArtifacts root units).run).textAt? place = some a.text := by
  induction units generalizing disk written with
  | nil => simp at hplace
  | cons first units ih =>
      rw [writeArtifacts] at h ⊢
      obtain ⟨_, hfirst, h, hafter⟩ := exists_of_outcome_bind h
      rw [hafter]
      obtain ⟨_, hrest, -, hafter⟩ := exists_of_outcome_bind h
      rw [hafter, after_run_pure]
      by_cases hlater : ∃ a ∈ units, FilePath.place (artifactFile root a) = place
      · obtain ⟨a, ha, hfile, htext⟩ := ih hrest hlater
        exact ⟨a, List.mem_cons_of_mem first ha, hfile, htext⟩
      · -- Nothing after the first unit changes its file.
        obtain ⟨a, ha, rfl⟩ := hplace
        obtain rfl : a = first :=
          (List.mem_cons.1 ha).resolve_right fun hmem => hlater ⟨a, hmem, rfl⟩
        refine ⟨a, List.mem_cons_self, rfl, ?_⟩
        rw [changesOnly_writeArtifacts root units _ _ fun ⟨b, hb, hfile⟩ =>
          hlater ⟨b, hb, hfile.symm⟩]
        exact textAt?_after_writeArtifact hfirst

end Disk

end Companion
