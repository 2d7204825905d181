import Companion.Proofs.ArtifactPath
import Companion.Proofs.DiskChanges
import Mathlib.Data.List.Infix

/-!
# Which Units Lie Below the Output Directory

A unit is stored at the parts of its path, below the output directory. The parts come from names
that nobody restricts, and a part `..` leads one directory up. The namespace cannot hold one, since
it is cut at its points; but the name of a type and the names of its parameters can, next to a
slash. A unit stays below the output directory exactly when no beginning of its path has more steps
up than down, and that is so for all types whose names have no slashes.

## Main results

* `FilePath.isSome_descend?_iff`: when steps never leave the directory they start in.
* `isBelow_artifactFile_iff`: which units lie below the output directory.
* `TypeDef.staysInside_of_no_slash`: names without slashes do not lead out of it.
* `containment_iff`: the same for a run, and what writing its units changes on a disk.
* `climbing_name_leaves_root`: a run that writes a unit outside of the output directory.
-/

namespace Companion

/-! ### Steps -/

namespace FilePath

/-- A beginning of a list is empty, or it begins with the first item. -/
theorem forall_prefix_cons_iff {α : Type} {P : List α → Prop} {a : α} {l : List α} (h : P []) :
    (∀ before, before <+: a :: l → P before) ↔ ∀ before, before <+: l → P (a :: before) := by
  simp only [List.prefix_cons_iff]
  constructor
  · intro hall before hbefore
    exact hall _ (.inr ⟨before, rfl, hbefore⟩)
  · rintro hall _ (rfl | ⟨before, rfl, hbefore⟩)
    · exact h
    · exact hall before hbefore

/-- The steps of a path. -/
def steps (path : String) : List String := (Text.split '/' path).filter isStep

/-- Whether a path starts at the top and not at the working directory. -/
def isAbsolute (path : String) : Bool := path.toList.head? == some '/'

/-- Where steps lead below a directory if they never leave it. The names in `below` lead to where
they start, the last one first. -/
def descend? : List String → List String → Option (List String)
  | below, [] => some below.reverse
  | below, step :: rest =>
    if step = ".." then below.tail?.bind (descend? · rest) else descend? (step :: below) rest

/-- Whether a file lies strictly below a root: its steps are those of the root and more, and these
never leave the root and end below it. -/
structure IsBelow (root file : String) : Prop where
  isAbsolute_eq : isAbsolute file = isAbsolute root
  exists_way : ∃ way place, steps file = steps root ++ way ∧
    descend? [] way = some place ∧ place ≠ []

/-- Steps are taken one after the other. -/
theorem descend?_append (below way rest : List String) :
    descend? below (way ++ rest) =
      (descend? below way).bind fun place => descend? place.reverse rest := by
  induction way generalizing below with
  | nil => simp [descend?]
  | cons step way ih =>
      rw [List.cons_append, descend?, descend?]
      split
      · cases below with
        | nil => rfl
        | cons name above => exact ih above
      · exact ih (step :: below)

/-- **Steps never leave a directory** exactly when no beginning of them has more steps up than
there are steps down and directories to leave. -/
theorem isSome_descend?_iff {below way : List String} :
    (descend? below way).isSome ↔ ∀ before, before <+: way →
      before.count ".." ≤ before.countP (· != "..") + below.length := by
  induction way generalizing below with
  | nil => simp [descend?]
  | cons step way ih =>
      rw [forall_prefix_cons_iff (by simp), descend?]
      by_cases hup : step = ".."
      · subst hup
        rw [if_pos rfl]
        cases below with
        | nil =>
            refine iff_of_false (by simp) fun h => ?_
            simpa using h [] List.nil_prefix
        | cons name above =>
            refine ih.trans (forall₂_congr fun before _ => ?_)
            have hdown : (".." :: before).countP (· != "..") = before.countP (· != "..") :=
              List.countP_cons_of_neg (by simp)
            rw [List.count_cons_self, List.length_cons, hdown]
            omega
      · rw [if_neg hup, ih]
        refine forall₂_congr fun before _ => ?_
        rw [List.count_cons_of_ne hup, List.countP_cons_of_pos (by simpa using hup),
          List.length_cons]
        omega

/-- Where steps lead below a directory is where they lead on the disk. -/
theorem placeFrom_of_descend? {below way place : List String} (trail : List String)
    (hway : ∀ step ∈ way, isStep step = true) (h : descend? below way = some place) :
    placeFrom (below ++ trail) way = trail.reverse ++ place := by
  induction way generalizing below with
  | nil =>
      obtain rfl : below.reverse = place := Option.some.inj h
      simp [placeFrom]
  | cons step way ih =>
      obtain ⟨hstep, hway⟩ := List.forall_mem_cons.1 hway
      rw [descend?] at h
      rw [placeFrom, hstep, Bool.not_true, if_neg Bool.false_ne_true]
      by_cases hup : step = ".."
      · rw [if_pos hup] at h ⊢
        cases below with
        | nil => cases h
        | cons name above => exact ih hway h
      · rw [if_neg hup] at h ⊢
        exact ih hway h

/-- The place of a path is that of its steps. -/
theorem place_eq_placeFrom_steps (path : String) : place path = placeFrom [] (steps path) :=
  (placeFrom_filter [] (Text.split '/' path)).symm

/-- A file below a root is at a place below that of the root. -/
theorem IsBelow.exists_place {root file : String} (h : IsBelow root file) :
    ∃ rest, rest ≠ [] ∧ place file = place root ++ rest := by
  obtain ⟨way, rest, hsteps, hdescend, hne⟩ := h.exists_way
  have hway : ∀ step ∈ way, isStep step = true := fun step hmem =>
    List.of_mem_filter (hsteps ▸ List.mem_append_right (steps root) hmem)
  refine ⟨rest, hne, ?_⟩
  calc place file
      = placeFrom (placeFrom [] (steps root)).reverse way := by
        rw [place_eq_placeFrom_steps, hsteps, placeFrom_append]
    _ = placeFrom (place root).reverse way := by rw [place_eq_placeFrom_steps root]
    _ = place root ++ rest := by
        simpa using placeFrom_of_descend? (place root).reverse hway hdescend

/-! ### Names within directories -/

/-- A slash stands between steps. -/
theorem steps_append_slash (s t : String) : steps (s ++ "/" ++ t) = steps s ++ steps t := by
  rw [steps, Text.split_append rfl, List.filter_append, steps, steps]

/-- The steps to a name within a directory are those of the directory and of the name. -/
theorem steps_within (directory name : String) :
    steps (within directory name) = steps directory ++ steps name := by
  rw [within]
  split
  · next h =>
      rw [Bool.or_eq_true, beq_iff_eq, List.getLast?_eq_some_iff] at h
      rcases h with hempty | ⟨front, hfront⟩
      · obtain rfl : directory = "" := by simpa using hempty
        rw [String.empty_append]
        rfl
      · have hdirectory : directory = String.ofList front ++ "/" := by
          rw [← String.toList_inj, hfront, String.toList_append, String.toList_ofList]
          rfl
        have hsteps : steps directory = steps (String.ofList front) := by
          calc steps directory
              = steps (String.ofList front ++ "/" ++ "") := by
                rw [String.append_empty, hdirectory]
            _ = steps (String.ofList front) ++ steps "" := steps_append_slash _ _
            _ = steps (String.ofList front) := List.append_nil _
        rw [hsteps, ← steps_append_slash, hdirectory]
  · exact steps_append_slash directory name

/-- A name within a directory that has a path starts where the directory does. -/
theorem isAbsolute_within {directory : String} (h : directory ≠ "") (name : String) :
    isAbsolute (within directory name) = isAbsolute directory ∧ within directory name ≠ "" := by
  have happend : ∀ rest : String,
      isAbsolute (directory ++ rest) = isAbsolute directory ∧ directory ++ rest ≠ "" := by
    intro rest
    have hne : directory.toList ≠ [] := by simpa using h
    rw [isAbsolute, String.toList_append, List.head?_append_of_ne_nil _ hne, isAbsolute]
    exact ⟨rfl, by simp [h]⟩
  rw [within]
  split
  · exact happend name
  · rw [String.append_assoc]
    exact happend _

/-- The steps to names within each other, one after the other. -/
theorem steps_foldl_within (directory : String) (names : List String) :
    steps (names.foldl within directory) = steps directory ++ names.flatMap steps := by
  induction names generalizing directory with
  | nil => simp
  | cons name names ih =>
      rw [List.foldl_cons, ih, steps_within, List.append_assoc, List.flatMap_cons]

/-- Names within a directory that has a path start where the directory does. -/
theorem isAbsolute_foldl_within {directory : String} (h : directory ≠ "") (names : List String) :
    isAbsolute (names.foldl within directory) = isAbsolute directory := by
  induction names generalizing directory with
  | nil => rfl
  | cons name names ih =>
      obtain ⟨habsolute, hne⟩ := isAbsolute_within h name
      rw [List.foldl_cons, ih hne, habsolute]

/-- The steps of a part of a path. -/
theorem steps_of_mem_split {path part : String} (h : part ∈ Text.split '/' path) :
    steps part = [part].filter isStep := by
  rw [steps, Text.split_of_not_mem (Text.not_mem_of_mem_split h)]

end FilePath

/-! ### The files of units -/

/-- The steps to the file of a unit are those of the output directory and of its path. -/
theorem steps_artifactFile (root : String) (a : Artifact) :
    FilePath.steps (artifactFile root a) = FilePath.steps root ++ FilePath.steps a.path := by
  have hparts : (Text.split '/' a.path).flatMap FilePath.steps = FilePath.steps a.path := by
    rw [List.flatMap_congr fun _ => FilePath.steps_of_mem_split, ← List.filter_flatMap,
      List.flatMap_singleton']
    rfl
  rw [artifactFile, FilePath.steps_foldl_within, hparts]

/-- The file of a unit starts where the output directory does, if its path has a first part. -/
theorem isAbsolute_artifactFile (root : String) {a : Artifact} {first : String}
    {rest : List String} (h : Text.split '/' a.path = first :: rest) (hfirst : first ≠ "") :
    FilePath.isAbsolute (artifactFile root a) = FilePath.isAbsolute root := by
  rw [artifactFile, h]
  by_cases hroot : root = ""
  · have hslash : '/' ∉ first.toList := Text.not_mem_of_mem_split (h ▸ List.mem_cons_self)
    have hrelative : FilePath.isAbsolute first = false := by
      rw [FilePath.isAbsolute, beq_eq_false_iff_ne]
      exact fun hhead => hslash (List.mem_of_head? hhead)
    have hwithin : FilePath.within root first = first := by
      rw [hroot, FilePath.within, if_pos (by simp), String.empty_append]
    rw [List.foldl_cons, hwithin, FilePath.isAbsolute_foldl_within hfirst, hrelative, hroot]
    rfl
  · exact FilePath.isAbsolute_foldl_within hroot _

/-! ### The paths of types -/

namespace TypeDef

/-- The steps from the directory of a generator to that of a type. -/
def directorySteps (d : TypeDef) : List String := d.fileComponents.dropLast.filter FilePath.isStep

/-- Whether the way to the file of a type stays inside of the output directory: no beginning of it
has more steps up than steps down, the one into the directory of the generator included. -/
def StaysInside (d : TypeDef) : Prop :=
  ∀ before, before <+: d.directorySteps → before.count ".." ≤ before.countP (· != "..") + 1

instance (d : TypeDef) : Decidable d.StaysInside :=
  decidable_of_iff
    (∀ before ∈ d.directorySteps.inits, before.count ".." ≤ before.countP (· != "..") + 1)
    (by simp only [List.mem_inits, StaysInside])

/-- The parts of the path of a type: the directory of the generator, the directories of the type,
and a file. -/
theorem exists_split_artifactPath (generator : Generator) (d : TypeDef) :
    ∃ last, Text.split '/' (artifactPath generator d) =
      generator.name :: (d.fileComponents.dropLast ++ [last ++ ".g.cs"]) := by
  have hending : '/' ∉ ".g.cs".toList := by decide
  obtain ⟨before, last, hpath, hfile⟩ := Text.exists_split_append hending d.filePath
  have hcomponents : d.fileComponents = before ++ [last] := by
    rw [← hpath, filePath, Text.split_join rfl (by simp)]
    rfl
  have hname : Text.split '/' generator.name = [generator.name] := by
    cases generator <;> decide
  refine ⟨last, ?_⟩
  rw [artifactPath, String.append_assoc, Text.split_append rfl, hname, hfile, hcomponents,
    List.dropLast_concat]
  rfl

/-- A name with the ending of generated files is a step down. -/
theorem isStep_append_ending (name : String) :
    FilePath.isStep (name ++ ".g.cs") = true ∧ name ++ ".g.cs" ≠ ".." := by
  have hne : ∀ short : String, short.length < 5 → name ++ ".g.cs" ≠ short := by
    rintro _ hlength rfl
    have hending : ".g.cs".length = 5 := by decide
    rw [String.length_append, hending] at hlength
    omega
  refine ⟨?_, hne ".." (by decide)⟩
  rw [FilePath.isStep, Bool.and_eq_true, bne_iff_ne]
  exact ⟨by simp, hne "." (by decide)⟩

/-- The steps of the path of a type. -/
theorem exists_steps_artifactPath (generator : Generator) (d : TypeDef) :
    ∃ file, file ≠ ".." ∧ FilePath.steps (artifactPath generator d) =
      generator.name :: (d.directorySteps ++ [file]) := by
  obtain ⟨last, hsplit⟩ := d.exists_split_artifactPath generator
  obtain ⟨hstep, hdown⟩ := isStep_append_ending last
  have hname : FilePath.isStep generator.name = true := by cases generator <;> decide
  refine ⟨last ++ ".g.cs", hdown, ?_⟩
  rw [FilePath.steps, hsplit, List.filter_cons_of_pos hname, List.filter_append,
    List.filter_cons_of_pos hstep]
  rfl

/-- Where the path of a type leads, if the way to it stays inside. -/
theorem exists_descend?_artifactPath (generator : Generator) (d : TypeDef) :
    ∃ file, FilePath.descend? [] (FilePath.steps (artifactPath generator d)) =
      (FilePath.descend? [generator.name] d.directorySteps).map (· ++ [file]) := by
  obtain ⟨file, hdown, hsteps⟩ := d.exists_steps_artifactPath generator
  have hname : generator.name ≠ ".." := by cases generator <;> decide
  refine ⟨file, ?_⟩
  rw [hsteps, FilePath.descend?, if_neg hname, FilePath.descend?_append, Option.map_eq_bind]
  congr 1
  funext place
  rw [FilePath.descend?, if_neg hdown, FilePath.descend?, List.reverse_cons, List.reverse_reverse]
  rfl

/-- A type with names without slashes stays inside: a directory of its namespace has no points. -/
theorem staysInside_of_no_slash {d : TypeDef} (h : ∀ s ∈ d.ownNames, '/' ∉ s.toList) :
    d.StaysInside := by
  have hcomponents : d.fileComponents.dropLast = d.directories.flatMap (Text.split '/') := by
    rw [fileComponents, List.flatMap_append, List.flatMap_singleton,
      Text.split_of_not_mem (no_slash_fileSafeName h), List.dropLast_concat]
  have hpoint : ∀ part ∈ d.directories.flatMap (Text.split '/'), '.' ∉ part.toList := by
    intro part hpart
    obtain ⟨directory, hdirectory, hpart⟩ := List.mem_flatMap.1 hpart
    have hnone := Text.not_mem_of_mem_split (List.mem_of_mem_filter hdirectory)
    exact fun hmem => hnone (Text.subset_of_mem_split hpart hmem)
  intro before hbefore
  have hup : ".." ∉ before := by
    intro hmem
    have hpart := List.mem_of_mem_filter (hbefore.subset hmem)
    rw [hcomponents] at hpart
    exact hpoint ".." hpart (by decide)
  rw [List.count_eq_zero_of_not_mem hup]
  exact Nat.zero_le _

end TypeDef

/-- **The file of a unit lies below the output directory** exactly when the way to the file of its
type stays inside. -/
theorem isBelow_artifactFile_iff (root : String) {a : Artifact} {generator : Generator}
    {d : TypeDef} (h : a.path = artifactPath generator d) :
    FilePath.IsBelow root (artifactFile root a) ↔ d.StaysInside := by
  obtain ⟨file, hdescend⟩ := d.exists_descend?_artifactPath generator
  rw [← h] at hdescend
  have hsome : (FilePath.descend? [] (FilePath.steps a.path)).isSome ↔ d.StaysInside := by
    rw [hdescend, Option.isSome_map, FilePath.isSome_descend?_iff]
    rfl
  constructor
  · rintro ⟨-, way, place, hsteps, hplace, -⟩
    obtain rfl : FilePath.steps a.path = way :=
      List.append_cancel_left ((steps_artifactFile root a).symm.trans hsteps)
    exact hsome.1 (Option.isSome_of_eq_some hplace)
  · intro hinside
    obtain ⟨last, hsplit⟩ := d.exists_split_artifactPath generator
    rw [← h] at hsplit
    have hname : generator.name ≠ "" := by cases generator <;> decide
    obtain ⟨place, hplace⟩ := Option.isSome_iff_exists.1 (hsome.2 hinside)
    refine ⟨isAbsolute_artifactFile root hsplit hname, _, place, steps_artifactFile root a, hplace,
      ?_⟩
    rw [hdescend, Option.map_eq_some_iff] at hplace
    obtain ⟨above, -, rfl⟩ := hplace
    exact List.append_ne_nil_of_right_ne_nil above (List.cons_ne_nil file [])

/-! ### Writing units -/

/-- Whether writing units keeps to the output directory, from any disk: it changes texts at places
below it only, also when it fails on the way, and when it succeeds the file of each unit is below it
and holds the text of a unit with that file. -/
structure WritesBelow (root : String) (units : List Artifact) : Prop where
  changed : ∀ (disk : Disk) (place : List String),
    (disk.after (writeArtifacts root units).run).textAt? place ≠ disk.textAt? place →
      ∃ rest, rest ≠ [] ∧ place = FilePath.place root ++ rest
  written : ∀ (disk : Disk) (count : Nat),
    disk.outcome (writeArtifacts root units).run = .ok count →
      ∀ a ∈ units, ∃ rest, rest ≠ [] ∧
        FilePath.place (artifactFile root a) = FilePath.place root ++ rest ∧
        ∃ b ∈ units, FilePath.place (artifactFile root b) = FilePath.place (artifactFile root a) ∧
          (disk.after (writeArtifacts root units).run).textAt?
            (FilePath.place (artifactFile root a)) = some b.text

/-- Writing units whose files are below the output directory keeps to it. -/
theorem writesBelow_of_isBelow {root : String} {units : List Artifact}
    (h : ∀ a ∈ units, FilePath.IsBelow root (artifactFile root a)) : WritesBelow root units where
  changed disk place hchanged := by
    by_contra hnot
    refine hchanged (Disk.changesOnly_writeArtifacts root units disk place ?_)
    rintro ⟨a, ha, hplace⟩
    obtain ⟨rest, hne, hbelow⟩ := (h a ha).exists_place
    exact hnot ⟨rest, hne, hplace.trans hbelow⟩
  written disk count hcount a ha := by
    obtain ⟨rest, hne, hplace⟩ := (h a ha).exists_place
    exact ⟨rest, hne, hplace, Disk.exists_text_after_writeArtifacts hcount ⟨a, ha, rfl⟩⟩

/-- **The units of a run lie below the output directory**, whichever it is, exactly as far as the
ways to the files of their types stay inside. They do for types whose names have no slashes,
whatever their namespaces are; and if all of them do, writing the units keeps to the output
directory. -/
theorem containment_iff {c : Compilation} {engine : PatternEngine} {config : Config}
    {g : Generation} (hconfig : Config.resolve c engine = .ok config)
    (h : generate c engine = .ok g) :
    (∀ a ∈ g.artifacts, ∃ generator, ∃ d ∈ (Plan.of c config).targets generator,
      a.path = artifactPath generator d ∧
        ∀ root, FilePath.IsBelow root (artifactFile root a) ↔ d.StaysInside) ∧
    (∀ d : TypeDef, (∀ s ∈ d.ownNames, '/' ∉ s.toList) → d.StaysInside) ∧
    ((∀ generator, ∀ d ∈ (Plan.of c config).targets generator, d.StaysInside) →
      ∀ root, WritesBelow root g.artifacts) := by
  have hpath : ∀ a ∈ g.artifacts, ∃ generator, ∃ d ∈ (Plan.of c config).targets generator,
      a.path = artifactPath generator d := by
    intro a ha
    obtain ⟨generator, d, hd, rfl⟩ := Plan.exists_target_of_mem hconfig h ha
    exact ⟨generator, d, hd, Plan.path_artifact c config generator d⟩
  refine ⟨fun a ha => ?_, fun d hd => TypeDef.staysInside_of_no_slash hd, fun hinside root => ?_⟩
  · obtain ⟨generator, d, hd, hpath⟩ := hpath a ha
    exact ⟨generator, d, hd, hpath, fun root => isBelow_artifactFile_iff root hpath⟩
  · refine writesBelow_of_isBelow fun a ha => ?_
    obtain ⟨generator, d, hd, hpath⟩ := hpath a ha
    exact (isBelow_artifactFile_iff root hpath).2 (hinside generator d hd)

/-- The unit of `Box` is written below the output directory `out`. -/
theorem box_written_below :
    ∃ c config g, Compilation.ofProgram (.onSmallCore [namedBox "Box" []]) = .ok c ∧
      Config.resolve c = .ok config ∧ generate c = .ok g ∧
      g.paths = ["EqualityGenerator/Shop/Box.g.cs"] ∧ WritesBelow "out" g.artifacts := by
  obtain ⟨c, config, g, hc, hconfig, hg, hcheck⟩ :=
    Program.exists_run (.onSmallCore [namedBox "Box" []])
      (fun c _ g => decide (g.paths = ["EqualityGenerator/Shop/Box.g.cs"] ∧
        ∀ d ∈ c.types, d.StaysInside)) (by decide +kernel)
  obtain ⟨hpaths, hinside⟩ := of_decide_eq_true hcheck
  exact ⟨c, config, g, hc, hconfig, hg, hpaths, (containment_iff hconfig hg).2.2
    (fun _ d hd => hinside d (Plan.mem_targets_iff.1 hd).1) "out"⟩

/-- **A type named `../../../Order` leaves the output directory**: its file is not below `out`, and
writing it to an empty disk puts its text beside `out`. -/
theorem climbing_name_leaves_root :
    ∃ c config g a,
      Compilation.ofProgram (.onSmallCore [namedBox "../../../Order" []]) = .ok c ∧
      Config.resolve c = .ok config ∧ generate c = .ok g ∧ g.artifacts = [a] ∧
      artifactFile "out" a = "out/EqualityGenerator/Shop/../../../Order.g.cs" ∧
      ¬ FilePath.IsBelow "out" (artifactFile "out" a) ∧
      (Disk.after {} (writeArtifacts "out" g.artifacts).run).textAt? ["Order.g.cs"] = some a.text ∧
      ¬ WritesBelow "out" g.artifacts := by
  obtain ⟨c, config, g, hc, hconfig, hg, hcheck⟩ :=
    Program.exists_run (.onSmallCore [namedBox "../../../Order" []])
      (fun _ _ g => g.paths = ["EqualityGenerator/Shop/../../../Order.g.cs"] &&
        (Disk.outcome {} (writeArtifacts "out" g.artifacts).run).isOk) (by decide +kernel)
  rw [Bool.and_eq_true, decide_eq_true_iff, Generation.paths, List.map_eq_singleton_iff] at hcheck
  obtain ⟨⟨a, hunits, hpath⟩, hok⟩ := hcheck
  have hfile : artifactFile "out" a = "out/EqualityGenerator/Shop/../../../Order.g.cs" := by
    rw [artifactFile, hpath]
    decide +kernel
  have hplace : FilePath.place (artifactFile "out" a) = ["Order.g.cs"] := by
    rw [hfile]
    decide +kernel
  have htext : (Disk.after {} (writeArtifacts "out" g.artifacts).run).textAt? ["Order.g.cs"] =
      some a.text := by
    cases hcount : Disk.outcome {} (writeArtifacts "out" g.artifacts).run with
    | error e => simp [hcount, Except.isOk, Except.toBool] at hok
    | ok count =>
        obtain ⟨b, hb, -, htext⟩ := Disk.exists_text_after_writeArtifacts hcount
          ⟨a, by simp [hunits], hplace⟩
        obtain rfl : b = a := by simpa [hunits] using hb
        exact htext
  refine ⟨c, config, g, a, hc, hconfig, hg, hunits, hfile, ?_, htext, fun hwrites => ?_⟩
  · have hpath : a.path = artifactPath .equality (namedBox "../../../Order" []) := by
      rw [hpath]
      decide +kernel
    rw [isBelow_artifactFile_iff "out" hpath]
    decide +kernel
  · have hbefore : Disk.textAt? {} ["Order.g.cs"] = none := rfl
    obtain ⟨rest, -, hrest⟩ := hwrites.changed {} ["Order.g.cs"] (by rw [htext, hbefore]; simp)
    have hout : FilePath.place "out" = ["out"] := by decide +kernel
    rw [hout, List.singleton_append, List.cons.injEq] at hrest
    exact absurd hrest.1 (by decide)

end Companion
