import Companion.Proofs.Generation
import Companion.Proofs.Text

/-!
# When Two Units Share a File

The path of a unit is the name of its generator, a directory for each segment of the namespace,
and a file name made of the name of the type and the names of its type parameters with
underscores between them. Neither the number of parameters nor the place where the name ends is
written down, so two types can have one file: `Box_T`, and `Box` with a parameter `T`.

This module says exactly when that happens. Generators never meet, since the path starts with
their name. Within a generator two types share a file exactly when their paths have the same
components, and for names free of separators that means: the same namespace, and the same list
of pieces when the name and the parameter names are cut at their underscores.

## Main results

* `artifactPath_eq_iff`: two paths are equal exactly for one generator and one file.
* `TypeDef.sharesFile_iff`: when plainly named types share a file.
* `nodup_artifact_paths_iff`: the paths of a run are distinct exactly when no generator visits
  two types that share a file.
* `box_paths_coincide`: a run of plainly named types whose paths are not distinct.
-/

namespace Companion

namespace TypeDef

/-- The names that the file name of a type is made of: its own and those of its parameters. -/
def ownNames (d : TypeDef) : List String := d.name :: d.parameterNames

/-- What underscores separate in the file name of a type. -/
def namePieces (d : TypeDef) : List String := d.ownNames.flatMap (Text.split '_')

/-- The directories of a type, one for each non-empty segment of its namespace. -/
def directories (d : TypeDef) : List String :=
  (Text.split '.' d.namespace).filter (!·.isEmpty)

/-- The components of the path of a type. -/
def fileComponents (d : TypeDef) : List String :=
  (d.directories ++ [d.fileSafeName]).flatMap (Text.split '/')

/-- Whether the units of two types go to one file. -/
def SharesFile (d e : TypeDef) : Prop := d.fileComponents = e.fileComponents

instance (d e : TypeDef) : Decidable (d.SharesFile e) :=
  inferInstanceAs (Decidable (d.fileComponents = e.fileComponents))

/-- The file name joins the names by underscores, whether there are parameters or not. -/
theorem fileSafeName_eq_join (d : TypeDef) : d.fileSafeName = Text.join "_" d.ownNames := by
  cases hparams : d.typeParameters with
  | nil => simp [fileSafeName, ownNames, parameterNames, hparams, Text.join]
  | cons p ps =>
      have hne : d.parameterNames ≠ [] := by simp [parameterNames, hparams]
      simp [fileSafeName, ownNames, hparams, Text.join,
        String.intercalate_cons_of_ne_nil hne]

/-- Two types have one file path exactly when its components are the same. -/
theorem filePath_eq_iff {d e : TypeDef} : d.filePath = e.filePath ↔ d.SharesFile e := by
  rw [filePath, SharesFile, fileComponents]
  exact Text.join_eq_join_iff rfl (by simp) (by simp)

/-- Two file names are equal exactly when their pieces are. -/
theorem fileSafeName_eq_iff {d e : TypeDef} :
    d.fileSafeName = e.fileSafeName ↔ d.namePieces = e.namePieces := by
  rw [fileSafeName_eq_join, fileSafeName_eq_join]
  exact Text.join_eq_join_iff rfl (by simp [ownNames]) (by simp [ownNames])

/-- Names without slashes make a file name without slashes. -/
theorem no_slash_fileSafeName {d : TypeDef} (h : ∀ s ∈ d.ownNames, '/' ∉ s.toList) :
    '/' ∉ d.fileSafeName.toList := by
  rw [fileSafeName_eq_join]
  intro hmem
  rcases Text.mem_toList_join hmem with hslash | ⟨s, hs, hslash⟩
  · simp at hslash
  · exact h s hs hslash

end TypeDef

/-! ### Names without separators -/

/-- A name that holds no separator of namespaces or paths; every identifier is one. -/
structure IsPlainName (s : String) : Prop where
  nonempty : s.isEmpty = false
  no_point : '.' ∉ s.toList
  no_slash : '/' ∉ s.toList

instance (s : String) : Decidable (IsPlainName s) :=
  decidable_of_iff (s.isEmpty = false ∧ '.' ∉ s.toList ∧ '/' ∉ s.toList)
    ⟨fun ⟨hne, hpoint, hslash⟩ => ⟨hne, hpoint, hslash⟩,
      fun ⟨hne, hpoint, hslash⟩ => ⟨hne, hpoint, hslash⟩⟩

namespace TypeDef

/-- Whether a type is named by plain names: the segments of its namespace, if it has one, its own
name and the names of its parameters. -/
structure PlainlyNamed (d : TypeDef) : Prop where
  segments : d.namespace = "" ∨ ∀ s ∈ Text.split '.' d.namespace, IsPlainName s
  names : ∀ s ∈ d.ownNames, IsPlainName s

instance (d : TypeDef) : Decidable d.PlainlyNamed :=
  decidable_of_iff
    ((d.namespace = "" ∨ ∀ s ∈ Text.split '.' d.namespace, IsPlainName s) ∧
      ∀ s ∈ d.ownNames, IsPlainName s)
    ⟨fun ⟨hsegments, hnames⟩ => ⟨hsegments, hnames⟩,
      fun ⟨hsegments, hnames⟩ => ⟨hsegments, hnames⟩⟩

variable {d e : TypeDef}

/-- The directories of a plain namespace are its segments; the global one has none. -/
theorem PlainlyNamed.directories_eq (h : d.PlainlyNamed) :
    d.directories = if d.namespace = "" then [] else Text.split '.' d.namespace := by
  rcases h.segments with hglobal | hplain
  · simp [directories, hglobal, Text.split, Text.splitChars]
  · have hne : d.namespace ≠ "" := by
      intro hempty
      have := (hplain "" (by simp [hempty, Text.split, Text.splitChars])).nonempty
      simp at this
    rw [if_neg hne, directories, List.filter_eq_self]
    intro s hs
    simp [(hplain s hs).nonempty]

/-- Plain namespaces have the same directories only when they are equal. -/
theorem PlainlyNamed.directories_inj (hd : d.PlainlyNamed) (he : e.PlainlyNamed) :
    d.directories = e.directories ↔ d.namespace = e.namespace := by
  refine ⟨fun h => ?_, fun h => by simp [directories, h]⟩
  rw [hd.directories_eq, he.directories_eq] at h
  by_cases hdn : d.namespace = "" <;> by_cases hen : e.namespace = ""
  · rw [hdn, hen]
  · rw [if_pos hdn, if_neg hen] at h
    exact absurd h.symm (Text.split_ne_nil '.' e.namespace)
  · rw [if_neg hdn, if_pos hen] at h
    exact absurd h (Text.split_ne_nil '.' d.namespace)
  · rw [if_neg hdn, if_neg hen] at h
    exact Text.split_inj.1 h

/-- A directory of a plain namespace is one component. -/
theorem PlainlyNamed.no_slash_directories (h : d.PlainlyNamed) :
    ∀ s ∈ d.directories, '/' ∉ s.toList := by
  intro s hs
  rw [h.directories_eq] at hs
  split at hs
  · cases hs
  · next hne =>
      exact (h.segments.resolve_left hne s hs).no_slash

/-- The file name of a plainly named type is one component. -/
theorem PlainlyNamed.no_slash_fileSafeName (h : d.PlainlyNamed) :
    '/' ∉ d.fileSafeName.toList :=
  TypeDef.no_slash_fileSafeName fun s hs => (h.names s hs).no_slash

/-- The components of a plainly named type are its directories and its file name. -/
theorem PlainlyNamed.fileComponents_eq (h : d.PlainlyNamed) :
    d.fileComponents = d.directories ++ [d.fileSafeName] := by
  have hsplit : ∀ s ∈ d.directories ++ [d.fileSafeName], Text.split '/' s = [s] := by
    intro s hs
    rcases List.mem_append.1 hs with hdir | hfile
    · exact Text.split_of_not_mem (h.no_slash_directories s hdir)
    · rw [List.mem_singleton.1 hfile]
      exact Text.split_of_not_mem h.no_slash_fileSafeName
  rw [fileComponents, List.flatMap_congr hsplit, List.flatMap_singleton']

/-- **Plainly named types share a file** exactly when they have one namespace and their names,
cut at the underscores, are the same list of pieces. -/
theorem sharesFile_iff (hd : d.PlainlyNamed) (he : e.PlainlyNamed) :
    d.SharesFile e ↔ d.namespace = e.namespace ∧ d.namePieces = e.namePieces := by
  rw [SharesFile]
  rw [hd.fileComponents_eq, he.fileComponents_eq, List.append_singleton_inj,
    hd.directories_inj he, fileSafeName_eq_iff]

end TypeDef

/-! ### The paths of a run -/

/-- A path starts with the first letter of its generator. -/
theorem head?_artifactPath (generator : Generator) (d : TypeDef) :
    (artifactPath generator d).toList.head? = generator.name.toList.head? := by
  cases generator <;> simp [artifactPath, Generator.name]

/-- The generators are told apart by their first letter. -/
theorem Generator.eq_of_head?_name {G H : Generator}
    (h : G.name.toList.head? = H.name.toList.head?) : G = H := by
  cases G <;> cases H <;> revert h <;> decide

/-- **Two paths are equal** exactly for one generator and one file. -/
theorem artifactPath_eq_iff {G H : Generator} {d e : TypeDef} :
    artifactPath G d = artifactPath H e ↔ G = H ∧ d.SharesFile e := by
  rw [← TypeDef.filePath_eq_iff]
  constructor
  · intro h
    have hGH : G = H := by
      apply Generator.eq_of_head?_name
      rw [← head?_artifactPath G d, h, head?_artifactPath]
    subst hGH
    refine ⟨rfl, ?_⟩
    simpa [artifactPath, String.append_assoc, String.append_right_inj,
      String.append_left_inj] using h
  · rintro ⟨rfl, h⟩
    rw [artifactPath, artifactPath, h]

/-- The paths of a plan, generator after generator. -/
theorem Plan.map_path_artifacts (plan : Plan) (c : Compilation) (config : Config) :
    (plan.artifacts c config).map (·.path) =
      [Generator.equality, .immutable, .lifecycle].flatMap fun generator =>
        (plan.targets generator).map (artifactPath generator) := by
  simp [Plan.artifacts, Plan.targets, Pass.equalityArtifact, Pass.immutableArtifact,
    Compilation.lifecycleArtifact, Artifact.of, Function.comp_def]

/-- A generator writes to distinct paths exactly when it visits no two types that share a
file. -/
theorem Plan.nodup_map_artifactPath_iff {c : Compilation} {config : Config}
    {generator : Generator} :
    (((Plan.of c config).targets generator).map (artifactPath generator)).Nodup ↔
      ∀ d ∈ (Plan.of c config).targets generator,
        ∀ e ∈ (Plan.of c config).targets generator,
          d.fullName ≠ e.fullName → ¬ d.SharesFile e := by
  have hnames := Plan.nodup_map_fullName_targets c config generator
  rw [List.nodup_map_iff_inj_on hnames.of_map]
  constructor
  · intro hinj d hd e he hne hshare
    exact hne (congrArg _ (hinj d hd e he (artifactPath_eq_iff.2 ⟨rfl, hshare⟩)))
  · intro hapart d hd e he hpath
    by_contra hne
    refine hapart d hd e he (fun hname => hne ?_) (artifactPath_eq_iff.1 hpath).2
    exact List.inj_on_of_nodup_map hnames hd he hname

/-- Units of two generators never share a path. -/
theorem Plan.disjoint_map_artifactPath {G H : Generator} (h : G ≠ H) (ds es : List TypeDef) :
    (ds.map (artifactPath G)).Disjoint (es.map (artifactPath H)) := by
  intro path hG hH
  obtain ⟨d, -, rfl⟩ := List.mem_map.1 hG
  obtain ⟨e, -, hpath⟩ := List.mem_map.1 hH
  exact h (artifactPath_eq_iff.1 hpath).1.symm

/-- **The paths of a run are distinct** exactly when no generator visits two types that share a
file; types named by plain names share a file exactly when they have one namespace and the same
pieces between underscores. -/
theorem nodup_artifact_paths_iff {c : Compilation} {engine : PatternEngine} {config : Config}
    {g : Generation} (hconfig : Config.resolve c engine = .ok config)
    (h : generate c engine = .ok g) :
    (g.paths.Nodup ↔
      ∀ generator, ∀ d ∈ (Plan.of c config).targets generator,
        ∀ e ∈ (Plan.of c config).targets generator,
          d.fullName ≠ e.fullName → ¬ d.SharesFile e) ∧
    ∀ d e : TypeDef, d.PlainlyNamed → e.PlainlyNamed →
      (d.SharesFile e ↔ d.namespace = e.namespace ∧ d.namePieces = e.namePieces) := by
  refine ⟨?_, fun d e hd he => TypeDef.sharesFile_iff hd he⟩
  rw [Generation.paths, artifacts_eq_of_generate hconfig h, Plan.map_path_artifacts,
    List.nodup_flatMap]
  constructor
  · rintro ⟨hgroups, -⟩ generator
    exact Plan.nodup_map_artifactPath_iff.1 (hgroups generator (by cases generator <;> simp))
  · intro hapart
    refine ⟨fun generator _ => Plan.nodup_map_artifactPath_iff.2 (hapart generator), ?_⟩
    have hdistinct : [Generator.equality, .immutable, .lifecycle].Pairwise (· ≠ ·) := by decide
    exact hdistinct.imp fun hne => Plan.disjoint_map_artifactPath hne _ _

/-- A class that asks for equality, by its name and the names of its parameters. -/
def namedBox (name : String) (params : List String) : TypeDef where
  «namespace» := "Shop"
  name := name
  typeParameters := params.map fun p => { name := p }
  isPartial := true
  attributes := [{ className := Vocabulary.generatedEquality }]

/-- `Box` and `Box<T>` have files of their own, so a run over both satisfies either side. -/
theorem nodup_paths_of_arities :
    ∃ c config g,
      Compilation.ofProgram (.onSmallCore [namedBox "Box" [], namedBox "Box" ["T"]]) = .ok c ∧
      Config.resolve c = .ok config ∧ generate c = .ok g ∧
      g.paths.Nodup ∧
      ∀ generator, ∀ d ∈ (Plan.of c config).targets generator,
        ∀ e ∈ (Plan.of c config).targets generator,
          d.fullName ≠ e.fullName → ¬ d.SharesFile e := by
  obtain ⟨c, config, g, hc, hconfig, hg, hpaths⟩ :=
    Program.exists_run (.onSmallCore [namedBox "Box" [], namedBox "Box" ["T"]])
      (fun _ _ g => decide g.paths.Nodup) (by decide +kernel)
  have hnodup := of_decide_eq_true hpaths
  exact ⟨c, config, g, hc, hconfig, hg, hnodup,
    (nodup_artifact_paths_iff hconfig hg).1.1 hnodup⟩

/-- **`Box_T` and `Box<T>` share a file**: the run writes two units to one path, though all names
are plain. -/
theorem box_paths_coincide :
    ∃ c config g,
      Compilation.ofProgram (.onSmallCore [namedBox "Box_T" [], namedBox "Box" ["T"]]) = .ok c ∧
      Config.resolve c = .ok config ∧ generate c = .ok g ∧
      (∀ d ∈ c.types, d.PlainlyNamed) ∧
      (namedBox "Box_T" []).fullName ≠ (namedBox "Box" ["T"]).fullName ∧
      g.paths =
        ["EqualityGenerator/Shop/Box_T.g.cs", "EqualityGenerator/Shop/Box_T.g.cs"] ∧
      ¬ g.paths.Nodup := by
  obtain ⟨c, config, g, hc, hconfig, hg, hcheck⟩ :=
    Program.exists_run (.onSmallCore [namedBox "Box_T" [], namedBox "Box" ["T"]])
      (fun c _ g => decide ((∀ d ∈ c.types, d.PlainlyNamed) ∧
        g.paths = ["EqualityGenerator/Shop/Box_T.g.cs", "EqualityGenerator/Shop/Box_T.g.cs"]))
      (by decide +kernel)
  obtain ⟨hplain, hpaths⟩ := of_decide_eq_true hcheck
  refine ⟨c, config, g, hc, hconfig, hg, hplain, by decide +kernel, hpaths, ?_⟩
  rw [hpaths]
  decide

end Companion
