import Companion.Generation
import Companion.Proofs.Lookup

/-!
# Runs of the Generators

A run of `generate` is taken apart once here: its units are those of the plan for the resolved
configuration, and the plan lists types of the compilation that are declared in the sources, each
once. Everything proved about runs starts from these facts.

`Program.satisfies` runs a program and checks the result; it is how facts about single programs
are computed.

## Main results

* `generate_eq_ok_iff`: when generation succeeds, and what it gives then.
* `Plan.mem_targets_iff`: which types a generator visits.
* `Plan.nodup_map_fullName_targets`: no generator visits two types of one metadata name.
* `Plan.artifact_mem`, `Plan.exists_target_of_mem`: the units of a run are those of the targets.
* `Program.exists_run`: a program that satisfies a check has a run that does.
-/

namespace Companion

/-! ### The parts of a run -/

/-- **Generation succeeds** exactly when no well-known type is missing and the configuration can
be read; its units are then those of the plan. -/
theorem generate_eq_ok_iff {c : Compilation} {engine : PatternEngine} {g : Generation} :
    generate c engine = .ok g ↔
      c.requireWellKnownTypes = .ok () ∧
        ∃ config, Config.resolve c engine = .ok config ∧
          g = ⟨(Plan.of c config).artifacts c config⟩ := by
  cases hknown : c.requireWellKnownTypes with
  | error e => simp [generate, hknown, Except.mapError, bind, Except.bind]
  | ok u =>
      cases hconfig : Config.resolve c engine with
      | error e => simp [generate, hknown, hconfig, Except.mapError, bind, Except.bind]
      | ok config =>
          simp [generate, hknown, hconfig, Except.mapError, bind, Except.bind, pure,
            Except.pure, eq_comm]

/-- The units of a run are those of the plan for its configuration. -/
theorem artifacts_eq_of_generate {c : Compilation} {engine : PatternEngine} {config : Config}
    {g : Generation} (hconfig : Config.resolve c engine = .ok config)
    (h : generate c engine = .ok g) :
    g.artifacts = (Plan.of c config).artifacts c config := by
  obtain ⟨-, config', hconfig', rfl⟩ := generate_eq_ok_iff.1 h
  rw [hconfig] at hconfig'
  cases hconfig'
  rfl

/-- The paths of the units, in order. -/
def Generation.paths (g : Generation) : List String := g.artifacts.map (·.path)

namespace Plan

/-! ### The types of a plan -/

/-- The types that a generator visits. -/
def targets (plan : Plan) : Generator → List TypeDef
  | .equality => plan.equality
  | .immutable => plan.immutable
  | .lifecycle => plan.lifecycle

/-- Whether a type asks for the unit of a generator. -/
def wants (c : Compilation) (config : Config) : Generator → TypeDef → Bool
  | .equality => wantsEquality c config
  | .immutable => c.requestsImmutable
  | .lifecycle => (·.requestsLifecycle)

theorem targets_of (c : Compilation) (config : Config) (generator : Generator) :
    (Plan.of c config).targets generator = select c (wants c config generator) := by
  cases generator <;> rfl

/-- A selection holds the types of the sources that satisfy the condition. -/
theorem mem_select {c : Compilation} {wanted : TypeDef → Bool} {d : TypeDef} :
    d ∈ select c wanted ↔ d ∈ c.types ∧ d.origin = .source ∧ wanted d = true := by
  simp only [select, (TypeDef.inOrder_perm _).mem_iff, List.mem_filter, beq_iff_eq, and_assoc]

/-- A selection holds no two types of one metadata name. -/
theorem nodup_map_fullName_select (c : Compilation) (wanted : TypeDef → Bool) :
    ((select c wanted).map (·.fullName)).Nodup := by
  have hperm := (TypeDef.inOrder_perm
    ((c.types.filter (·.origin == .source)).filter wanted)).map (·.fullName)
  refine hperm.nodup_iff.2 (c.nodup_map_fullName.sublist (List.Sublist.map _ ?_))
  exact List.filter_sublist.trans List.filter_sublist

/-- **A generator visits** the types of the sources that ask for its unit. -/
theorem mem_targets_iff {c : Compilation} {config : Config} {generator : Generator}
    {d : TypeDef} :
    d ∈ (Plan.of c config).targets generator ↔
      d ∈ c.types ∧ d.origin = .source ∧ wants c config generator d = true := by
  rw [targets_of, mem_select]

/-- A type is a target exactly when its name is that of one. -/
theorem mem_targets_iff_fullName_mem {c : Compilation} {config : Config} (generator : Generator)
    {d : TypeDef} (hd : d ∈ c.types) :
    d ∈ (Plan.of c config).targets generator ↔
      d.fullName ∈ ((Plan.of c config).targets generator).map (·.fullName) := by
  refine ⟨fun h => List.mem_map_of_mem h, fun h => ?_⟩
  obtain ⟨e, he, hname⟩ := List.mem_map.1 h
  have htypes : e ∈ c.types := (mem_targets_iff.1 he).1
  rwa [← Compilation.eq_of_fullName_eq htypes hd hname]

/-- **No generator visits two types of one metadata name.** -/
theorem nodup_map_fullName_targets (c : Compilation) (config : Config)
    (generator : Generator) :
    (((Plan.of c config).targets generator).map (·.fullName)).Nodup := by
  rw [targets_of]
  exact nodup_map_fullName_select c _

end Plan

/-! ### The units of a run -/

/-- The unit that a generator writes for a type, in a run over a compilation. -/
def Plan.artifact (c : Compilation) (config : Config) : Generator → TypeDef → Artifact
  | .equality =>
    (⟨c, config, targetNames (Plan.of c config).equality⟩ : Pass).equalityArtifact
  | .immutable =>
    (⟨c, config, targetNames (Plan.of c config).immutable⟩ : Pass).immutableArtifact
  | .lifecycle => c.lifecycleArtifact

/-- **A target has its unit** among those of the run. -/
theorem Plan.artifact_mem (generator : Generator) {c : Compilation} {engine : PatternEngine}
    {config : Config} {g : Generation} (hconfig : Config.resolve c engine = .ok config)
    (h : generate c engine = .ok g) {d : TypeDef}
    (hd : d ∈ (Plan.of c config).targets generator) :
    artifact c config generator d ∈ g.artifacts := by
  rw [artifacts_eq_of_generate hconfig h]
  cases generator with
  | equality => exact List.mem_append_left _ (List.mem_append_left _ (List.mem_map_of_mem hd))
  | immutable => exact List.mem_append_left _ (List.mem_append_right _ (List.mem_map_of_mem hd))
  | lifecycle => exact List.mem_append_right _ (List.mem_map_of_mem hd)

/-- The units of a run are those of targets. -/
theorem Plan.exists_target_of_mem {c : Compilation} {engine : PatternEngine} {config : Config}
    {g : Generation} (hconfig : Config.resolve c engine = .ok config)
    (h : generate c engine = .ok g) {a : Artifact} (ha : a ∈ g.artifacts) :
    ∃ generator, ∃ d ∈ (Plan.of c config).targets generator, a = artifact c config generator d := by
  rw [artifacts_eq_of_generate hconfig h] at ha
  simp only [Plan.artifacts, List.mem_append, List.mem_map] at ha
  obtain (⟨d, hd, rfl⟩ | ⟨d, hd, rfl⟩) | ⟨d, hd, rfl⟩ := ha
  · exact ⟨.equality, d, hd, rfl⟩
  · exact ⟨.immutable, d, hd, rfl⟩
  · exact ⟨.lifecycle, d, hd, rfl⟩

/-- The path of a unit follows from its generator and its target. -/
theorem Plan.path_artifact (c : Compilation) (config : Config) (generator : Generator)
    (d : TypeDef) : (artifact c config generator d).path = artifactPath generator d := by
  cases generator <;> rfl

/-! ### Runs of single programs -/

namespace Program

/-- Whether a program generates, and its compilation, configuration and units pass a check. -/
def satisfies (p : Program) (check : Compilation → Config → Generation → Bool) : Bool :=
  match Compilation.ofProgram p with
  | .error _ => false
  | .ok c =>
    match Config.resolve c, generate c with
    | .ok config, .ok g => check c config g
    | _, _ => false

/-- A program that satisfies a check has a run that does. -/
theorem exists_run (p : Program) (check : Compilation → Config → Generation → Bool)
    (h : p.satisfies check = true) :
    ∃ c config g, Compilation.ofProgram p = .ok c ∧ Config.resolve c = .ok config ∧
      generate c = .ok g ∧ check c config g = true := by
  rw [satisfies] at h
  split at h
  · cases h
  · next c hc =>
      split at h
      · next config g hconfig hg => exact ⟨c, config, g, hc, hconfig, hg, h⟩
      · cases h

/-- A type compiled elsewhere of which only the name matters. -/
def stub («namespace» name : String) (params : List TypeParameter := []) : TypeDef where
  «namespace» := «namespace»
  name := name
  typeParameters := params
  accessibility := .public
  origin := .metadata

/-- A program of the given types on the smallest core that generation accepts. -/
def onSmallCore (types : List TypeDef) : Program where
  includesCoreLibrary := false
  types :=
    ["Object", "ValueType", "Boolean", "Int32", "String", "Enum", "Array"].map (stub "System") ++
      [stub "System.Collections" "ICollection", stub "System" "IEquatable" [{ name := "T" }]] ++
      types

end Program

end Companion
