import Companion.Proofs.CompiledEntities

/-!
# Properties of a Parameter's Type

Whether a type parameter is immutable is asked in two ways. The immutability check takes the
constraints for alternatives: a value of the type meets all of them, so one that is immutable is
enough. Validation takes them for parts: it examines each constraint, and reports each that cannot
be held. So validation accepts less. The two agree on a parameter with one constraint that may be
held, and whenever all constraints may be.

## Main results

* `mayHold_parameter_iff`: a parameter may be held if it has constraints and all of them may be.
* `parameter_accepted_iff`: when validation and the immutability check agree about a property of a
  parameter's type.
* `second_constraint_refused`: a parameter that is immutable by one constraint and reported for the
  other.
-/

namespace Companion

namespace Pass

variable {pass : Pass} {d : TypeDef}

/-- A parameter may be held if it has constraints, and all of them may be held. -/
theorem mayHold_parameter_iff {name : String} :
    pass.MayHold d (.parameter name) ↔ constraintsOf d.typeParameters name ≠ [] ∧
      ∀ constraint ∈ constraintsOf d.typeParameters name, pass.MayHold d constraint := by
  rw [mayHold_iff]
  constructor
  · rintro ⟨hself, hconstraints⟩
    exact ⟨hself.constrained name rfl, hconstraints⟩
  · rintro ⟨hsome, hconstraints⟩
    obtain ⟨constraint, hconstraint⟩ := List.exists_mem_of_ne_nil _ hsome
    have himmutable := (hconstraints constraint hconstraint constraint .refl).immutable
    refine ⟨⟨?_, fun definition hresolve => ?_, ?_⟩, hconstraints⟩
    · exact Compilation.mem_immutableRefs_iff.2 ⟨constraint, hconstraint, himmutable⟩
    · simp [Compilation.resolve?, TypeRef.definitionName?] at hresolve
    · rintro _ ⟨⟩
      exact hsome

/-- **A property of a parameter's type**, the parameter having a constraint. Validation reports no
error for the property exactly if every constraint may be held. The immutability check then accepts
the parameter, but it may accept it otherwise: the two agree exactly if, provided that the check
accepts the parameter, every constraint may be held. -/
theorem parameter_accepted_iff (pass : Pass) (d : TypeDef) {p : Property} {name : String}
    (hstatic : p.isStatic = false) (hindexer : p.isIndexer = false)
    (hsetter : p.hasSetter = false) (htype : p.type = .parameter name)
    (hconstrained : constraintsOf d.typeParameters name ≠ []) :
    (NoError (pass.validateProperty d p) ↔
        ∀ constraint ∈ constraintsOf d.typeParameters name, pass.MayHold d constraint) ∧
      (NoError (pass.validateProperty d p) →
        pass.compilation.isImmutable d.typeParameters pass.config.rules p.type = true) ∧
      ((NoError (pass.validateProperty d p) ↔
          pass.compilation.isImmutable d.typeParameters pass.config.rules p.type = true) ↔
        (pass.compilation.isImmutable d.typeParameters pass.config.rules p.type = true →
          ∀ constraint ∈ constraintsOf d.typeParameters name, pass.MayHold d constraint)) := by
  have hreported : NoError (pass.validateProperty d p) ↔ pass.MayHold d p.type := by
    rw [noError_validateProperty]
    exact ⟨fun h => (h hstatic).2.2, fun h _ => ⟨hindexer, hsetter, h⟩⟩
  have hheld : NoError (pass.validateProperty d p) ↔
      ∀ constraint ∈ constraintsOf d.typeParameters name, pass.MayHold d constraint := by
    rw [hreported, htype, mayHold_parameter_iff]
    exact and_iff_right hconstrained
  have hsound : NoError (pass.validateProperty d p) →
      pass.compilation.isImmutable d.typeParameters pass.config.rules p.type = true :=
    fun h => Compilation.isImmutable_of_mem_immutableRefs (hreported.1 h p.type .refl).immutable
  exact ⟨hheld, hsound, fun h himmutable => hheld.1 (h.2 himmutable),
    fun h => ⟨hsound, fun himmutable => hheld.2 (h himmutable)⟩⟩

end Pass

/-- An interface compiled elsewhere, with the attributes given. -/
def compiledInterface (name : String) (attributes : List Attribute) : TypeDef :=
  { Program.stub "Lib" name with kind := .interface, attributes := attributes }

/-- An entity `Box` with a property of the type of its parameter, which has the constraints
given. -/
def constrainedBox (constraints : List TypeRef) : TypeDef where
  «namespace» := "Shop"
  name := "Box"
  typeParameters := [{ name := "T", constraints }]
  isPartial := true
  attributes := [{ className := Vocabulary.generatedImmutable }]
  members := [.property { name := "Value", type := .parameter "T" }]

/-- A program of the entity and of two interfaces, of which the first is immutable. -/
def boxProgram (constraints : List TypeRef) : Program :=
  .onSmallCore [compiledInterface "IThing" [{ className := Vocabulary.immutable }],
    compiledInterface "ISortable" [], constrainedBox constraints]

/-- What is asked of a run over an entity and a property of the type of its parameter `T`. -/
structure HoldsParameter (c : Compilation) (config : Config) (box : TypeDef) (value : Property)
    (constraints : List TypeRef) : Prop where
  target : box ∈ (Plan.of c config).immutable
  property : value ∈ box.properties
  isStatic : value.isStatic = false
  isIndexer : value.isIndexer = false
  hasSetter : value.hasSetter = false
  type : value.type = .parameter "T"
  constrained : constraintsOf box.typeParameters "T" = constraints
  /-- No type of the compilation is a builder. -/
  unmarked : ∀ d ∈ c.types, ¬ d.MarksBuilder
  immutable : c.isImmutable box.typeParameters config.rules value.type = true

/-- The entity of such a program, which passes a check. -/
theorem exists_holdsParameter (constraints : List TypeRef)
    (check : Pass → TypeDef → Property → Bool)
    (h : (boxProgram constraints).satisfies (fun c config _ =>
      (c.type? "Shop.Box`1").any fun (box : TypeDef) => box.properties.any fun value =>
        decide (box.origin = .source ∧ c.requestsImmutable box = true ∧
          value.isStatic = false ∧ value.isIndexer = false ∧ value.hasSetter = false ∧
          value.type = .parameter "T" ∧ constraintsOf box.typeParameters "T" = constraints ∧
          (∀ d ∈ c.types, hasAttribute d.attributes Vocabulary.immutableBuilder = false) ∧
          c.isImmutable box.typeParameters config.rules value.type = true) &&
        check (Plan.immutablePass c config) box value) = true) :
    ∃ c config g box value, Compilation.ofProgram (boxProgram constraints) = .ok c ∧
      Config.resolve c = .ok config ∧ generate c = .ok g ∧
      HoldsParameter c config box value constraints ∧
      check (Plan.immutablePass c config) box value = true := by
  obtain ⟨c, config, g, hc, hconfig, hg, hcheck⟩ := Program.exists_run _ _ h
  obtain ⟨box, hbox, hcheck⟩ := (Option.any_eq_true _ _).1 hcheck
  obtain ⟨value, hvalue, hcheck⟩ := List.any_eq_true.1 hcheck
  obtain ⟨hfacts, hcheck⟩ := Bool.and_eq_true_iff.1 hcheck
  obtain ⟨hsource, hrequests, hstatic, hindexer, hsetter, htype, hconstraints, hunmarked,
    himmutable⟩ := of_decide_eq_true hfacts
  refine ⟨c, config, g, box, value, hc, hconfig, hg, ?_, hcheck⟩
  exact
    { target := Plan.mem_select.2 ⟨(Compilation.type?_eq_some_iff.1 hbox).1, hsource, hrequests⟩
      property := hvalue
      isStatic := hstatic
      isIndexer := hindexer
      hasSetter := hsetter
      type := htype
      constrained := hconstraints
      unmarked := fun d hd => by
        rw [TypeDef.MarksBuilder, hunmarked d hd]
        exact Bool.false_ne_true
      immutable := himmutable }

/-- An immutable interface, and a read-only list of what the parameter stands for. -/
def circularConstraints : List TypeRef :=
  [.named "Lib.IThing" [],
    .named "System.Collections.Generic.IReadOnlyList`1" [.parameter "T"]]

/-- Two constraints that may be held, one of which refers to the parameter again. -/
theorem constrained_parameter_accepted :
    ∃ c config g box value,
      Compilation.ofProgram (boxProgram circularConstraints) = .ok c ∧
      Config.resolve c = .ok config ∧ generate c = .ok g ∧
      HoldsParameter c config box value circularConstraints ∧
      NoError ((Plan.immutablePass c config).validateProperty box value) ∧
      ∀ constraint ∈ constraintsOf box.typeParameters "T",
        (Plan.immutablePass c config).MayHold box constraint := by
  obtain ⟨c, config, g, box, value, hc, hconfig, hg, h, hcheck⟩ :=
    exists_holdsParameter circularConstraints
      (fun pass box value => (pass.validateProperty box value).isEmpty) (by decide +kernel)
  have haccepted : NoError ((Plan.immutablePass c config).validateProperty box value) := by
    rw [List.isEmpty_iff.1 hcheck]
    exact noError_nil
  have hconstrained : constraintsOf box.typeParameters "T" ≠ [] := by
    rw [h.constrained]
    decide
  obtain ⟨hheld, -, -⟩ := Pass.parameter_accepted_iff (Plan.immutablePass c config) box
    h.isStatic h.isIndexer h.hasSetter h.type hconstrained
  exact ⟨c, config, g, box, value, hc, hconfig, hg, h, haccepted, hheld.1 haccepted⟩

/-- An immutable interface and another one. -/
def sortableConstraints : List TypeRef := [.named "Lib.IThing" [], .named "Lib.ISortable" []]

/-- **One immutable constraint is not enough**: the first makes the parameter immutable, and
validation reports an error for the second. -/
theorem second_constraint_refused :
    ∃ c config g box value,
      Compilation.ofProgram (boxProgram sortableConstraints) = .ok c ∧
      Config.resolve c = .ok config ∧ generate c = .ok g ∧
      HoldsParameter c config box value sortableConstraints ∧
      (Plan.immutablePass c config).immutableArtifact box ∈ g.artifacts ∧
      ∃ problem ∈ ((Plan.immutablePass c config).immutableArtifact box).diagnostics,
        problem ∈ (Plan.immutablePass c config).validateProperty box value ∧
          problem.code = .memberNotImmutable ∧ problem.isError = true := by
  obtain ⟨c, config, g, box, value, hc, hconfig, hg, h, hcheck⟩ :=
    exists_holdsParameter sortableConstraints
      (fun pass box value => (pass.validateProperty box value).any fun problem =>
        decide (problem.code = .memberNotImmutable ∧ problem.isError = true)) (by decide +kernel)
  obtain ⟨problem, hproblem, hrefused⟩ := List.any_eq_true.1 hcheck
  have hmember : (HeldMember.property value).IsReadOnlyIn box :=
    ⟨h.property, h.isStatic, h.isIndexer, h.hasSetter⟩
  exact ⟨c, config, g, box, value, hc, hconfig, hg, h,
    Plan.artifact_mem .immutable hconfig hg h.target, problem, hmember.problems_subset _ hproblem,
    hproblem, of_decide_eq_true hrefused⟩

end Companion
