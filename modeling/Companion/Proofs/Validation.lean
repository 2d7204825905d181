import Companion.Proofs.CheckedParts
import Companion.Proofs.EntityUnit
import Companion.Proofs.Immutability

/-!
# What Validation Guarantees

Validation asks the immutability check about every part of every type that an entity holds. The
check by itself accepts too much: it may keep a verdict that it reached under an assumption refuted
later. Asked about all parts, it does not. Where each part is accepted, no part has a rule that is
never met, each parameter has a constraint, and all that a part hangs on is a part again; so the
parts meet their rules among themselves, and are immutable, whatever circles they run in.

## Main results

* `subset_immutableRefs_of_accepted`: parts that are all accepted are immutable.
* `checkType_eq_nil_iff`: when an entity may hold a type.
* `hasErrors_immutableArtifact_eq_false_iff`: when the unit of an entity carries no error.
-/

namespace Companion

namespace Compilation

variable {c : Compilation} {scope : List TypeParameter} {rules : ImmutabilityRules}

/-- A rule that hangs on nothing is the verdict. -/
theorem isImmutable_of_settled {t : TypeRef} {verdict : Bool}
    (h : c.immutabilityRule scope rules t = .settled verdict) :
    c.isImmutable scope rules t = verdict := by
  rw [isImmutable, immutabilityDepth, checkImmutable]
  simp [h]

/-- The rule for anything but a parameter hangs on nothing or on all direct parts. -/
theorem immutabilityRule_eq {t : TypeRef} (h : ∀ name, t ≠ .parameter name) :
    (∃ verdict, c.immutabilityRule scope rules t = .settled verdict) ∨
      c.immutabilityRule scope rules t = .all t.parts := by
  cases t with
  | named name args =>
      rw [immutabilityRule]
      split
      · exact .inl ⟨true, rfl⟩
      · split
        · exact .inr rfl
        · exact .inl ⟨false, rfl⟩
  | array element rank =>
      rw [immutabilityRule]
      split
      · exact .inr rfl
      · exact .inl ⟨false, rfl⟩
  | parameter name => exact absurd rfl (h name)
  | tuple elements => exact .inr rfl

/-- **Parts that are all accepted are immutable**: the check may be asked about each of a set of
references that holds the direct parts of its members, as long as each parameter among them has a
constraint. -/
theorem subset_immutableRefs_of_accepted {S : Set TypeRef}
    (hparts : ∀ t ∈ S, ∀ u ∈ directParts scope t, u ∈ S)
    (haccepted : ∀ t ∈ S, (∀ name, t ≠ .parameter name) → c.isImmutable scope rules t = true)
    (hconstrained : ∀ name, .parameter name ∈ S → constraintsOf scope name ≠ []) :
    S ⊆ c.immutableRefs scope rules := by
  refine subset_immutableRefs fun t ht => ?_
  by_cases hparameter : ∃ name, t = .parameter name
  · obtain ⟨name, rfl⟩ := hparameter
    obtain ⟨u, hu⟩ := List.exists_mem_of_ne_nil _ (hconstrained name ht)
    exact ⟨u, hu, hparts _ ht u hu⟩
  · have hother : ∀ name, t ≠ .parameter name := fun name heq => hparameter ⟨name, heq⟩
    rcases immutabilityRule_eq hother with ⟨verdict, hrule⟩ | hrule
    · have hverdict := isImmutable_of_settled hrule
      rw [haccepted t ht hother] at hverdict
      rw [hrule]
      exact hverdict.symm
    · rw [hrule]
      intro u hu
      refine hparts t ht u ?_
      cases t with
      | parameter name => exact absurd rfl (hother name)
      | named | array | tuple => exact hu

end Compilation

/-! ### Types that an entity may hold -/

namespace Pass

variable (pass : Pass)

/-- What an entity may hold a part of: an immutable reference to a type that is no builder, with a
constraint if it is a parameter. -/
structure Holdable (scope : List TypeParameter) (t : TypeRef) : Prop where
  immutable : t ∈ pass.compilation.immutableRefs scope pass.config.rules
  not_builder : ∀ definition, pass.compilation.resolve? t = some definition →
    hasAttribute definition.attributes Vocabulary.immutableBuilder = false
  constrained : ∀ name, t = .parameter name → constraintsOf scope name ≠ []

/-- Whether an entity may hold a type: whether it may hold all its parts. -/
def MayHold (d : TypeDef) (t : TypeRef) : Prop :=
  ∀ part, HasPart d.typeParameters t part → pass.Holdable d.typeParameters part

variable {pass} {scope : List TypeParameter}

/-- A parameter is no problem if it has a constraint. -/
theorem partProblem?_parameter_eq_none_iff {name source : String} :
    pass.partProblem? scope (.parameter name) source = none ↔ constraintsOf scope name ≠ [] := by
  simp [partProblem?]

/-- Anything else is no problem if the check accepts it and it resolves to no builder. -/
theorem partProblem?_eq_none_iff {t : TypeRef} (h : ∀ name, t ≠ .parameter name)
    {source : String} :
    pass.partProblem? scope t source = none ↔
      pass.compilation.isImmutable scope pass.config.rules t = true ∧
        ∀ definition, pass.compilation.resolve? t = some definition →
          hasAttribute definition.attributes Vocabulary.immutableBuilder = false := by
  have hbuilder : ((pass.compilation.resolve? t).any fun d =>
        hasAttribute d.attributes Vocabulary.immutableBuilder) = false ↔
      ∀ definition, pass.compilation.resolve? t = some definition →
        hasAttribute definition.attributes Vocabulary.immutableBuilder = false := by
    cases pass.compilation.resolve? t <;> simp
  rw [← hbuilder]
  cases t with
  | parameter name => exact absurd rfl (h name)
  | named | array | tuple =>
      simp only [partProblem?]
      split
      · next hmarked => simp [hmarked]
      · next hmarked => split <;> simp_all

/-- **A type may be held** exactly when no part of it is reported. -/
theorem checkType_eq_nil_iff {d : TypeDef} {t : TypeRef} {source : String}
    {location : Option Location} :
    pass.checkType d t source location = [] ↔ pass.MayHold d t := by
  have hreported : pass.checkType d t source location = [] ↔
      ∀ part note, (part, note) ∈ checkedParts d.typeParameters t source →
        pass.partProblem? d.typeParameters part note = none := by
    simp [checkType, List.filterMap_eq_nil_iff]
  rw [hreported]
  constructor
  · intro hnone
    have hpart : ∀ part, HasPart d.typeParameters t part →
        ∃ note, pass.partProblem? d.typeParameters part note = none := by
      intro part hpart
      obtain ⟨note, hnote⟩ := mem_checkedParts_iff.2 hpart
      exact ⟨note, hnone part note hnote⟩
    have hconstrained : ∀ name, HasPart d.typeParameters t (.parameter name) →
        constraintsOf d.typeParameters name ≠ [] := by
      intro name hname
      obtain ⟨note, hnote⟩ := hpart _ hname
      exact partProblem?_parameter_eq_none_iff.1 hnote
    have himmutable : {part | HasPart d.typeParameters t part} ⊆
        pass.compilation.immutableRefs d.typeParameters pass.config.rules := by
      refine Compilation.subset_immutableRefs_of_accepted ?_ ?_ hconstrained
      · exact fun part hpart next hnext => Relation.ReflTransGen.tail hpart hnext
      · intro part hin hother
        obtain ⟨note, hnote⟩ := hpart part hin
        exact ((partProblem?_eq_none_iff hother).1 hnote).1
    refine fun part hin => ⟨himmutable hin, fun definition hresolve => ?_, ?_⟩
    · have hother : ∀ name, part ≠ .parameter name := by
        rintro name rfl
        simp [Compilation.resolve?, TypeRef.definitionName?] at hresolve
      obtain ⟨note, hnote⟩ := hpart part hin
      exact ((partProblem?_eq_none_iff hother).1 hnote).2 definition hresolve
    · rintro name rfl
      exact hconstrained name hin
  · intro hhold part note hnote
    have hholdable := hhold part (mem_checkedParts_iff.1 ⟨note, hnote⟩)
    by_cases hparameter : ∃ name, part = .parameter name
    · obtain ⟨name, rfl⟩ := hparameter
      exact partProblem?_parameter_eq_none_iff.2 (hholdable.constrained name rfl)
    · refine (partProblem?_eq_none_iff fun name heq => hparameter ⟨name, heq⟩).2 ?_
      exact ⟨Compilation.isImmutable_of_mem_immutableRefs hholdable.immutable,
        hholdable.not_builder⟩

/-! ### What is wrong with an entity -/

end Pass

/-- Whether none of some problems is an error. -/
def NoError (problems : List Diagnostic) : Prop := problems.any (·.isError) = false

section NoError

variable {ps qs : List Diagnostic}

/-- Where there is no problem, there is no error. -/
theorem noError_nil : NoError [] := rfl

/-- Two lists of problems have no error if neither has. -/
theorem noError_append : NoError (ps ++ qs) ↔ NoError ps ∧ NoError qs := by
  simp [NoError]

/-- Many lists of problems have no error if none of them has. -/
theorem noError_flatMap {α : Type} {l : List α} {f : α → List Diagnostic} :
    NoError (l.flatMap f) ↔ ∀ a ∈ l, NoError (f a) := by
  simp [NoError, List.any_flatMap]

/-- An error among the problems is one. -/
theorem not_noError_error (d : TypeDef) (generator : Generator) (code : DiagnosticCode)
    (message : String) (location : Option Location) :
    ¬ NoError (d.problem generator .error code message location :: ps) := by
  simp [NoError, TypeDef.problem, Diagnostic.inScope, Diagnostic.isError]

/-- A warning is no error. -/
theorem noError_warning (d : TypeDef) (generator : Generator) (code : DiagnosticCode)
    (message : String) (location : Option Location) :
    NoError [d.problem generator .warning code message location] := by
  simp [NoError, TypeDef.problem, Diagnostic.inScope, Diagnostic.isError]

end NoError

namespace Pass

variable {pass : Pass} {d : TypeDef}

/-- All problems with the parts of a type are errors. -/
theorem noError_checkType {t : TypeRef} {source : String} {location : Option Location} :
    NoError (pass.checkType d t source location) ↔ pass.MayHold d t := by
  rw [← checkType_eq_nil_iff, NoError, List.any_eq_false]
  constructor
  · intro hnone
    refine List.eq_nil_iff_forall_not_mem.2 fun problem hproblem => hnone problem hproblem ?_
    obtain ⟨part, -, hpart⟩ := List.mem_filterMap.1 hproblem
    obtain ⟨found, -, rfl⟩ := Option.map_eq_some_iff.1 hpart
    rfl
  · intro hnil
    simp [hnil]

/-- An entity is a class that derives from a root type or from an entity. -/
theorem noError_validateDeclaration :
    NoError (pass.validateDeclaration d) ↔
      d.kind = .class ∧ (pass.entityBase d = .root ∨
        ∃ name builder inherited, pass.entityBase d = .entity name builder inherited) := by
  have hpartial : NoError (if d.isPartial then [] else
      [d.problem .immutable .warning .immutableNotPartial
        ("You should add the partial modifier to the class " ++ d.qualifiedName ++ ".")]) := by
    split
    · exact noError_nil
    · exact noError_warning ..
  rw [validateDeclaration, noError_append, noError_append]
  refine (and_assoc.trans (and_iff_right hpartial)).trans (and_congr ?_ ?_)
  · by_cases hclass : d.kind = .class
    · simp [hclass, noError_nil]
    · simp [hclass, not_noError_error]
  · cases pass.entityBase d with
    | root => simp [noError_nil]
    | entity name builder inherited => simp [noError_nil]
    | missingBuilder base => simp [not_noError_error]
    | notImmutable base => simp [not_noError_error]

/-- A property of the instance is no indexer, has no setter, and has a type that may be held. -/
theorem noError_validateProperty {p : Property} :
    NoError (pass.validateProperty d p) ↔
      (p.isStatic = false → p.isIndexer = false ∧ p.hasSetter = false ∧ pass.MayHold d p.type) := by
  rw [validateProperty]
  cases p.isStatic with
  | true => simp [noError_nil]
  | false =>
      cases p.isIndexer with
      | true => simp [not_noError_error]
      | false =>
          cases p.hasSetter with
          | true => simp [not_noError_error]
          | false => simp [noError_checkType]

/-- A field that the sources declare in the instance is read-only and has a type that may be
held. -/
theorem noError_validateField {f : Field} :
    NoError (pass.validateField d f) ↔
      (f.isStatic = false → f.isImplicit = false →
        f.isReadonly = true ∧ pass.MayHold d f.type) := by
  rw [validateField]
  cases f.isStatic with
  | true => simp [noError_nil]
  | false =>
      cases f.isImplicit with
      | true => simp [noError_nil]
      | false =>
          cases f.isReadonly with
          | true => simp [noError_checkType]
          | false => simp [not_noError_error]

/-- The arguments of the base type may be held, except for parameters that an abstract entity hands
on. -/
theorem noError_validateBaseArguments :
    NoError (pass.validateBaseArguments d) ↔
      ∀ base, d.baseType = some base → ∀ arg ∈ base.args,
        (d.isAbstract = true → ∀ name, arg ≠ .parameter name) → pass.MayHold d arg := by
  rw [validateBaseArguments, noError_flatMap]
  cases d.baseType with
  | none => simp
  | some base =>
      simp only [Option.map_some, Option.getD_some, Option.some.injEq, forall_eq']
      refine forall₂_congr fun arg _ => ?_
      cases d.isAbstract <;> cases arg <;> simp [noError_nil, noError_checkType]

/-- Patterns are no problem if they can be read. -/
theorem noError_copyPatterns {engine : PatternEngine} {attributes : List Attribute}
    {location : Option Location} :
    NoError (d.copyPatterns engine attributes location).2 ↔
      (copyIgnorePatterns attributes engine).isOk = true := by
  rw [TypeDef.copyPatterns]
  cases copyIgnorePatterns attributes engine with
  | ok patterns => simp [noError_nil, Except.isOk, Except.toBool]
  | error e => simp [not_noError_error, Except.isOk, Except.toBool]

variable (pass d)

/-- What makes an entity immutable. -/
structure IsSound : Prop where
  isClass : d.kind = .class
  base : pass.entityBase d = .root ∨
    ∃ name builder inherited, pass.entityBase d = .entity name builder inherited
  /-- The properties of the instance are read-only, and their types may be held. -/
  property : ∀ p ∈ d.properties, p.isStatic = false →
    p.isIndexer = false ∧ p.hasSetter = false ∧ pass.MayHold d p.type
  /-- The fields that the sources declare in the instance are read-only, and their types may be
  held. -/
  field : ∀ f ∈ d.fields, f.isStatic = false → f.isImplicit = false →
    f.isReadonly = true ∧ pass.MayHold d f.type
  /-- The arguments of the base type may be held, except for parameters that an abstract entity
  hands on. -/
  argument : ∀ base, d.baseType = some base → ∀ arg ∈ base.args,
    (d.isAbstract = true → ∀ name, arg ≠ .parameter name) → pass.MayHold d arg

/-- Whether an engine can read the copy-ignore patterns of a type and of the properties of its
builder. -/
def PatternsReadable (engine : PatternEngine) (d : TypeDef) : Prop :=
  (copyIgnorePatterns d.attributes engine).isOk = true ∧
    ∀ p ∈ d.properties, p.isBuilderState = true →
      (copyIgnorePatterns p.attributes engine).isOk = true

/-- Validation finds no error exactly with what makes an entity immutable. -/
theorem noError_validate : NoError (pass.validate d) ↔ pass.IsSound d := by
  simp only [validate, noError_append, noError_flatMap, noError_validateDeclaration,
    noError_validateProperty, noError_validateBaseArguments, noError_validateField]
  exact ⟨fun ⟨⟨⟨⟨hclass, hbase⟩, hproperty⟩, hargument⟩, hfield⟩ =>
      ⟨hclass, hbase, hproperty, hfield, hargument⟩,
    fun h => ⟨⟨⟨⟨h.isClass, h.base⟩, h.property⟩, h.argument⟩, h.field⟩⟩

/-- **The unit of an entity carries no error** exactly if the entity is a class that derives from a
root type or from an entity, all that it holds is immutable in all its parts, and the patterns of
attributes not to be copied can be read. -/
theorem hasErrors_immutableArtifact_eq_false_iff (pass : Pass) (d : TypeDef) :
    (pass.immutableArtifact d).hasErrors = false ↔
      pass.IsSound d ∧ PatternsReadable pass.config.engine d := by
  have hproblems : (pass.immutableArtifact d).hasErrors = false ↔
      NoError (pass.entity d).problems := by
    rw [Artifact.hasErrors, diagnostics_immutableArtifact]
    rfl
  have hproperties : ∀ patterns, NoError (((d.properties.filter (·.isBuilderState)).map
        (d.builderProperty pass.config.engine (pass.entityBase d) patterns)).flatMap (·.2)) ↔
      ∀ p ∈ d.properties, p.isBuilderState = true →
        (copyIgnorePatterns p.attributes pass.config.engine).isOk = true := by
    intro patterns
    rw [List.flatMap_map, noError_flatMap]
    simp only [List.mem_filter, and_imp, TypeDef.builderProperty, noError_copyPatterns]
  rw [hproblems, PatternsReadable, ← noError_validate]
  simp only [Pass.entity, noError_append, noError_copyPatterns, hproperties, and_assoc]

end Pass

end Companion
