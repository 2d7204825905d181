import Companion.Immutable.Unit
import Companion.Proofs.GeneratedCode

/-!
# The Problems of an Entity's Unit

The unit of an immutable entity reports the problems of the entity, and nothing else: they stand at
its top, and the code below them is written whatever they say.

## Main results

* `diagnostics_immutableArtifact`: the unit reports exactly the problems of the entity, in order.
-/

namespace Companion

open Piece

/-! ### Code without problems -/

mutual

/-- Statements report no problem. -/
theorem BuilderStatement.codes_code (d : TypeDef) :
    ∀ s : BuilderStatement, codes (s.code d) = []
  | .branch test yes no => by
      have hyes := codes_codeAll d yes
      have hno := codes_codeAll d no
      rw [BuilderStatement.code]
      split <;> simp [hyes, hno]
  | .comment _ | .blank | .adoptGiven | .adoptRequired | .adoptDefault | .readInitial _
  | .compareWithInitial _ | .override _ | .clearOverride _ | .store _ | .release _ | .markDirty
  | .dropCached | .readCached | .returnCached | .build | .returnBuilt | .returnInitial
  | .returnBuilderOfSome | .returnBuilderOfNone | .returnOption | .requireBuilder | .take _ => by
      simp [BuilderStatement.code]

/-- Statements of a builder have no problems. -/
theorem BuilderStatement.codes_codeAll (d : TypeDef) :
    ∀ ss : List BuilderStatement, codes (codeAll d ss) = []
  | [] => by simp [codeAll]
  | s :: ss => by simp [codeAll, codes_code d s, codes_codeAll d ss]

end

namespace Entity

variable (e : Entity)

/-- The body of a member of a builder has no problems. -/
@[simp] theorem codes_body (statements : List BuilderStatement) :
    codes (e.body statements) = [] :=
  BuilderStatement.codes_codeAll _ _

/-- The marks of generated code have no problems. -/
@[simp] theorem codes_markers : codes e.markers = [] := by
  rw [markers]
  split <;> split <;> split <;> simp

/-- The constructors of a builder have no problems. -/
@[simp] theorem codes_builderConstructors : codes e.builderConstructors = [] := by
  rw [builderConstructors]
  split
  · rw [derivedConstructors]
    split <;> simp
  · rw [rootConstructors]
    split <;> simp [sharedState]

/-- A property of a builder has no problems. -/
@[simp] theorem codes_builderProperty (p : BuilderProperty) : codes (e.builderProperty p) = [] := by
  simp [builderProperty]

@[simp] theorem codes_builderWiths (p : BuilderProperty) : codes (e.builderWiths p) = [] := by
  simp [builderWiths]

/-- The methods that set the properties of a builder have no problems. -/
@[simp] theorem codes_allBuilderWiths : codes e.allBuilderWiths = [] := by
  rw [allBuilderWiths]
  split <;> simp [List.flatMap_map]

/-- What the builder gives back has no problems. -/
@[simp] theorem codes_toImmutable : codes e.toImmutable = [] := by
  simp [toImmutable]

/-- The class of a builder has no problems. -/
@[simp] theorem codes_builderClass : codes e.builderClass = [] := by
  have hlast : codes (if e.isAbstract then e.noToImmutable else e.toImmutable) = [] := by
    split <;> simp [noToImmutable]
  simp [builderClass, builderDocumentation, List.flatMap_map, hlast]

/-- What a builder has for optional values has no problems. -/
@[simp] theorem codes_optionRegion : codes e.optionRegion = [] := by
  simp [optionRegion]

/-- The class of an entity has no problems. -/
@[simp] theorem codes_entityClass : codes e.entityClass = [] := by
  have hinstance : codes (if e.isAbstract then [] else e.defaultInstance) = [] := by
    split <;> simp [defaultInstance]
  have hoption : codes (if e.hasOptionCode then e.optionRegion else []) = [] := by
    split <;> simp
  have hconversions : codes (if e.isAbstract then [] else e.conversions) = [] := by
    split <;> simp [conversions]
  simp [entityClass, entityConstructors, hinstance, hoption, hconversions]

/-- A method that changes one property has no problems, as far as its documentation has none. -/
@[simp] theorem codes_withMethod (p : BuilderProperty) {doc : List Piece} (h : codes doc = [])
    (receiver source argument argumentName : String) :
    codes (e.withMethod p doc receiver source argument argumentName) = [] := by
  simp [withMethod, h]

/-- The class of extensions has no problems. -/
@[simp] theorem codes_extensionClass : codes e.extensionClass = [] := by
  have hentity : ∀ p, (e.entityWiths p).flatMap codes = [] := by
    simp [entityWiths]
  have hoption : ∀ p, (if e.hasOptionCode then e.optionWiths p else []).flatMap codes = [] := by
    intro p
    split <;> simp [optionWiths]
  rw [extensionClass]
  split <;> simp [List.flatMap_assoc, hentity, hoption]

/-- The converter for documents has no problems. -/
@[simp] theorem codes_jsonConverter : codes e.jsonConverter = [] := by
  simp [jsonConverter]

end Entity

/-! ### The unit -/

/-- The code below the problems reports none. -/
theorem Entity.diagnosticsAll_code (e : Entity) : diagnosticsAll e.code = e.problems := by
  have htop : diagnosticsAll (unitHeader .immutable ["System"]) = [] :=
    diagnosticsAll_eq_nil (by simp [unitHeader])
  have hgap : diagnosticsAll (if e.problems.isEmpty then [] else [.blank]) = [] :=
    diagnosticsAll_eq_nil (by split <;> simp)
  have hconverter : codes (if e.hasJsonConverter then e.jsonConverter else []) = [] := by
    split <;> simp
  have hclasses : diagnosticsAll [.inNamespace e.definition.namespace
      (separated [e.entityClass, e.extensionClass,
        if e.hasJsonConverter then e.jsonConverter else []])] = [] :=
    diagnosticsAll_eq_nil (by simp [hconverter])
  rw [code, diagnosticsAll_append, diagnosticsAll_append, diagnosticsAll_append, htop, hgap,
    hclasses, diagnosticsAll_map_diagnostic, List.nil_append, List.append_nil, List.append_nil]

/-- **The unit of an entity reports** the problems of the entity, in their order. -/
theorem Pass.diagnostics_immutableArtifact (pass : Pass) (d : TypeDef) :
    (pass.immutableArtifact d).diagnostics = (pass.entity d).problems :=
  Entity.diagnosticsAll_code _

end Companion
