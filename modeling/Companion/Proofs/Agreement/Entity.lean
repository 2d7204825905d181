import Companion.Immutable.Unit
import Companion.Lifecycle.Unit
import Companion.Proofs.Agreement.Equality

/-!
# Passes That Agree Write the Same Entities and Lifecycles

Passes that agree find the same base and the same problems for an entity, and so write the same unit
for it. The lifecycle unit of a class goes by its methods and its bases alone, and is the same for
compilations that agree.

## Main results

* `Pass.Agrees.entityBase_eq`: an entity derives from the same.
* `Pass.Agrees.validate_eq`: an entity has the same problems.
* `Pass.Agrees.immutableArtifact_eq`: the same unit of an entity.
* `Compilation.Agrees.lifecycleArtifact_eq`: the same lifecycle unit.
-/

namespace Companion

/-! ### Units by what their pass knows -/

namespace Entity

/-- The same parts in the hands of another pass. -/
def inPass (e : Entity) (pass : Pass) : Entity := { e with pass }

variable {e : Entity} {pass : Pass}

/-- The code of a unit goes by the configuration of its pass, and by what the compilation says of
two attributes of the entity. -/
theorem code_inPass (hconfig : pass.config = e.pass.config)
    (hmarked : pass.compilation.hasFlattened e.definition Vocabulary.immutable =
      e.pass.compilation.hasFlattened e.definition Vocabulary.immutable)
    (hequality : pass.config.generatesEquality pass.compilation e.definition =
      e.pass.config.generatesEquality e.pass.compilation e.definition) :
    (e.inPass pass).code = e.code := by
  obtain ⟨c, config, targets⟩ := pass
  subst hconfig
  -- of the parts, only the markers look into the compilation
  have hmarkers : (e.inPass ⟨c, e.pass.config, targets⟩).markers = e.markers := by
    simp only [markers, inPass, hmarked, hequality]
    rfl
  have hbuilder : (e.inPass ⟨c, e.pass.config, targets⟩).builderClass = e.builderClass := rfl
  have hoption : (e.inPass ⟨c, e.pass.config, targets⟩).optionRegion = e.optionRegion := rfl
  have hextension : (e.inPass ⟨c, e.pass.config, targets⟩).extensionClass = e.extensionClass := rfl
  have hclass : (e.inPass ⟨c, e.pass.config, targets⟩).entityClass = e.entityClass := by
    rw [entityClass, entityClass, hmarkers, hbuilder, hoption]
    rfl
  rw [code, code, hclass, hextension]
  rfl

end Entity

/-- The code of a lifecycle unit goes by how it hooks into the bases. -/
theorem LifecycleUnit.code_congr {c c' : Compilation} {d : TypeDef}
    (hdispose : c'.disposeHook d = c.disposeHook d)
    (hfinalizer : c'.finalizerBase? d = c.finalizerBase? d) :
    (c'.lifecycleUnit d).code = (c.lifecycleUnit d).code := by
  have hhook : (c'.lifecycleUnit d).hook? = (c.lifecycleUnit d).hook? := by
    rw [hook?, hook?]
    exact if_congr Iff.rfl rfl (congrArg some hdispose)
  have hproblems : (c'.lifecycleUnit d).problems = (c.lifecycleUnit d).problems := by
    rw [problems, problems, hookProblems, hookProblems, hhook]
    rfl
  have hdisposal : (c'.lifecycleUnit d).disposal = (c.lifecycleUnit d).disposal := by
    rw [disposal, disposal, hhook]
    rfl
  have hfinalization : (c'.lifecycleUnit d).finalization = (c.lifecycleUnit d).finalization := by
    have hbase : (c'.lifecycleUnit d).compilation.finalizerBase? (c'.lifecycleUnit d).definition =
        (c.lifecycleUnit d).compilation.finalizerBase? (c.lifecycleUnit d).definition := hfinalizer
    rw [finalization]
    rw [hbase]
    rfl
  have hheader : (c'.lifecycleUnit d).header = (c.lifecycleUnit d).header := by
    rw [header, header, hhook]
    rfl
  rw [code, code, hproblems, hheader, hdisposal, hfinalization]
  rfl

namespace Compilation.Agrees

variable {known : Set String} {c c' : Compilation} (h : c.Agrees known c') {d : TypeDef}

include h

/-- A type asks to be an immutable entity in both or in neither. -/
theorem requestsImmutable_eq (hd : d ∈ c.types) :
    c'.requestsImmutable d = c.requestsImmutable d := by
  rw [requestsImmutable, requestsImmutable, h.hasFlattened_eq hd]

/-! ### Lifecycles -/

/-- The disposal of a type hooks into that of its bases in the same way. -/
theorem disposeHook_eq (hd : d ∈ c.types) : c'.disposeHook d = c.disposeHook d := by
  rw [disposeHook, disposeHook, h.baseChain_eq hd]

/-- The same base receives finalization. -/
theorem finalizerBase?_eq (hd : d ∈ c.types) : c'.finalizerBase? d = c.finalizerBase? d := by
  rw [finalizerBase?, finalizerBase?, h.baseChain_eq hd]

/-- **The same lifecycle unit** is written for a class. -/
theorem lifecycleArtifact_eq (hd : d ∈ c.types) :
    c'.lifecycleArtifact d = c.lifecycleArtifact d := by
  rw [lifecycleArtifact, lifecycleArtifact,
    LifecycleUnit.code_congr (h.disposeHook_eq hd) (h.finalizerBase?_eq hd)]

end Compilation.Agrees

namespace Pass.Agrees

variable {known : Set String} {pass pass' : Pass} (h : pass.Agrees known pass') {d : TypeDef}

include h

/-! ### The base of an entity -/

/-- The builder of a type has the same properties. -/
theorem builderProperties_eq (hd : d ∈ pass.compilation.types) :
    pass'.builderProperties d = pass.builderProperties d := by
  rw [builderProperties, builderProperties, h.compilation.baseChain_eq hd]

/-- A base has the same builder. -/
theorem builderOf?_eq (base : TypeRef) (hd : d ∈ pass.compilation.types) :
    pass'.builderOf? base d = pass.builderOf? base d := by
  rw [builderOf?, builderOf?, h.plans_eq d hd]

/-- **An entity derives from the same.** -/
theorem entityBase_eq (hd : d ∈ pass.compilation.types) :
    pass'.entityBase d = pass.entityBase d := by
  unfold entityBase
  cases hbase : d.baseType with
  | none => rfl
  | some base =>
      have hnames := h.compilation.namesOnly_baseType hd hbase
      simp only [h.compilation.resolve?_eq hnames, h.compilation.isMarkedImmutable_eq hnames]
      cases hfound : pass.compilation.resolve? base with
      | none => rfl
      | some definition =>
          have hmem := (Compilation.resolve?_eq_some_iff.1 hfound).1
          simp only [h.builderOf?_eq base hmem, h.builderProperties_eq hmem]

/-! ### Problems of an entity -/

/-- One part of a type has the same problem. -/
theorem partProblem?_eq {scope : List TypeParameter}
    (hscope : Compilation.ScopeNamesOnly known scope) {t : TypeRef} (ht : t.NamesOnly known)
    (source : String) : pass'.partProblem? scope t source = pass.partProblem? scope t source := by
  cases t with
  | parameter name => simp only [partProblem?]
  | named | array | tuple =>
      simp only [partProblem?, h.config_eq, h.compilation.resolve?_eq ht,
        h.compilation.isImmutable_eq hscope _ ht]

/-- A type, with all its parts, has the same problems. -/
theorem checkType_eq (hd : d ∈ pass.compilation.types) {t : TypeRef} (ht : t.NamesOnly known)
    (source : String) (location : Option Location) :
    pass'.checkType d t source location = pass.checkType d t source location := by
  have hscope := h.compilation.scopeNamesOnly hd
  rw [checkType, checkType]
  refine List.filterMap_congr fun ⟨part, note⟩ hpart => ?_
  have hnames : part.NamesOnly known :=
    hscope.of_hasPart ht (mem_checkedParts_iff.1 ⟨note, hpart⟩)
  simp only [h.partProblem?_eq hscope hnames]

/-- A property has the same problems. -/
theorem validateProperty_eq (hd : d ∈ pass.compilation.types) {p : Property}
    (hp : p ∈ d.properties) : pass'.validateProperty d p = pass.validateProperty d p := by
  rw [validateProperty, validateProperty,
    h.checkType_eq hd (h.compilation.namesOnly_property hd hp)]

/-- A field has the same problems. -/
theorem validateField_eq (hd : d ∈ pass.compilation.types) {f : Field} (hf : f ∈ d.fields) :
    pass'.validateField d f = pass.validateField d f := by
  rw [validateField, validateField, h.checkType_eq hd (h.compilation.namesOnly_field hd hf)]

/-- The arguments of the base type have the same problems. -/
theorem validateBaseArguments_eq (hd : d ∈ pass.compilation.types) :
    pass'.validateBaseArguments d = pass.validateBaseArguments d := by
  have hnames : ∀ arg ∈ (d.baseType.map (·.args)).getD [], arg.NamesOnly known := by
    cases hbase : d.baseType with
    | none => simp
    | some base => exact (h.compilation.namesOnly_baseType hd hbase).args
  rw [validateBaseArguments, validateBaseArguments]
  refine List.flatMap_congr fun arg harg => ?_
  split
  · rfl
  · exact h.checkType_eq hd (hnames _ harg) _ _

/-- **An entity has the same problems.** -/
theorem validate_eq (hd : d ∈ pass.compilation.types) : pass'.validate d = pass.validate d := by
  rw [validate, validate, validateDeclaration, validateDeclaration, h.entityBase_eq hd,
    h.validateBaseArguments_eq hd,
    List.flatMap_congr fun p hp => h.validateProperty_eq hd hp,
    List.flatMap_congr fun f hf => h.validateField_eq hd hf]

/-! ### The unit -/

/-- An entity is made of the same parts. -/
theorem entity_eq (hd : d ∈ pass.compilation.types) :
    pass'.entity d = (pass.entity d).inPass pass' := by
  rw [entity, h.entityBase_eq hd, h.validate_eq hd, h.config_eq]
  rfl

/-- **The same unit** is written for an entity. -/
theorem immutableArtifact_eq (hd : d ∈ pass.compilation.types) :
    pass'.immutableArtifact d = pass.immutableArtifact d := by
  rw [immutableArtifact, immutableArtifact, h.entity_eq hd, Entity.code_inPass]
  case hconfig => exact h.config_eq
  case hmarked => exact h.compilation.hasFlattened_eq hd Vocabulary.immutable
  case hequality =>
    rw [h.config_eq]
    exact h.compilation.generatesEquality_eq hd pass.config

end Pass.Agrees

end Companion
