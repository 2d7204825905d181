import Companion.Equality.Unit
import Companion.Proofs.Agreement.Types

/-!
# Passes That Agree Write the Same Equality

Two passes agree when their compilations agree on the known names, their configurations are the same
and they plan the same of the types of the first compilation. The equality units that they write for
such a type are the same to the letter.

## Main results

* `Pass.Agrees.baseEquality?_eq`: the base type contributes the same.
* `Pass.Agrees.hashSource_eq`: the hash of a member comes from the same source.
* `Pass.Agrees.equalityArtifact_eq`: the same equality unit.
-/

namespace Companion

/-! ### Units by what their pass writes -/

namespace EqualityUnit

variable (u : EqualityUnit) (pass : Pass)

/-- The same parts in the hands of another pass. -/
def inPass : EqualityUnit := { u with pass }

@[simp] theorem inPass_pass : (u.inPass pass).pass = pass := rfl

@[simp] theorem inPass_definition : (u.inPass pass).definition = u.definition := rfl

@[simp] theorem inPass_members : (u.inPass pass).members = u.members := rfl

@[simp] theorem inPass_name : (u.inPass pass).name = u.name := rfl

@[simp] theorem inPass_isClass : (u.inPass pass).isClass = u.isClass := rfl

@[simp] theorem inPass_wantsKeyEquality :
    (u.inPass pass).wantsKeyEquality = u.wantsKeyEquality := rfl

@[simp] theorem inPass_warning : (u.inPass pass).warning = u.warning := rfl

@[simp] theorem inPass_referenceChecks : (u.inPass pass).referenceChecks = u.referenceChecks := rfl

@[simp] theorem inPass_untypedComparison :
    (u.inPass pass).untypedComparison = u.untypedComparison := rfl

@[simp] theorem inPass_baseEqualsCall : (u.inPass pass).baseEqualsCall = u.baseEqualsCall := rfl

@[simp] theorem inPass_baseHashCall : (u.inPass pass).baseHashCall = u.baseHashCall := rfl

@[simp] theorem inPass_baseKeyCall : (u.inPass pass).baseKeyCall = u.baseKeyCall := rfl

variable {u pass}

/-- The code of a unit goes by the configuration of its pass and by the bodies that this writes. -/
theorem code_inPass (hconfig : pass.config = u.pass.config)
    (hequality : pass.comparisonBody u.definition u.members.equality =
      u.pass.comparisonBody u.definition u.members.equality)
    (hkey : pass.comparisonBody u.definition u.members.key =
      u.pass.comparisonBody u.definition u.members.key)
    (hhash : ∀ reported, pass.hashBody u.definition reported u.members.hash =
      u.pass.hashBody u.definition reported u.members.hash)
    (hkeyHash : ∀ reported, pass.hashBody u.definition reported u.members.key =
      u.pass.hashBody u.definition reported u.members.key)
    (hunhashable : ∀ m ∈ u.members.hash,
      pass.isUnhashable u.definition m = u.pass.isUnhashable u.definition m) :
    (u.inPass pass).code = u.code := by
  have hpure : pass.pureMark = u.pass.pureMark := by rw [Pass.pureMark, Pass.pureMark, hconfig]
  have hdeclares : (u.inPass pass).declaresKeyEquality = u.declaresKeyEquality := by
    rw [declaresKeyEquality, declaresKeyEquality, inPass_wantsKeyEquality, inPass_pass, hconfig]
  have hheader : (u.inPass pass).header = u.header := by
    rw [header, header, hdeclares, inPass_definition, inPass_name, inPass_isClass]
  have hstatic : (u.inPass pass).staticEquals = u.staticEquals := by
    rw [staticEquals, staticEquals, inPass_pass, hpure, inPass_definition, inPass_name,
      inPass_isClass]
  have htyped : (u.inPass pass).typedEquals = u.typedEquals := by
    rw [typedEquals, typedEquals, inPass_pass, hpure, inPass_name, inPass_referenceChecks]
  have huntyped : (u.inPass pass).untypedEquals = u.untypedEquals := by
    rw [untypedEquals, untypedEquals, inPass_pass, hpure, inPass_untypedComparison]
  have hoperator : (u.inPass pass).operator = u.operator := by
    funext symbol result summary
    rw [operator, operator, inPass_pass, hpure, inPass_name]
  have hinner : (u.inPass pass).innerEquals = u.innerEquals := by
    rw [innerEquals, innerEquals, inPass_baseEqualsCall, inPass_name, inPass_pass,
      inPass_definition, inPass_members, hequality]
  have hhashCode : (u.inPass pass).hashCode = u.hashCode := by
    rw [hashCode, hashCode, inPass_baseHashCall, inPass_pass, inPass_definition, inPass_members,
      hhash]
  have hnames : (u.inPass pass).unhashableNames = u.unhashableNames := by
    rw [unhashableNames, unhashableNames, inPass_pass, inPass_definition, inPass_members,
      List.filter_congr hunhashable]
  have hkeyEquality : (u.inPass pass).keyEquality = u.keyEquality := by
    rw [keyEquality, keyEquality, hnames, inPass_pass, hpure, inPass_definition, inPass_members,
      inPass_name, inPass_untypedComparison, inPass_referenceChecks, inPass_baseKeyCall, hkey,
      hkeyHash]
  have hmembers : (u.inPass pass).memberCode = u.memberCode := by
    rw [memberCode, memberCode, hstatic, htyped, huntyped, hoperator, hinner, hhashCode,
      hkeyEquality, hdeclares, inPass_wantsKeyEquality, inPass_warning]
  rw [code, code, hheader, hmembers, inPass_definition, inPass_warning]

end EqualityUnit

/-! ### Passes -/

/-- Whether two passes have compilations that agree, one configuration, and the same plan as far as
the first one knows the types. -/
structure Pass.Agrees (known : Set String) (pass pass' : Pass) : Prop where
  compilation : pass.compilation.Agrees known pass'.compilation
  config_eq : pass'.config = pass.config
  plans_eq : ∀ d ∈ pass.compilation.types, pass'.plans d = pass.plans d

namespace Compilation.Agrees

variable {known : Set String} {c c' : Compilation} (h : c.Agrees known c') {d : TypeDef}
  {m : EqualityMember}

include h

/-- A type asks for equality in both or in neither. -/
theorem requestsEquality_eq (hd : d ∈ c.types) : c'.requestsEquality d = c.requestsEquality d := by
  rw [requestsEquality, requestsEquality, h.hasFlattened_eq hd]

/-- The values of a reference may be null in both or in neither. -/
theorem mayBeNull_eq {t : TypeRef} (scope : List TypeParameter) (ht : t.NamesOnly known) :
    c'.mayBeNull scope t = c.mayBeNull scope t := by
  cases t with
  | parameter name => simp only [mayBeNull]
  | named | array | tuple => simp only [mayBeNull, h.isReferenceType_eq ht]

/-- A member is compared in the same way. -/
theorem comparison_eq (hd : d ∈ c.types) (hm : m.type.NamesOnly known) :
    c'.comparison d m = c.comparison d m := by
  simp only [comparison, h.customComparer?_eq hd, h.dictionaryShape?_eq hm,
    h.collectionShape?_eq hm, h.special?_eq hm, h.isEnum_eq hm, h.mayBeNull_eq _ hm]

end Compilation.Agrees

namespace Pass.Agrees

variable {known : Set String} {pass pass' : Pass} (h : pass.Agrees known pass') {d : TypeDef}
  {m : EqualityMember}

include h

/-! ### The base type -/

/-- A type gets equality in both or in neither. -/
theorem generatesEquality_eq (hd : d ∈ pass.compilation.types) :
    pass'.generatesEquality d = pass.generatesEquality d := by
  rw [generatesEquality, generatesEquality, h.plans_eq d hd, h.compilation.hasFlattened_eq hd]

/-- A type has, or will have, a key equality in both or in neither. -/
theorem isKeyEquatable_eq (hd : d ∈ pass.compilation.types) :
    pass'.isKeyEquatable d = pass.isKeyEquatable d := by
  have hself : d.selfRef.NamesOnly known := by
    simpa [TypeDef.selfRef] using h.compilation.fullName_mem d hd
  rw [isKeyEquatable, isKeyEquatable, h.config_eq, h.generatesEquality_eq hd,
    h.compilation.hasKeyMembers_eq hd,
    h.compilation.isKeyEquatable_eq (h.compilation.scopeNamesOnly hd) hself]

/-- **The base type contributes the same** to equality. -/
theorem baseEquality?_eq (hd : d ∈ pass.compilation.types) :
    pass'.baseEquality? d = pass.baseEquality? d := by
  unfold baseEquality?
  cases hbase : d.baseType with
  | none => rfl
  | some base =>
      simp only [Option.bind_eq_bind, Option.bind_some,
        h.compilation.resolve?_eq (h.compilation.namesOnly_baseType hd hbase)]
      cases hfound : pass.compilation.resolve? base with
      | none => rfl
      | some definition =>
          have hmem := (Compilation.resolve?_eq_some_iff.1 hfound).1
          have hlevel : ∀ a ∈ definition :: pass.compilation.baseChain definition,
              pass'.isKeyEquatable a = pass.isKeyEquatable a :=
            List.forall_mem_cons.2 ⟨h.isKeyEquatable_eq hmem, fun a ha =>
              h.isKeyEquatable_eq (Compilation.Agrees.mem_types_of_mem_baseChain hmem ha)⟩
          have hkey : (definition :: pass.compilation.baseChain definition).any
                pass'.isKeyEquatable =
              (definition :: pass.compilation.baseChain definition).any pass.isKeyEquatable := by
            rw [Bool.eq_iff_iff, List.any_eq_true, List.any_eq_true]
            exact exists_congr fun a => and_congr_right fun ha => by rw [hlevel a ha]
          simp only [h.generatesEquality_eq hmem, h.compilation.overridesMethod_eq hmem,
            h.compilation.baseChain_eq hmem, hkey]

/-! ### Comparison -/

/-- The same code compares a member. -/
theorem memberComparison_eq (hd : d ∈ pass.compilation.types) (hm : m.type.NamesOnly known) :
    pass'.memberComparison d m = pass.memberComparison d m := by
  rw [memberComparison, memberComparison, h.compilation.comparison_eq hd hm]

/-- The same body compares members. -/
theorem comparisonBody_eq (hd : d ∈ pass.compilation.types) {members : List EqualityMember}
    (hmembers : ∀ m ∈ members, m.type.NamesOnly known) (baseCall : Option String) :
    pass'.comparisonBody d members baseCall = pass.comparisonBody d members baseCall := by
  unfold comparisonBody
  rw [List.flatMap_congr fun m hm => h.memberComparison_eq hd (hmembers m hm)]

/-! ### Hashing -/

/-- A reference has a hash of its own in both or in neither. -/
theorem hasOwnHash_eq {t : TypeRef} (ht : t.NamesOnly known) :
    pass'.hasOwnHash t = pass.hasOwnHash t := by
  rw [hasOwnHash, hasOwnHash, h.compilation.resolve?_eq ht]
  cases hfound : pass.compilation.resolve? t with
  | none => rfl
  | some definition =>
      have hmem := (Compilation.resolve?_eq_some_iff.1 hfound).1
      simp only [Option.all_some, h.generatesEquality_eq hmem, h.compilation.hasFlattened_eq hmem,
        h.compilation.overridesMethod_eq hmem]

/-- **The hash of a member comes from the same source.** -/
theorem hashSource_eq (hd : d ∈ pass.compilation.types) (hm : m.type.NamesOnly known) :
    pass'.hashSource d m = pass.hashSource d m := by
  simp only [hashSource, typeHashSource, h.compilation.customComparer?_eq hd,
    h.compilation.special?_eq hm, h.compilation.dictionaryShape?_eq hm,
    h.compilation.collectionShape?_eq hm, h.compilation.isNonGenericCollection_eq hm,
    h.compilation.isEnum_eq hm, h.hasOwnHash_eq hm]

/-- A member has no hash in both or in neither. -/
theorem isUnhashable_eq (hd : d ∈ pass.compilation.types) (hm : m.type.NamesOnly known) :
    pass'.isUnhashable d m = pass.isUnhashable d m := by
  rw [isUnhashable, isUnhashable, h.hashSource_eq hd hm]

/-- The same code takes a member in. -/
theorem memberHash_eq (hd : d ∈ pass.compilation.types) (hm : m.type.NamesOnly known)
    (reported : List String) (position : Nat) :
    pass'.memberHash d reported position m = pass.memberHash d reported position m := by
  rw [memberHash, memberHash, hashHints, hashHints, hashGuard?, hashGuard?,
    h.hashSource_eq hd hm, h.compilation.customComparer?_eq hd, h.compilation.mayBeNull_eq _ hm,
    h.compilation.special?_eq hm]

/-- The same code takes members in. The induction is on the members, for all names that were
reported before. -/
theorem memberHashes_eq (hd : d ∈ pass.compilation.types) (members : List EqualityMember) :
    (∀ m ∈ members, m.type.NamesOnly known) → ∀ reported position,
      pass'.memberHashes d reported position members =
        pass.memberHashes d reported position members := by
  induction members with
  | nil => intro _ reported position; simp only [memberHashes]
  | cons m ms ih =>
      intro hmembers reported position
      obtain ⟨hm, hms⟩ := List.forall_mem_cons.1 hmembers
      simp only [memberHashes, h.memberHash_eq hd hm, h.isUnhashable_eq hd hm, ih hms]

/-- The same body makes a hash of members. -/
theorem hashBody_eq (hd : d ∈ pass.compilation.types) {members : List EqualityMember}
    (hmembers : ∀ m ∈ members, m.type.NamesOnly known) (reported : List String)
    (baseCall : Option String) :
    pass'.hashBody d reported members baseCall = pass.hashBody d reported members baseCall := by
  unfold hashBody
  rw [h.memberHashes_eq hd members hmembers]

/-! ### The unit -/

/-- A unit is made of the same parts. -/
theorem equalityUnit_eq (hd : d ∈ pass.compilation.types) :
    pass'.equalityUnit d = (pass.equalityUnit d).inPass pass' := by
  rw [equalityUnit, h.baseEquality?_eq hd, h.compilation.memberSets_eq hd]
  rfl

/-- **The same equality unit** is written for a type. -/
theorem equalityArtifact_eq (hd : d ∈ pass.compilation.types) :
    pass'.equalityArtifact d = pass.equalityArtifact d := by
  have hmember : ∀ m, m ∈ (pass.equalityUnit d).members.equality ∨
      m ∈ (pass.equalityUnit d).members.hash ∨ m ∈ (pass.equalityUnit d).members.key →
        m.type.NamesOnly known :=
    fun _ hm => h.compilation.namesOnly_member hd hm
  rw [equalityArtifact, equalityArtifact, h.equalityUnit_eq hd, EqualityUnit.code_inPass]
  case hconfig => exact h.config_eq
  case hequality => exact funext (h.comparisonBody_eq hd fun m hm => hmember m (.inl hm))
  case hkey => exact funext (h.comparisonBody_eq hd fun m hm => hmember m (.inr (.inr hm)))
  case hhash =>
    exact fun reported =>
      funext (h.hashBody_eq hd (fun m hm => hmember m (.inr (.inl hm))) reported)
  case hkeyHash =>
    exact fun reported =>
      funext (h.hashBody_eq hd (fun m hm => hmember m (.inr (.inr hm))) reported)
  case hunhashable => exact fun m hm => h.isUnhashable_eq hd (hmember m (.inr (.inl hm)))

end Pass.Agrees

end Companion
