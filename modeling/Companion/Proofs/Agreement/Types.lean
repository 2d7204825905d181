import Companion.Compilation.Members
import Companion.Equality.Members
import Companion.Proofs.Agreement.Lookup
import Companion.Proofs.CheckedParts
import Companion.Proofs.MemberSets
import Companion.Proofs.Worklist

/-!
# Compilations That Agree, Asked About Types

Compilations that agree on the known names give the same answers about references with known names
only. The supertypes of such a reference are a walk that does not leave the known names, and so is
the check whether it is immutable; what takes part in the equality of a type follows from both.

Parameters are looked up in a scope, whose constraints are asked to have known names only. The scope
of a type of the first compilation does.

## Main results

* `Compilation.Agrees.supertypesIn_eq`: the same supertypes, in the same order.
* `Compilation.Agrees.isImmutable_eq`: the same verdict on immutability.
* `Compilation.Agrees.memberSets_eq`: the same members take part in equality.
-/

namespace Companion.Compilation

variable {known : Set String} {scope : List TypeParameter}

/-- Whether the constraints of a scope have known names only. -/
def ScopeNamesOnly (known : Set String) (scope : List TypeParameter) : Prop :=
  ∀ t ∈ scope.flatMap (·.constraints), t.NamesOnly known

theorem scopeNamesOnly_nil : ScopeNamesOnly known [] := by simp [ScopeNamesOnly]

/-- The constraints of a parameter in scope have known names only. -/
theorem ScopeNamesOnly.constraintsOf (hscope : ScopeNamesOnly known scope) (name : String) :
    ∀ t ∈ constraintsOf scope name, t.NamesOnly known :=
  fun t ht => hscope t (constraintsOf_subset scope name ht)

/-- What is part of a reference, by way of constraints too, has known names only if the reference
has. -/
theorem ScopeNamesOnly.of_hasPart (hscope : ScopeNamesOnly known scope) {t u : TypeRef}
    (ht : t.NamesOnly known) (hu : HasPart scope t u) : u.NamesOnly known := by
  induction hu with
  | refl => exact ht
  | @tail v w _ hw ih =>
      cases v with
      | parameter name => exact hscope.constraintsOf name w hw
      | named | array | tuple => exact ih.within (parts_subset_within hw)

namespace Agrees

variable {c c' : Compilation} (h : c.Agrees known c') {d : TypeDef} {t : TypeRef}

include h

/-- The scope of a type has known names only. -/
theorem scopeNamesOnly (hd : d ∈ c.types) : ScopeNamesOnly known d.typeParameters :=
  fun _ ht => h.namesOnly_constraint hd ht

/-! ### Supertypes -/

/-- One step up leads to the same references. -/
theorem directSupertypes_eq (scope : List TypeParameter) (ht : t.NamesOnly known) :
    c'.directSupertypes scope t = c.directSupertypes scope t := by
  cases t with
  | named name args => simp only [directSupertypes, h.resolve?_eq ht]
  | array | parameter | tuple => simp only [directSupertypes]

/-- One step up leads to references with known names only. -/
theorem namesOnly_directSupertypes (hscope : ScopeNamesOnly known scope)
    (ht : t.NamesOnly known) : ∀ u ∈ c.directSupertypes scope t, u.NamesOnly known := by
  cases t with
  | named name args =>
      intro u hu
      simp only [directSupertypes] at hu
      cases hd : c.resolve? (.named name args) with
      | none => simp [hd] at hu
      | some d =>
          have hmem : d ∈ c.types := (resolve?_eq_some_iff.1 hd).1
          simp only [hd, List.mem_map, List.mem_append, Option.mem_toList] at hu
          obtain ⟨v, hv | hv, rfl⟩ := hu
          · exact (h.namesOnly_baseType hmem hv).substitute ht.args
          · exact (h.namesOnly_interface hmem hv).substitute ht.args
  | array element rank =>
      have hprobed : ∀ name ∈ probedNames, name ∈ known := h.probed
      simp only [probedNames, List.forall_mem_cons] at hprobed
      simp only [directSupertypes, List.forall_mem_cons, TypeRef.namesOnly_named]
      simp_all
  | parameter name => exact hscope.constraintsOf name
  | tuple elements => simp [directSupertypes]

/-- **A reference has the same supertypes**, in the same order. -/
theorem supertypesIn_eq (hscope : ScopeNamesOnly known scope) (ht : t.NamesOnly known) :
    c'.supertypesIn scope t = c.supertypesIn scope t := by
  rw [supertypesIn, supertypesIn, Worklist.explore, Worklist.explore,
    Worklist.exploreFrom_congr (P := (·.NamesOnly known)) ?closed ?same _ _ _ (by simpa using ht)]
  case closed =>
    intro u _ hu b hb
    obtain ⟨v, hv, rfl⟩ := List.mem_map.1 hb
    exact h.namesOnly_directSupertypes hscope hu v hv
  case same =>
    intro u _ hu
    rw [h.directSupertypes_eq scope hu]

/-- A reference has the same supertypes. -/
theorem supertypes_eq (ht : t.NamesOnly known) : c'.supertypes t = c.supertypes t :=
  h.supertypesIn_eq scopeNamesOnly_nil ht

/-- A reference implements a definition in the same way. -/
theorem implements?_eq (ht : t.NamesOnly known) (definition : String) :
    c'.implements? t definition = c.implements? t definition := by
  rw [implements?, implements?, h.supertypes_eq ht]

/-- A reference is to a type with key equality in both or in neither. -/
theorem isKeyEquatable_eq (hscope : ScopeNamesOnly known scope) (ht : t.NamesOnly known) :
    c'.isKeyEquatable scope t = c.isKeyEquatable scope t := by
  rw [isKeyEquatable, isKeyEquatable, h.supertypesIn_eq hscope ht]

/-- A type is the same dictionary. -/
theorem dictionaryShape?_eq (ht : t.NamesOnly known) :
    c'.dictionaryShape? t = c.dictionaryShape? t := by
  rw [dictionaryShape?, dictionaryShape?, h.supertypes_eq ht]

/-- A type is the same collection. -/
theorem collectionShape?_eq (ht : t.NamesOnly known) :
    c'.collectionShape? t = c.collectionShape? t := by
  rw [collectionShape?, collectionShape?, h.supertypes_eq ht]

/-- A reference is to a collection without a type for its items in both or in neither. -/
theorem isNonGenericCollection_eq (ht : t.NamesOnly known) :
    c'.isNonGenericCollection t = c.isNonGenericCollection t := by
  rw [isNonGenericCollection, isNonGenericCollection, h.implements?_eq ht]

/-! ### Immutability -/

/-- A reference is to a marked type in both or in neither. -/
theorem isMarkedImmutable_eq (ht : t.NamesOnly known) :
    c'.isMarkedImmutable t = c.isMarkedImmutable t := by
  rw [isMarkedImmutable, isMarkedImmutable, h.resolve?_eq ht]
  cases hd : c.resolve? t with
  | none => rfl
  | some d =>
      have hmem : d ∈ c.types := (resolve?_eq_some_iff.1 hd).1
      simp only [Option.any_some, h.hasFlattened_eq hmem]

/-- The same rule decides whether a reference is immutable. -/
theorem immutabilityRule_eq (scope : List TypeParameter) (rules : ImmutabilityRules)
    (ht : t.NamesOnly known) :
    c'.immutabilityRule scope rules t = c.immutabilityRule scope rules t := by
  cases t with
  | named name args => simp only [immutabilityRule, h.isMarkedImmutable_eq ht, h.resolve?_eq ht]
  | array | parameter | tuple => simp only [immutabilityRule]

omit h in
/-- What the immutability of a reference hangs on are its direct parts. -/
theorem subset_directParts (rules : ImmutabilityRules) {parts : List TypeRef}
    (hrule : c.immutabilityRule scope rules t = .all parts ∨
      c.immutabilityRule scope rules t = .any parts) : parts ⊆ directParts scope t := by
  cases t with
  | named name args =>
      simp only [immutabilityRule] at hrule
      split at hrule
      · simp at hrule
      · split at hrule <;> simp_all [directParts, TypeRef.parts]
  | array element rank =>
      simp only [immutabilityRule] at hrule
      split at hrule <;> simp_all [directParts, TypeRef.parts]
  | parameter name => simp_all [immutabilityRule, directParts]
  | tuple elements => simp_all [immutabilityRule, directParts, TypeRef.parts]

omit h in
/-- Checks that agree on all references of a list agree on whether all of them pass. -/
theorem checkAll_congr {check check' : Verdicts → TypeRef → Bool × Verdicts} {ts : List TypeRef}
    (hcheck : ∀ t ∈ ts, ∀ seen, check' seen t = check seen t) :
    ∀ seen, checkAll check' seen ts = checkAll check seen ts := by
  induction ts with
  | nil => intro seen; simp only [checkAll]
  | cons t ts ih =>
      obtain ⟨ht, hts⟩ := List.forall_mem_cons.1 hcheck
      intro seen
      simp only [checkAll, ht seen, ih hts]

omit h in
/-- Checks that agree on all references of a list agree on whether one of them passes. -/
theorem checkAny_congr {check check' : Verdicts → TypeRef → Bool × Verdicts} {ts : List TypeRef}
    (hcheck : ∀ t ∈ ts, ∀ seen, check' seen t = check seen t) :
    ∀ seen, checkAny check' seen ts = checkAny check seen ts := by
  induction ts with
  | nil => intro seen; simp only [checkAny]
  | cons t ts ih =>
      obtain ⟨ht, hts⟩ := List.forall_mem_cons.1 hcheck
      intro seen
      simp only [checkAny, ht seen, ih hts]

/-- A check gives the same verdict and keeps the same record. -/
theorem checkImmutable_eq (hscope : ScopeNamesOnly known scope) (rules : ImmutabilityRules)
    (depth : Nat) :
    ∀ {t : TypeRef}, t.NamesOnly known → ∀ seen,
      c'.checkImmutable scope rules depth seen t = c.checkImmutable scope rules depth seen t := by
  induction depth with
  | zero => intro t _ seen; simp only [checkImmutable]
  | succ depth ih =>
      intro t ht seen
      have hparts : ∀ parts, c.immutabilityRule scope rules t = .all parts ∨
          c.immutabilityRule scope rules t = .any parts → ∀ u ∈ parts, ∀ seen,
            c'.checkImmutable scope rules depth seen u =
              c.checkImmutable scope rules depth seen u :=
        fun parts hrule u hu => ih (hscope.of_hasPart ht
          (.single (subset_directParts rules hrule hu)))
      simp only [checkImmutable, h.immutabilityRule_eq scope rules ht]
      cases hrule : c.immutabilityRule scope rules t with
      | settled verdict => rfl
      | all parts => simp only [checkAll_congr (hparts parts (.inl hrule))]
      | any parts => simp only [checkAny_congr (hparts parts (.inr hrule))]

/-- **A reference gets the same verdict on immutability.** -/
theorem isImmutable_eq (hscope : ScopeNamesOnly known scope) (rules : ImmutabilityRules)
    (ht : t.NamesOnly known) : c'.isImmutable scope rules t = c.isImmutable scope rules t := by
  rw [isImmutable, isImmutable, h.checkImmutable_eq hscope rules _ ht]

/-! ### Members -/

/-- A reference may have a comparer in both or in neither. -/
theorem maybeComparer_eq (ht : t.NamesOnly known) : c'.maybeComparer t = c.maybeComparer t := by
  rw [maybeComparer, maybeComparer, h.implements?_eq ht, h.resolve?_eq ht]

/-- A member has the same comparer of its own. -/
theorem customComparer?_eq (hd : d ∈ c.types) (member : String) :
    c'.customComparer? d member = c.customComparer? d member := by
  simp only [customComparer?]
  rw [← List.head?_filterMap, ← List.head?_filterMap, List.filterMap_congr fun m hm => ?_]
  cases m with
  | property p =>
      have hp : p ∈ d.properties := List.mem_filterMap.2 ⟨_, hm, rfl⟩
      simp only [h.maybeComparer_eq (h.namesOnly_property hd hp)]
  | field f =>
      have hf : f ∈ d.fields := List.mem_filterMap.2 ⟨_, hm, rfl⟩
      simp only [h.maybeComparer_eq (h.namesOnly_field hd hf)]
  | method m => rfl

/-- The values of a reference have a key equality in both or in neither. -/
theorem hasKeyEquality_eq (hscope : ScopeNamesOnly known scope) (ht : t.NamesOnly known) :
    c'.hasKeyEquality scope t = c.hasKeyEquality scope t := by
  rw [hasKeyEquality, hasKeyEquality, h.isKeyEquatable_eq hscope ht, h.resolve?_eq ht]

/-- A reference is to an ignored type in both or in neither. -/
theorem isIgnoredType_eq (ht : t.NamesOnly known) : c'.isIgnoredType t = c.isIgnoredType t := by
  rw [isIgnoredType, isIgnoredType, h.resolve?_eq ht]

/-- The same members are compared. -/
theorem comparedMembers_eq (hd : d ∈ c.types) : c'.comparedMembers d = c.comparedMembers d := by
  rw [Compilation.comparedMembers_eq, Compilation.comparedMembers_eq]
  congr 2
  · refine List.filter_congr fun p hp => ?_
    rw [comparesProperty, comparesProperty, ignores, ignores,
      h.isIgnoredType_eq (h.namesOnly_property hd hp)]
  · refine List.filter_congr fun f hf => ?_
    rw [comparesField, comparesField, ignores, ignores,
      h.isIgnoredType_eq (h.namesOnly_field hd hf)]

/-- What is compared is a property or a field of the type. -/
theorem namesOnly_comparedMember (hd : d ∈ c.types) :
    ∀ found ∈ c.comparedMembers d, found.1.type.NamesOnly known := by
  intro found hfound
  rw [Compilation.comparedMembers_eq, List.mem_append, List.mem_map, List.mem_map] at hfound
  rcases hfound with ⟨p, hp, rfl⟩ | ⟨f, hf, rfl⟩
  · exact h.namesOnly_property hd (List.mem_of_mem_filter hp)
  · exact h.namesOnly_field hd (List.mem_of_mem_filter hf)

/-- **The same members take part in equality**, in the hash and in the key. -/
theorem memberSets_eq (hd : d ∈ c.types) : c'.memberSets d = c.memberSets d := by
  have hkey : ∀ found ∈ c.comparedMembers d,
      c'.hasKeyEquality d.typeParameters found.1.type =
        c.hasKeyEquality d.typeParameters found.1.type :=
    fun found hfound =>
      h.hasKeyEquality_eq (h.scopeNamesOnly hd) (h.namesOnly_comparedMember hd found hfound)
  simp only [memberSets, h.comparedMembers_eq hd, MemberSets.mk.injEq, true_and]
  exact List.filterMap_congr fun found hfound => by rw [hkey found hfound]

/-- The types of the members that take part have known names only. -/
theorem namesOnly_member (hd : d ∈ c.types) {m : EqualityMember}
    (hm : m ∈ (c.memberSets d).equality ∨ m ∈ (c.memberSets d).hash ∨
      m ∈ (c.memberSets d).key) : m.type.NamesOnly known := by
  simp only [memberSets, List.mem_map, List.mem_filter, List.mem_filterMap,
    Option.map_eq_some_iff] at hm
  rcases hm with ⟨found, hfound, rfl⟩ | ⟨found, ⟨hfound, -⟩, rfl⟩ | ⟨found, hfound, mode, -, rfl⟩
  all_goals exact h.namesOnly_comparedMember hd found hfound

/-- A type declares a key member in both or in neither. -/
theorem hasKeyMembers_eq (hd : d ∈ c.types) : c'.hasKeyMembers d = c.hasKeyMembers d := by
  rw [hasKeyMembers, hasKeyMembers, h.memberSets_eq hd]

end Agrees

end Companion.Compilation
