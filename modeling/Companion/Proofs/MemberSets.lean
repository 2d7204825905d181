import Companion.Equality.Members
import Mathlib.Data.List.Basic

/-!
# Which Members Take Part in Equality

The member sets of a type are put together from two queries over its members. What they come to is
one condition on properties and one on fields: the equality set holds the properties that satisfy
the first, in the order of their declaration, and after them the fields that satisfy the second.
Marks decide which of these members are in the hash set and in the key set. A mark for the key
counts for the hash as well, and a mark that leaves a member out of equality leaves it out of all
three.

## Main results

* `comparedMembers_eq`: the members that take part, with their attributes.
* `equality_memberSets`: the equality set.
* `memberSets_nested`: the hash set and the key set beside it.
-/

namespace Companion

/-! ### One member -/

/-- A property as equality sees it. -/
def EqualityMember.ofProperty (p : Property) : EqualityMember where
  name := p.name
  type := p.type
  options := ComparerOptions.ofAttribute
    (findAttribute? p.attributes Vocabulary.equalityComparerOptions)
  location := p.location

/-- A field as equality sees it. -/
def EqualityMember.ofField (f : Field) : EqualityMember where
  name := f.name
  type := f.type
  options := ComparerOptions.ofAttribute
    (findAttribute? f.attributes Vocabulary.equalityComparerOptions)
  location := f.location

namespace Compilation

variable (c : Compilation)

/-- Whether a member is left out of equality by a mark, its own or one on its type. -/
def ignores (attributes : List Attribute) (type : TypeRef) : Bool :=
  hasAttribute attributes Vocabulary.equalityIgnore || c.isIgnoredType type

/-- Whether a property takes part in equality. -/
def comparesProperty (p : Property) : Bool :=
  !p.isImplicit && !p.isStatic && !p.isWriteOnly && !p.isIndexer &&
    .privateProtected ≤ p.getterAccessibility && !c.ignores p.attributes p.type

/-- Whether a field takes part in equality. -/
def comparesField (f : Field) : Bool :=
  !f.isImplicit && !f.isStatic && .privateProtected ≤ f.accessibility &&
    !c.ignores f.attributes f.type

/-! ### All members -/

/-- A member with its options, unless a mark leaves it out. -/
def unlessIgnored (found : Option (EqualityMember × List Attribute)) :
    Option (EqualityMember × List Attribute) :=
  (found.filter fun (m, attributes) =>
    !hasAttribute attributes Vocabulary.equalityIgnore && !c.isIgnoredType m.type).map
      fun (m, attributes) =>
        let mark := findAttribute? attributes Vocabulary.equalityComparerOptions
        ({ m with options := ComparerOptions.ofAttribute mark }, attributes)

/-- A property is listed exactly if it takes part. -/
theorem comparedProperty_eq (p : Property) :
    c.unlessIgnored
        (if MemberQuery.accepts { properties := true, atLeast := .privateProtected } (.property p)
          then valueMember? (.property p) else none) =
      ((some p).filter c.comparesProperty).map fun p => (.ofProperty p, p.attributes) := by
  cases hhidden : p.isImplicit || p.isStatic || p.isWriteOnly || p.isIndexer ||
    !decide (.privateProtected ≤ p.getterAccessibility) with
  | false =>
      simp_all [unlessIgnored, MemberQuery.accepts, valueMember?, Member.isStatic,
        comparesProperty, ignores, EqualityMember.ofProperty, Option.filter_some]
  | true =>
      simp only [Bool.or_eq_true, Bool.not_eq_true', decide_eq_false_iff_not] at hhidden
      rcases hhidden with (((h | h) | h) | h) | h <;>
        simp [unlessIgnored, MemberQuery.accepts, valueMember?, Member.isStatic, comparesProperty,
          Option.filter_some, h]

/-- A field is listed exactly if it takes part. -/
theorem comparedField_eq (f : Field) :
    c.unlessIgnored
        (if MemberQuery.accepts { fields := true, atLeast := .privateProtected } (.field f)
          then valueMember? (.field f) else none) =
      ((some f).filter c.comparesField).map fun f => (.ofField f, f.attributes) := by
  cases hhidden : f.isImplicit || f.isStatic || !decide (.privateProtected ≤ f.accessibility) with
  | false =>
      simp_all [unlessIgnored, MemberQuery.accepts, valueMember?, Member.isStatic, comparesField,
        ignores, EqualityMember.ofField, Option.filter_some]
  | true =>
      simp only [Bool.or_eq_true, Bool.not_eq_true', decide_eq_false_iff_not] at hhidden
      rcases hhidden with (h | h) | h <;>
        simp [unlessIgnored, MemberQuery.accepts, Member.isStatic, comparesField,
          Option.filter_some, h]

/-- The members that take part in equality are the properties that do, and then the fields that
do, each with its attributes. -/
theorem comparedMembers_eq (d : TypeDef) :
    c.comparedMembers d =
      (d.properties.filter c.comparesProperty).map (fun p => (.ofProperty p, p.attributes)) ++
        (d.fields.filter c.comparesField).map fun f => (.ofField f, f.attributes) := by
  have hdeclared : ∀ q : MemberQuery, q.includesInherited = false →
      c.members d q = (d.members.filter q.accepts).map (d, ·) := by
    intro q hq
    simp [members, hq]
  rw [comparedMembers]
  simp only [hdeclared, List.filterMap_append, List.filter_append, List.map_append,
    List.filterMap_map, Function.comp_def, TypeDef.properties, TypeDef.fields,
    List.filterMap_filter, List.filter_filterMap, List.map_filterMap]
  congr 1
  · refine List.filterMap_congr fun m _ => ?_
    cases m with
    | property p => exact c.comparedProperty_eq p
    | field f => simp [MemberQuery.accepts, Member.property?]
    | method m => simp [MemberQuery.accepts, Member.property?]
  · refine List.filterMap_congr fun m _ => ?_
    cases m with
    | property p => simp [MemberQuery.accepts, Member.field?]
    | field f => exact c.comparedField_eq f
    | method m => simp [MemberQuery.accepts, Member.field?]

/-- **The equality set** holds the properties that take part, and then the fields that do. -/
theorem equality_memberSets (d : TypeDef) :
    (c.memberSets d).equality =
      (d.properties.filter c.comparesProperty).map .ofProperty ++
        (d.fields.filter c.comparesField).map .ofField := by
  simp only [memberSets, comparedMembers_eq, List.map_append, List.map_map, Function.comp_def]

end Compilation

/-! ### The sets beside each other -/

/-- Whether a mark makes a member part of the key. -/
def isKeyMarked (attributes : List Attribute) : Bool :=
  hasAttribute attributes Vocabulary.equalityKey ||
    hasAttribute attributes Vocabulary.dataAnnotationsKey

/-- Whether a mark makes a member part of the hash. -/
def isHashMarked (attributes : List Attribute) : Bool :=
  isKeyMarked attributes || hasAttribute attributes Vocabulary.equalityHash

/-- Either key mark has a mode. -/
theorem isSome_keyMode? (attributes : List Attribute) :
    (keyMode? attributes).isSome = isKeyMarked attributes := by
  have hkey : hasAttribute attributes Vocabulary.equalityKey =
      (findAttribute? attributes Vocabulary.equalityKey).isSome := rfl
  rw [keyMode?, isKeyMarked, hkey]
  cases findAttribute? attributes Vocabulary.equalityKey with
  | some mark => rfl
  | none =>
      by_cases hdata : hasAttribute attributes Vocabulary.dataAnnotationsKey = true
      · simp [hdata]
      · simp [hdata]

/-- A mode that is settled is not open. -/
theorem KeyEqualityMode.settle_ne_auto (mode : KeyEqualityMode) (hasKeyEquality : Bool) :
    mode.settle hasKeyEquality ≠ .auto := by
  cases mode <;> cases hasKeyEquality <;> decide

/-- The member as a set that knows no key equality lists it. -/
def EqualityMember.plain (m : EqualityMember) : EqualityMember := { m with mode := .useEquality }

namespace Compilation

variable (c : Compilation) (d : TypeDef)

/-- The members that take part in equality and whose attributes satisfy a condition. -/
def comparedWith (marked : List Attribute → Bool) : List EqualityMember :=
  (d.properties.filter fun p => c.comparesProperty p && marked p.attributes).map .ofProperty ++
    (d.fields.filter fun f => c.comparesField f && marked f.attributes).map .ofField

/-- The members of a set, each without its attributes. -/
theorem comparedWith_eq (marked : List Attribute → Bool) :
    ((c.comparedMembers d).filter fun (_, attributes) => marked attributes).map (·.1) =
      c.comparedWith d marked := by
  simp only [comparedMembers_eq, comparedWith, List.filter_append, List.map_append,
    List.filter_map, List.map_map, List.filter_filter, Function.comp_def, Bool.and_comm]

/-- A weaker condition lists more members, in the same order. -/
theorem comparedWith_sublist {marked marked' : List Attribute → Bool}
    (h : ∀ attributes, marked attributes = true → marked' attributes = true) :
    (c.comparedWith d marked).Sublist (c.comparedWith d marked') := by
  refine .append (.map _ (List.monotone_filter_right _ fun p hp => ?_))
    (.map _ (List.monotone_filter_right _ fun f hf => ?_))
  · simp only [Bool.and_eq_true] at hp ⊢
    exact hp.imp_right (h _)
  · simp only [Bool.and_eq_true] at hf ⊢
    exact hf.imp_right (h _)

/-- What is compared besides the key is compared for equality. -/
theorem mode_of_mem_comparedWith {marked : List Attribute → Bool} {m : EqualityMember}
    (hm : m ∈ c.comparedWith d marked) : m.mode = .useEquality := by
  rcases List.mem_append.1 hm with hm | hm
  · obtain ⟨p, -, rfl⟩ := List.mem_map.1 hm
    rfl
  · obtain ⟨f, -, rfl⟩ := List.mem_map.1 hm
    rfl

/-- All compared members take part in equality. -/
theorem equality_eq_comparedWith : (c.memberSets d).equality = c.comparedWith d fun _ => true := by
  simp only [equality_memberSets, comparedWith, Bool.and_true]

/-- Those that are marked for it take part in the hash. -/
theorem hash_eq_comparedWith : (c.memberSets d).hash = c.comparedWith d isHashMarked := by
  simp only [memberSets, isSome_keyMode?]
  exact c.comparedWith_eq d isHashMarked

/-- Apart from how they are compared, the key members are those with a key mark. -/
theorem key_eq_comparedWith :
    (c.memberSets d).key.map .plain = c.comparedWith d isKeyMarked := by
  have hplain : ∀ member ∈ c.comparedMembers d, member.1.plain = member.1 := by
    intro member hmember
    rw [comparedMembers_eq, List.mem_append, List.mem_map, List.mem_map] at hmember
    rcases hmember with ⟨p, -, rfl⟩ | ⟨f, -, rfl⟩
    · rfl
    · rfl
  rw [← comparedWith_eq, memberSets, List.map_filterMap, ← List.filterMap_eq_map,
    List.filterMap_filter]
  refine List.filterMap_congr fun ⟨m, attributes⟩ hmember => ?_
  simp only [← isSome_keyMode?]
  cases keyMode? attributes with
  | none => rfl
  | some mode => exact congrArg some (hplain _ hmember)

/-- **The member sets are nested.** The equality set holds the properties that take part, and then
the fields that do, in the order of their declaration. The hash set keeps those of them with a mark
for the hash or for the key, and the key set those with a mark for the key; only there members may
be compared by a key equality of their own. -/
theorem memberSets_nested :
    (c.memberSets d).equality =
        (d.properties.filter c.comparesProperty).map .ofProperty ++
          (d.fields.filter c.comparesField).map .ofField ∧
      (c.memberSets d).hash = c.comparedWith d isHashMarked ∧
      (c.memberSets d).key.map .plain = c.comparedWith d isKeyMarked ∧
      (c.memberSets d).hash.Sublist (c.memberSets d).equality ∧
      ((c.memberSets d).key.map .plain).Sublist (c.memberSets d).hash ∧
      (∀ m ∈ (c.memberSets d).equality, m.mode = .useEquality) ∧
      (∀ m ∈ (c.memberSets d).hash, m.mode = .useEquality) ∧
      ∀ m ∈ (c.memberSets d).key, m.mode ≠ .auto := by
  refine ⟨c.equality_memberSets d, c.hash_eq_comparedWith d, c.key_eq_comparedWith d,
    ?_, ?_, ?_, ?_, ?_⟩
  · rw [hash_eq_comparedWith, equality_eq_comparedWith]
    exact c.comparedWith_sublist d fun _ _ => rfl
  · rw [key_eq_comparedWith, hash_eq_comparedWith]
    exact c.comparedWith_sublist d fun _ hkey => by rw [isHashMarked, hkey, Bool.true_or]
  · rw [equality_eq_comparedWith]
    exact fun m => c.mode_of_mem_comparedWith d
  · rw [hash_eq_comparedWith]
    exact fun m => c.mode_of_mem_comparedWith d
  · intro m hm
    obtain ⟨⟨member, attributes⟩, -, hmode⟩ := List.mem_filterMap.1 hm
    obtain ⟨mode, -, rfl⟩ := Option.map_eq_some_iff.1 hmode
    exact mode.settle_ne_auto _

end Compilation

end Companion
