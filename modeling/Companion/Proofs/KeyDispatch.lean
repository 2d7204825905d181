import Companion.Proofs.InheritedEquality

/-!
# How Key Members Are Compared and Hashed

A key member whose type has a key equality should be compared by it and hashed by it: what compares
as equal must not hash differently, and a unit even answers that two keys differ when their hashes
do. How a member is compared and how it is hashed are chosen apart, each by the type of the member,
and the two choices look at the type in different orders. Both give way to a dictionary or a
collection. Apart from these, comparison takes texts, scalars and enumerations before key equality;
hashing takes what it can turn into a number at once: booleans, 32-bit integers, arrays, and
collections that only say how many elements they have.

## Main results

* `Compilation.exists_comparison_byKey_iff`: when a member is compared by its key equality.
* `Pass.hashSource_eq_byKey_iff`: when a member is hashed by its key equality.
* `Pass.byKey_iff_byKey_iff`: a member is compared and hashed alike exactly when its type is taken
  before key equality by both choices or by neither.
* `counted_part_compared_by_key`: a key member on which the two choices differ.
-/

namespace Companion

namespace Compilation

variable (c : Compilation) {d : TypeDef} {m : EqualityMember}

/-- Whether values of a type are compared element by element: as a dictionary or as a
collection. -/
def isStructured (t : TypeRef) : Bool :=
  (c.dictionaryShape? t).isSome || (c.collectionShape? t).isSome

/-- Whether the language compares values of a type itself: texts, scalars and enumerations. -/
def isBuiltIn (t : TypeRef) : Bool :=
  c.special? t == some .string || (c.special? t).any (·.isScalar) || c.isEnum t

/-- Whether a value of a type is, or has, a number that serves as its hash: booleans and 32-bit
integers, and the length of an array or the count of an untyped collection. -/
def isNumbered (t : TypeRef) : Bool :=
  c.special? t == some .boolean || c.special? t == some .int32 || t.isArray ||
    c.isNonGenericCollection t

variable {c}

/-- A type that is no dictionary and no collection is compared as its definition says. -/
theorem comparison_of_not_isStructured (hcomparer : c.customComparer? d m.name = none)
    (hplain : c.isStructured m.type = false) :
    c.comparison d m =
      if c.special? m.type = some .string then .text m.options.string
      else if c.isBuiltIn m.type then .operator
      else if m.usesKeyEquality then .byKey (c.mayBeNull d.typeParameters m.type)
      else .standard := by
  obtain ⟨hdictionary, hcollection⟩ :
      c.dictionaryShape? m.type = none ∧ c.collectionShape? m.type = none := by
    simpa [isStructured] using hplain
  rw [comparison, hcomparer, hdictionary, hcollection]
  cases hspecial : c.special? m.type with
  | none => simp [isBuiltIn, hspecial]
  | some special => cases special <;> simp [isBuiltIn, hspecial]

/-- **A member is compared by its key equality** when it has one and its type is no dictionary, no
collection and not built in. -/
theorem exists_comparison_byKey_iff (hcomparer : c.customComparer? d m.name = none) :
    (∃ mayBeNull, c.comparison d m = .byKey mayBeNull) ↔
      c.isStructured m.type = false ∧ c.isBuiltIn m.type = false ∧ m.usesKeyEquality = true := by
  cases hplain : c.isStructured m.type with
  | true =>
      have hstructured : ∀ mayBeNull, c.comparison d m ≠ .byKey mayBeNull := by
        intro mayBeNull
        rw [comparison, hcomparer]
        cases hdictionary : c.dictionaryShape? m.type with
        | some shape => simp
        | none =>
            cases hcollection : c.collectionShape? m.type with
            | some shape => cases m.options.collection <;> simp
            | none => simp [isStructured, hdictionary, hcollection] at hplain
      simp [hstructured]
  | false =>
      rw [comparison_of_not_isStructured hcomparer hplain]
      by_cases htext : c.special? m.type = some .string
      · simp [isBuiltIn, htext]
      · cases c.isBuiltIn m.type <;> cases m.usesKeyEquality <;> simp [htext]

end Compilation

namespace Pass

variable {pass : Pass} {d : TypeDef} {m : EqualityMember}

/-- A member that is neither a boolean nor a 32-bit integer is hashed by what its type is made of,
else by its key equality, else by its definition. -/
theorem typeHashSource_of_ne (hboolean : pass.compilation.special? m.type ≠ some .boolean)
    (hinteger : pass.compilation.special? m.type ≠ some .int32) :
    pass.typeHashSource m =
      if m.type.isArray then .arrayLength
      else
        match pass.compilation.dictionaryShape? m.type with
        | some shape => .dictionaryCount shape
        | none =>
          match pass.compilation.collectionShape? m.type with
          | some shape => .collectionCount shape
          | none =>
            if pass.compilation.isNonGenericCollection m.type then .untypedCount
            else if m.usesKeyEquality then .byKey
            else if pass.compilation.isEnum m.type then .own
            else if pass.compilation.special? m.type == some .string then
              .text m.options.string.ignoreCase
            else if pass.hasOwnHash m.type then .own
            else .missing := by
  unfold typeHashSource
  dsimp only
  cases hspecial : pass.compilation.special? m.type with
  | none => rfl
  | some special =>
      cases special with
      | boolean => exact absurd hspecial hboolean
      | int32 => exact absurd hspecial hinteger
      | _ => rfl

/-- By its type alone, a member is hashed by its key equality when it has one and its type is no
dictionary, no collection and has no number for a hash. -/
theorem typeHashSource_eq_byKey_iff :
    pass.typeHashSource m = .byKey ↔
      pass.compilation.isStructured m.type = false ∧
        pass.compilation.isNumbered m.type = false ∧ m.usesKeyEquality = true := by
  by_cases hboolean : pass.compilation.special? m.type = some .boolean
  · simp [typeHashSource, Compilation.isNumbered, hboolean]
  by_cases hinteger : pass.compilation.special? m.type = some .int32
  · simp [typeHashSource, Compilation.isNumbered, hinteger]
  have hnumbered : pass.compilation.isNumbered m.type =
      (m.type.isArray || pass.compilation.isNonGenericCollection m.type) := by
    rw [Compilation.isNumbered, beq_eq_false_iff_ne.2 hboolean, beq_eq_false_iff_ne.2 hinteger,
      Bool.false_or, Bool.false_or]
  rw [typeHashSource_of_ne hboolean hinteger, hnumbered, Compilation.isStructured]
  cases m.type.isArray with
  | true => simp
  | false =>
      cases pass.compilation.dictionaryShape? m.type with
      | some shape => simp
      | none =>
          cases pass.compilation.collectionShape? m.type with
          | some shape => simp
          | none =>
              cases pass.compilation.isNonGenericCollection m.type with
              | true => simp
              | false =>
                  cases m.usesKeyEquality with
                  | true => simp
                  | false =>
                      -- what is left are hashes of the value itself
                      simp only [Bool.false_eq_true, if_false, and_false, iff_false]
                      split_ifs <;> simp

variable (pass) in
/-- **A member is hashed by its key equality** when it has one and its type is no dictionary, no
collection and has no number for a hash. -/
theorem hashSource_eq_byKey_iff (hhash : d.customHash? m.name m.type = none)
    (hcomparer : pass.compilation.customComparer? d m.name = none) :
    pass.hashSource d m = .byKey ↔
      pass.compilation.isStructured m.type = false ∧
        pass.compilation.isNumbered m.type = false ∧ m.usesKeyEquality = true := by
  rw [hashSource, hhash, hcomparer]
  exact typeHashSource_eq_byKey_iff

variable (pass) in
/-- **A key member is hashed by its key equality exactly when it is compared by it**, unless it has
a key equality, its type is no dictionary and no collection, and only one of the two choices takes
the type before key equality: comparison because it is built in, hashing because it has a number
for a hash. -/
theorem byKey_iff_byKey_iff (hhash : d.customHash? m.name m.type = none)
    (hcomparer : pass.compilation.customComparer? d m.name = none) :
    (pass.hashSource d m = .byKey ↔
        ∃ mayBeNull, pass.compilation.comparison d m = .byKey mayBeNull) ↔
      (m.usesKeyEquality = true → pass.compilation.isStructured m.type = false →
        pass.compilation.isNumbered m.type = pass.compilation.isBuiltIn m.type) := by
  rw [pass.hashSource_eq_byKey_iff hhash hcomparer,
    Compilation.exists_comparison_byKey_iff hcomparer]
  cases pass.compilation.isStructured m.type <;> cases pass.compilation.isNumbered m.type <;>
    cases pass.compilation.isBuiltIn m.type <;> cases m.usesKeyEquality <;> simp

end Pass

/-! ### Runs -/

/-- A type with a key, which implements the given interfaces. -/
def keyedPart (interfaces : List TypeRef) : TypeDef where
  «namespace» := "Shop"
  name := "Part"
  isPartial := true
  interfaces := interfaces
  attributes := [{ className := Vocabulary.generatedEquality }]
  members := [.property {
    name := "Id"
    type := .named "System.Int32" []
    attributes := [{ className := Vocabulary.equalityKey }] }]

/-- A type that has a part for its key. -/
def keyedOrder : TypeDef where
  «namespace» := "Shop"
  name := "Order"
  isPartial := true
  attributes := [{ className := Vocabulary.generatedEquality }]
  members := [.property {
    name := "Content"
    type := .named "Shop.Part" []
    attributes := [{ className := Vocabulary.equalityKey }] }]

/-- A program of an order and its part, on a core with the interface for key equality. -/
def orderProgram (interfaces : List TypeRef) : Program :=
  .onSmallCore [Program.stub "Uno.Equality" "IKeyEquatable", keyedPart interfaces, keyedOrder]

/-- What is asked of a run over an order: the order gets a unit with key equality, and the member
is in its key set and has no method and no comparer of its own. -/
structure HasKeyMember (c : Compilation) (config : Config) (order : TypeDef)
    (m : EqualityMember) : Prop where
  planned : order ∈ (Plan.of c config).equality
  declares : ((Plan.equalityPass c config).equalityUnit order).declaresKeyEquality = true
  mem_key : m ∈ (c.memberSets order).key
  customHash : order.customHash? m.name m.type = none
  customComparer : c.customComparer? order m.name = none

/-- The order of a program, and the member of its key set. -/
theorem exists_hasKeyMember (interfaces : List TypeRef) (source : HashSource)
    (comparison : Comparison)
    (h : (orderProgram interfaces).satisfies (fun c config _ =>
      (c.type? "Shop.Order").any fun (order : TypeDef) => (c.memberSets order).key.any fun m =>
        decide (NamesTarget c config order ∧
          ((Plan.equalityPass c config).equalityUnit order).declaresKeyEquality = true ∧
          order.customHash? m.name m.type = none ∧ c.customComparer? order m.name = none ∧
          (Plan.equalityPass c config).hashSource order m = source ∧
          c.comparison order m = comparison)) = true) :
    ∃ c config g order m,
      Compilation.ofProgram (orderProgram interfaces) = .ok c ∧
      Config.resolve c = .ok config ∧ generate c = .ok g ∧ HasKeyMember c config order m ∧
      (Plan.equalityPass c config).hashSource order m = source ∧
      c.comparison order m = comparison := by
  obtain ⟨c, config, g, hc, hconfig, hg, hcheck⟩ := Program.exists_run _ _ h
  obtain ⟨order, horder, hcheck⟩ := (Option.any_eq_true _ _).1 hcheck
  obtain ⟨m, hm, hcheck⟩ := List.any_eq_true.1 hcheck
  obtain ⟨hname, hdeclares, hhash, hcomparer, hsource, hcomparison⟩ := of_decide_eq_true hcheck
  have hplanned : order ∈ (Plan.of c config).equality :=
    (Plan.mem_equality_iff (Compilation.type?_eq_some_iff.1 horder).1).2 hname
  exact ⟨c, config, g, order, m, hc, hconfig, hg,
    ⟨hplanned, hdeclares, hm, hhash, hcomparer⟩, hsource, hcomparison⟩

/-- A key member that is no collection of any kind is compared and hashed by its key equality. -/
theorem plain_part_by_key :
    ∃ c config g order m,
      Compilation.ofProgram (orderProgram []) = .ok c ∧
      Config.resolve c = .ok config ∧ generate c = .ok g ∧ HasKeyMember c config order m ∧
      m.usesKeyEquality = true ∧ c.isStructured m.type = false ∧
      c.isNumbered m.type = c.isBuiltIn m.type := by
  obtain ⟨c, config, g, order, m, hc, hconfig, hg, hkey, hsource, hcomparison⟩ :=
    exists_hasKeyMember [] .byKey (.byKey true) (by decide +kernel)
  obtain ⟨hplain, -, huses⟩ :=
    ((Plan.equalityPass c config).hashSource_eq_byKey_iff hkey.customHash hkey.customComparer).1
      hsource
  exact ⟨c, config, g, order, m, hc, hconfig, hg, hkey, huses, hplain,
    ((Plan.equalityPass c config).byKey_iff_byKey_iff hkey.customHash hkey.customComparer).1
      (iff_of_true hsource ⟨true, hcomparison⟩) huses hplain⟩

/-- **A key member that is compared by its key and hashed by its count.** The part is a collection
that does not say what it holds. Two orders whose parts have one key and different counts have
different key hashes. -/
theorem counted_part_compared_by_key :
    ∃ c config g order m,
      Compilation.ofProgram (orderProgram [.named "System.Collections.ICollection" []]) = .ok c ∧
      Config.resolve c = .ok config ∧ generate c = .ok g ∧ HasKeyMember c config order m ∧
      (Plan.equalityPass c config).hashSource order m = .untypedCount ∧
      c.comparison order m = .byKey true :=
  exists_hasKeyMember [.named "System.Collections.ICollection" []] .untypedCount (.byKey true)
    (by decide +kernel)

end Companion
