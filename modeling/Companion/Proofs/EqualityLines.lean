import Companion.Equality.Unit
import Companion.Proofs.GeneratedLines
import Companion.Proofs.ModelTexts

/-!
# The Lines of an Equality Unit

An equality unit names its type, its members, their types, and the shapes of those that are
collections. In a model without line feeds none of these has one, and each line of the unit opens
with fixed text.

## Main results

* `Compilation.oneLines_comparison`, `Compilation.oneLines_hashSource`: what members are compared
  and hashed by.
* `EqualityUnit.writtenAll_code`: the lines of the unit.
-/

namespace Companion

open Piece

/-! ### Members -/

/-- The strings that code takes from a member. -/
def EqualityMember.texts (m : EqualityMember) : List String := m.name :: m.type.texts

/-- The strings that code takes from the choice of a comparison. -/
def Comparison.texts : Comparison → List String
  | custom comparer => comparer.name :: comparer.location.toList.flatMap Location.texts
  | dictionary shape => shape.key.texts ++ shape.value.texts
  | collection shape _ _ => shape.element.texts
  | text _ | operator | byKey _ | standard => []

/-- The strings that code takes from the source of a hash. -/
def HashSource.texts : HashSource → List String
  | custom method => [method.name]
  | .comparer found => [found.name]
  | dictionaryCount shape => shape.key.texts ++ shape.value.texts
  | collectionCount shape => shape.element.texts
  | boolean | integer | arrayLength | untypedCount | byKey | text _ | own | missing => []

namespace Compilation

variable {c : Compilation} {d : TypeDef}

/-- The members that take part in equality are declared by the type. -/
theorem oneLines_comparedMembers (hd : OneLines d.texts) :
    ∀ e ∈ c.comparedMembers d, OneLines e.1.texts := by
  intro e he
  obtain ⟨⟨m, attributes⟩, hm, rfl⟩ := List.mem_map.1 he
  obtain ⟨⟨owner, member⟩, hmember, hvalue⟩ := List.mem_filterMap.1 (List.mem_of_mem_filter hm)
  have hdeclared : member ∈ d.members := by
    simp only [members, Bool.false_eq_true, if_false, List.flatMap_singleton, List.mem_append,
      List.mem_map, List.mem_filter, Prod.mk.injEq] at hmember
    grind
  have htexts := TypeDef.oneLines_member hd hdeclared
  cases member with
  | property p =>
      simp only [valueMember?] at hvalue
      split at hvalue
      · cases hvalue
      · cases hvalue
        simp_all [Member.texts, Property.texts, EqualityMember.texts]
  | field f =>
      cases hvalue
      simp_all [Member.texts, Field.texts, EqualityMember.texts]
  | method m => cases hvalue

/-- **The members of all sets** come without line feeds. -/
theorem oneLines_memberSets (hd : OneLines d.texts) :
    (∀ m ∈ (c.memberSets d).equality, OneLines m.texts) ∧
      (∀ m ∈ (c.memberSets d).hash, OneLines m.texts) ∧
      ∀ m ∈ (c.memberSets d).key, OneLines m.texts := by
  have hcompared := oneLines_comparedMembers (c := c) hd
  refine ⟨?_, ?_, ?_⟩
  · simpa [memberSets] using hcompared
  · intro m hm
    obtain ⟨e, he, rfl⟩ := List.mem_map.1 hm
    exact hcompared e (List.mem_of_mem_filter he)
  · intro m hm
    obtain ⟨⟨n, attributes⟩, he, hkey⟩ := List.mem_filterMap.1 hm
    obtain ⟨mode, -, rfl⟩ := Option.map_eq_some_iff.1 hkey
    exact hcompared _ he

variable (h : c.IsOneLine) (hd : d ∈ c.types) {m : EqualityMember} (hm : OneLines m.texts)

include h hd hm

/-- **How a member is compared** is chosen without line feeds. -/
theorem oneLines_comparison : OneLines (c.comparison d m).texts := by
  simp only [EqualityMember.texts, oneLines_cons] at hm
  unfold comparison
  split
  · next comparer hcomparer =>
      have hfound := oneLine_customComparer h hd hm.1 hcomparer
      simpa [Comparison.texts] using hfound
  · split
    · next shape hshape =>
        simpa [Comparison.texts] using oneLines_dictionaryShape h hm.2 hshape
    · split
      · next shape hshape =>
          split <;> exact oneLines_collectionShape h hm.2 hshape
      · split
        · simp [Comparison.texts]
        · split_ifs <;> simp [Comparison.texts]

end Compilation

namespace Pass

variable {pass : Pass} {d : TypeDef} {m : EqualityMember}

/-- The type alone gives a hash that is read off a shape of it, if it is a collection. -/
theorem oneLines_typeHashSource (h : pass.compilation.IsOneLine) (hm : OneLines m.type.texts) :
    OneLines (pass.typeHashSource m).texts := by
  simp only [typeHashSource]
  split
  · simp [HashSource.texts]
  · simp [HashSource.texts]
  · split
    · simp [HashSource.texts]
    · split
      · next shape hshape =>
          simpa [HashSource.texts] using Compilation.oneLines_dictionaryShape h hm hshape
      · split
        · next shape hshape => exact Compilation.oneLines_collectionShape h hm hshape
        · split_ifs <;> simp [HashSource.texts]

/-- **Where the hash of a member comes from** is chosen without line feeds. -/
theorem oneLines_hashSource (h : pass.compilation.IsOneLine)
    (hd : d ∈ pass.compilation.types) (hm : OneLines m.texts) :
    OneLines (pass.hashSource d m).texts := by
  simp only [EqualityMember.texts, oneLines_cons] at hm
  unfold hashSource
  split
  · next method hmethod =>
      simpa [HashSource.texts] using Compilation.oneLine_customHash h hd hmethod
  · split
    · next comparer hcomparer =>
        simpa [HashSource.texts] using
          (Compilation.oneLine_customComparer h hd hm.1 hcomparer).1
    · exact oneLines_typeHashSource h hm.2

end Pass

/-! ### Comparing and hashing -/

namespace Comparison

variable {comparison : Comparison} {m : EqualityMember} (hm : OneLines m.texts)

include hm

/-- The comments in front of a comparison. -/
theorem isLine_of_mem_hints {names : List String} (h : OneLines comparison.texts) :
    ∀ s ∈ comparison.hints m, IsLine names s := by
  obtain ⟨hname, htype⟩ := oneLines_cons.1 hm
  have htype := TypeRef.oneLine_display htype
  have hhint : ∀ s ∈ customComparerHint m.name m.type.display, IsLine names s := by
    simp (disch := exact Fixed.of rfl)
      [customComparerHint, hname, htype]
  cases comparison with
  | custom comparer =>
      have hlocation : OneLine
          ((comparer.location.map fun l => " declared at " ++ l.display).getD "") := by
        cases hl : comparer.location with
        | none => exact oneLine_empty
        | some l =>
            have hdisplay : OneLine l.display := Location.oneLine_display (by simp_all [texts])
            exact oneLine_append.2 ⟨.fixed rfl, hdisplay⟩
      have hcomparer : OneLine comparer.name := (oneLines_cons.1 h).1
      simp (disch := exact Fixed.of rfl)
        [hints, hname, hcomparer, hlocation]
  | dictionary => simp [hints]
  | collection =>
      rw [hints]
      split
      · simp (disch := exact Fixed.of rfl) [hname]
      · simp
  | text mode =>
      rw [hints, List.forall_mem_append]
      refine ⟨hhint, ?_⟩
      split
      · simp (disch := exact Fixed.of rfl)
      · simp
  | operator | byKey | standard => exact hhint

/-- The condition that the values of a member differ. -/
theorem oneLine_condition (h : OneLines comparison.texts) : OneLine (comparison.condition m) := by
  obtain ⟨hname, htype⟩ := oneLines_cons.1 hm
  have htype := TypeRef.oneLine_display htype
  unfold condition
  cases comparison with
  | custom comparer =>
      have hcomparer : OneLine comparer.name := (oneLines_cons.1 h).1
      simp (disch := exact Fixed.of rfl) [hname, hcomparer]
  | dictionary shape =>
      obtain ⟨hkey, hvalue⟩ := oneLines_append.1 h
      simp (disch := exact Fixed.of rfl) [hname, htype,
        TypeRef.oneLine_display hkey, TypeRef.oneLine_display hvalue]
  | collection shape =>
      simp (disch := exact Fixed.of rfl) [hname, htype, TypeRef.oneLine_display h]
  | text mode =>
      have hcomparer : OneLine (textComparer mode) := by
        unfold textComparer
        cases mode.ignoreCase with
        | true => exact oneLine_append.2 ⟨.fixed rfl, .fixed rfl⟩
        | false => exact oneLine_append.2 ⟨.fixed rfl, .fixed rfl⟩
      simp (disch := exact Fixed.of rfl) [hname, hcomparer]
  | operator => simp (disch := exact Fixed.of rfl) [hname]
  | byKey mayBeNull =>
      cases mayBeNull <;> simp (disch := exact Fixed.of rfl) [hname]
  | standard => simp (disch := exact Fixed.of rfl) [hname, htype]

end Comparison

/-- The expression for the hash of a member. -/
theorem HashSource.oneLine_expression {source : HashSource} {name expression : String}
    (hname : OneLine name) (h : OneLines source.texts)
    (hexpression : source.expression? name = some expression) : OneLine expression := by
  cases source with
  | custom method =>
      cases hexpression
      have hmethod : OneLine method.name := (oneLines_cons.1 h).1
      simp (disch := exact Fixed.of rfl) [hname, hmethod]
  | comparer found =>
      cases hexpression
      have hfound : OneLine found.name := (oneLines_cons.1 h).1
      simp (disch := exact Fixed.of rfl) [hname, hfound]
  | dictionaryCount shape =>
      cases hexpression
      obtain ⟨hkey, hvalue⟩ := oneLines_append.1 h
      simp (disch := exact Fixed.of rfl) [hname, TypeRef.oneLine_display hkey,
        TypeRef.oneLine_display hvalue]
  | collectionCount shape =>
      cases hexpression
      simp (disch := exact Fixed.of rfl) [hname, TypeRef.oneLine_display h]
  | text ignoresCase =>
      cases hexpression
      simp (disch := exact Fixed.of rfl) [hname]
  | boolean | integer | arrayLength | untypedCount | byKey | own =>
      cases hexpression
      simp (disch := exact Fixed.of rfl) [hname]
  | missing => cases hexpression

namespace Pass

variable {pass : Pass} {d : TypeDef} {names : List String}

/-- The comments in front of a hash. -/
theorem isLine_of_mem_hashHints {m : EqualityMember} (hm : OneLines m.texts) :
    ∀ s ∈ pass.hashHints d m, IsLine names s := by
  obtain ⟨hname, htype⟩ := oneLines_cons.1 hm
  have hdisplay := TypeRef.oneLine_display htype
  have hfriendly := TypeRef.oneLine_friendly htype
  simp only [hashHints, List.forall_mem_append, List.mem_singleton, forall_eq]
  refine ⟨⟨?_, ?_⟩, ?_⟩
  · simp (disch := exact Fixed.of rfl) [hname, hfriendly]
  · split
    · simp (disch := exact Fixed.of rfl) [hname, hdisplay]
    · simp
  · split
    · simp (disch := exact Fixed.of rfl) [hname, hdisplay]
    · simp

/-- The condition that a member holds a value. -/
theorem oneLine_hashGuard {m : EqualityMember} (hname : OneLine m.name) :
    ∀ guard ∈ pass.hashGuard? d m, OneLine guard := by
  intro guard hguard
  rw [Option.mem_def, hashGuard?] at hguard
  split at hguard
  · split at hguard
    · obtain rfl := Option.some.inj hguard
      simp (disch := exact Fixed.of rfl) [hname]
    · obtain rfl := Option.some.inj hguard
      simp (disch := exact Fixed.of rfl) [hname]
  · cases hguard

/-- The line that takes a hash in. -/
theorem isLine_hashFold {expression : String} (h : OneLine expression) (position : Nat) :
    IsLine names (hashFold expression position) := by
  unfold hashFold
  simp (disch := exact Fixed.of rfl) [h, OneLine.repr]

section Members

variable (h : pass.compilation.IsOneLine) (hd : d ∈ pass.compilation.types)

include h hd

/-- The step that compares a member. -/
theorem writtenAll_memberComparison {m : EqualityMember} (hm : OneLines m.texts) :
    WrittenAll (IsLine names) (pass.memberComparison d m) := by
  have hcomparison := Compilation.oneLines_comparison h hd hm
  have hhints : ∀ s ∈ (pass.compilation.comparison d m).hints m, IsLine names s :=
    Comparison.isLine_of_mem_hints hm hcomparison
  have hcondition := Comparison.oneLine_condition hm hcomparison
  have hname : OneLine m.name := (oneLines_cons.1 hm).1
  simp only [memberComparison, writtenAll_append, writtenAll_cons, written_blank, writtenAll_lines]
  refine ⟨⟨trivial, hhints⟩, ?_⟩
  simp (disch := exact Fixed.of rfl) [hcondition, hname]

/-- A body that compares members. -/
theorem writtenAll_comparisonBody {members : List EqualityMember}
    (hmembers : ∀ m ∈ members, OneLines m.texts) {baseCall : Option String}
    (hcall : ∀ call ∈ baseCall, OneLine call) :
    WrittenAll (IsLine names) (pass.comparisonBody d members baseCall) := by
  have hsteps : ∀ m ∈ members, WrittenAll (IsLine names) (pass.memberComparison d m) :=
    fun m hm => writtenAll_memberComparison h hd (hmembers m hm)
  simp only [comparisonBody, writtenAll_append, writtenAll_flatMap, writtenAll_ite]
  refine ⟨⟨⟨fun _ => by simp, fun _ => writtenAll_nil⟩, hsteps⟩, ?_⟩
  cases baseCall with
  | none => simp (disch := exact Fixed.of rfl)
  | some call => simp (disch := exact Fixed.of rfl) [hcall call rfl]

/-- The part of a hash body that belongs to a member. -/
theorem writtenAll_memberHash {m : EqualityMember} (hm : OneLines m.texts)
    (reported : List String) (position : Nat) :
    WrittenAll (IsLine names) (pass.memberHash d reported position m) := by
  have hname : OneLine m.name := (oneLines_cons.1 hm).1
  rw [memberHash, writtenAll_append, writtenAll_lines]
  refine ⟨isLine_of_mem_hashHints hm, ?_⟩
  cases hexpression : (pass.hashSource d m).expression? m.name with
  | none => simp
  | some expression =>
      have hfold : IsLine names (hashFold expression position) :=
        isLine_hashFold
          (HashSource.oneLine_expression hname (oneLines_hashSource h hd hm) hexpression) position
      cases hguard : pass.hashGuard? d m with
      | none => simp only [writtenAll_cons, writtenAll_nil, written_line, hfold, and_true]
      | some guard =>
          have hcondition := oneLine_hashGuard hname guard hguard
          simp (disch := exact Fixed.of rfl) [hcondition, isLine_iff.1 hfold]

/-- The parts of a hash body that belong to members. -/
theorem writtenAll_memberHashes {members : List EqualityMember} :
    (∀ m ∈ members, OneLines m.texts) → ∀ (reported : List String) (position : Nat),
      ∀ part ∈ pass.memberHashes d reported position members,
        WrittenAll (IsLine names) part := by
  induction members with
  | nil => simp [memberHashes]
  | cons m members ih =>
      intro hmembers reported position
      rw [memberHashes, List.forall_mem_cons]
      obtain ⟨hm, hmembers⟩ := List.forall_mem_cons.1 hmembers
      exact ⟨writtenAll_memberHash h hd hm reported position, ih hmembers _ _⟩

/-- **A body that hashes members.** -/
theorem writtenAll_hashBody {members : List EqualityMember}
    (hmembers : ∀ m ∈ members, OneLines m.texts) (reported : List String)
    {baseCall : Option String} (hcall : ∀ call ∈ baseCall, OneLine call) :
    WrittenAll (IsLine names) (pass.hashBody d reported members baseCall) := by
  have hparts : ∀ part ∈ pass.memberHashes d reported 0 members,
      WrittenAll (IsLine names) part := writtenAll_memberHashes h hd hmembers reported 0
  have hmemberCode : WrittenAll (IsLine names) (if members.isEmpty then []
      else [.braces "unchecked" (separated (pass.memberHashes d reported 0 members))]) := by
    split
    · exact writtenAll_nil
    · simpa (disch := exact Fixed.of rfl) using hparts
  have hreturn : IsLine names "return hash;" := .of_opens (.fixed rfl) (.fixed rfl)
  unfold hashBody
  split
  · simp (disch := exact Fixed.of rfl)
  · simp only [writtenAll_append, writtenAll_cons, writtenAll_nil, written_line, hmemberCode,
      hreturn, and_true]
    cases baseCall with
    | none => simp (disch := exact Fixed.of rfl) [OneLine.repr]
    | some call => simp (disch := exact Fixed.of rfl) [hcall call rfl]

end Members

end Pass

/-! ### The unit -/

namespace EqualityUnit

/-- An equality unit of a type of a compilation whose parts have no line feeds. -/
structure IsOneLine (u : EqualityUnit) : Prop where
  compilation : u.pass.compilation.IsOneLine
  mem : u.definition ∈ u.pass.compilation.types
  equality : ∀ m ∈ u.members.equality, OneLines m.texts
  hash : ∀ m ∈ u.members.hash, OneLines m.texts
  key : ∀ m ∈ u.members.key, OneLines m.texts

variable {u : EqualityUnit} {names : List String}

section Frame

/-- The lines that silence the compiler around a hash that is computed once. -/
theorem writtenAll_memoizedHash {modifiers method field compute : String}
    (hmodifiers : OneLine modifiers) (hopens : Opens modifiers) (hmethod : OneLine method)
    (hfield : OneLine field) (hcompute : OneLine compute) :
    WrittenAll (IsLine names) (memoizedHash modifiers method field compute) := by
  have hdisable : IsLine names "#pragma warning disable CS0171" :=
    .pragma "warning disable CS0171" (by simp) (.fixed rfl)
  have hrestore : IsLine names "#pragma warning restore CS0171" :=
    .pragma "warning restore CS0171" (by simp) (.fixed rfl)
  have hheader : Opens (modifiers ++ (" " ++ (method ++ "()"))) := hopens.append _
  simp (disch := exact Fixed.of rfl)
    [memoizedHash, isLine_iff.1 hdisable, isLine_iff.1 hrestore, hheader, hmodifiers, hmethod,
      hfield, hcompute]

variable (hname : OneLine u.name)

include hname

/-- The comparison with an object of any type is written on lines. -/
theorem written_untypedComparison {method : String} (hmethod : OneLine method) :
    Written (IsLine names) (u.untypedComparison method) := by
  rw [untypedComparison]
  split <;> simp (disch := exact Fixed.of rfl) [hname, hmethod]

/-- The static comparison is written on lines. -/
theorem writtenAll_staticEquals (hxml : OneLine u.definition.nameForXml) :
    WrittenAll (IsLine names) u.staticEquals := by
  simp (disch := exact Fixed.of rfl) [staticEquals, hname, hxml]

/-- The comparison with an object of the type is written on lines. -/
theorem writtenAll_typedEquals : WrittenAll (IsLine names) u.typedEquals := by
  simp (disch := exact Fixed.of rfl) [typedEquals, referenceChecks, hname]

/-- The overridden comparison is written on lines. -/
theorem writtenAll_untypedEquals : WrittenAll (IsLine names) u.untypedEquals := by
  have hcompare : Written (IsLine names) (u.untypedComparison "Equals") :=
    written_untypedComparison hname (.fixed rfl)
  simp (disch := exact Fixed.of rfl) [untypedEquals, hcompare]

/-- An operator is written on lines. -/
theorem writtenAll_operator {symbol result summary : String} (hsymbol : OneLine symbol)
    (hresult : OneLine result) (hsummary : OneLine summary) :
    WrittenAll (IsLine names) (u.operator symbol result summary) := by
  simp (disch := exact Fixed.of rfl) [operator, hname, hsymbol, hresult, hsummary]

end Frame

variable (h : u.IsOneLine)

include h

/-- The type is spelled on one line. -/
theorem IsOneLine.name : OneLine u.name :=
  TypeDef.oneLine_nameWithGenerics (h.compilation _ h.mem)

/-- The comparison of all members. -/
theorem writtenAll_innerEquals : WrittenAll (IsLine names) u.innerEquals := by
  have hname := h.name
  have hcall : WrittenAll (IsLine names) u.baseEqualsCall.1 ∧
      ∀ call ∈ u.baseEqualsCall.2, OneLine call := by
    unfold baseEqualsCall
    split
    · simp
    · split
      · simp (disch := exact Fixed.of rfl)
      · simp [warning]
  have hbody : WrittenAll (IsLine names)
      (u.pass.comparisonBody u.definition u.members.equality u.baseEqualsCall.2) :=
    Pass.writtenAll_comparisonBody h.compilation h.mem h.equality hcall.2
  simp (disch := exact Fixed.of rfl) [innerEquals, hname, hcall.1, hbody]

/-- The hash code. -/
theorem writtenAll_hashCode : WrittenAll (IsLine names) u.hashCode := by
  have hcall : WrittenAll (IsLine names) u.baseHashCall.1 ∧
      ∀ call ∈ u.baseHashCall.2, OneLine call := by
    unfold baseHashCall
    split
    · simp
    · split
      · simp (disch := exact Fixed.of rfl)
      · simp [warning]
  have hbody : WrittenAll (IsLine names)
      (u.pass.hashBody u.definition [] u.members.hash u.baseHashCall.2) :=
    Pass.writtenAll_hashBody h.compilation h.mem h.hash [] hcall.2
  have hmemoized : WrittenAll (IsLine names) (memoizedHash "public override int" "GetHashCode"
      "_computedHashCode" "ComputeHashCode") :=
    writtenAll_memoizedHash (.fixed rfl) (.fixed rfl) (.fixed rfl) (.fixed rfl) (.fixed rfl)
  simp (disch := exact Fixed.of rfl) [hashCode, hcall.1, hbody, hmemoized]

/-- Key equality and its hash code. -/
theorem writtenAll_keyEquality : WrittenAll (IsLine names) u.keyEquality := by
  have hname := h.name
  have hcall : ∀ {text : String}, OneLine text → ∀ call ∈ u.baseKeyCall text, OneLine call := by
    intro text htext call hcall
    rw [Option.mem_def, baseKeyCall] at hcall
    split at hcall
    · exact Option.some.inj hcall ▸ htext
    · cases hcall
  have hcompare : Written (IsLine names) (u.untypedComparison "KeyEquals") :=
    written_untypedComparison hname (.fixed rfl)
  have hcomparison : WrittenAll (IsLine names) (u.pass.comparisonBody u.definition u.members.key
      (u.baseKeyCall "base.KeyEquals(other)")) :=
    Pass.writtenAll_comparisonBody h.compilation h.mem h.key (hcall (.fixed rfl))
  have hbody : WrittenAll (IsLine names) (u.pass.hashBody u.definition u.unhashableNames
      u.members.key (u.baseKeyCall "base.GetKeyHashCode()")) :=
    Pass.writtenAll_hashBody h.compilation h.mem h.key _ (hcall (.fixed rfl))
  have hmemoized : WrittenAll (IsLine names) (memoizedHash "public int" "GetKeyHashCode"
      "_computedKeyHashCode" "ComputeKeyHashCode") :=
    writtenAll_memoizedHash (.fixed rfl) (.fixed rfl) (.fixed rfl) (.fixed rfl) (.fixed rfl)
  simp (disch := exact Fixed.of rfl) [keyEquality, referenceChecks, hname, hcompare, hcomparison,
    hbody, hmemoized]

/-- The members that the unit adds. -/
theorem writtenAll_memberCode : WrittenAll (IsLine names) u.memberCode := by
  have hname := h.name
  have hoperators : ∀ {symbol result summary : String}, Fixed OneLine symbol →
      Fixed OneLine result → Fixed OneLine summary →
        WrittenAll (IsLine names) (u.operator symbol result summary) :=
    fun hsymbol hresult hsummary =>
      writtenAll_operator hname hsymbol.holds hresult.holds hsummary.holds
  have hkeyed : WrittenAll (IsLine names)
      (if u.declaresKeyEquality then u.keyEquality else []) := by
    split
    · exact writtenAll_keyEquality h
    · exact writtenAll_nil
  rw [memberCode, writtenAll_append, writtenAll_separated]
  refine ⟨by simp [warning], ?_⟩
  simp only [List.forall_mem_cons]
  exact ⟨writtenAll_staticEquals hname (TypeDef.oneLine_nameForXml (h.compilation _ h.mem)),
    writtenAll_typedEquals hname, writtenAll_untypedEquals hname, writtenAll_innerEquals h,
    hoperators (.of rfl) (.of rfl) (.of rfl), hoperators (.of rfl) (.of rfl) (.of rfl),
    writtenAll_hashCode h, hkeyed, by simp⟩

/-- **The lines of an equality unit.** -/
theorem writtenAll_code : WrittenAll (IsLine names) u.code := by
  have hname := h.name
  have hnamespace := TypeDef.oneLine_namespace (h.compilation _ h.mem)
  have hmembers : WrittenAll (IsLine names) u.memberCode := writtenAll_memberCode h
  have hheader : IsLine names u.header := by
    simp (disch := exact Fixed.of rfl) [header, hname]
  have hpartial : WrittenAll (IsLine names) (if u.definition.isPartial then [] else
      [u.warning .equalityNotPartial ("The type " ++ u.definition.qualifiedName ++
        " must be partial to receive generated equality members.")]) := by
    simp [warning]
  simp only [code, writtenAll_append, writtenAll_cons, writtenAll_nil, writtenAll_unitHeader,
    written_inNamespace, written_braces, hnamespace, hpartial, hheader, hmembers, and_self]

end EqualityUnit

/-- The equality unit of a type of a compilation without line feeds. -/
theorem Pass.isOneLine_equalityUnit {pass : Pass} {d : TypeDef}
    (h : pass.compilation.IsOneLine) (hd : d ∈ pass.compilation.types) :
    (pass.equalityUnit d).IsOneLine := by
  obtain ⟨hequality, hhash, hkey⟩ :=
    Compilation.oneLines_memberSets (c := pass.compilation) (h d hd)
  exact ⟨h, hd, hequality, hhash, hkey⟩

end Companion
