import Companion.Proofs.KeyDispatch

/-!
# Key Equality Continued into the Base Type

Key equality is inherited: a unit declares it for a type with a key member, and for a type below
one that has it, and there it continues into the base type. Whether some level above has it is asked
of each level by what is declared there: that it implements the interface, or that it gets generated
equality and has a key member. A target that has its keys from above only is not counted for its
own sake, and need not be, since what it has them from is counted too.

What is counted too much is a marked type of the sources that is no target: an interface or an
enumeration, for which no unit is written. And the levels are counted past a root type that has a
base type itself.

## Main results

* `EqualityUnit.continuesKey_iff`: when a key method of a unit continues into the base type.
* `Pass.baseEquality?_any_isKeyEquatable_iff`: which levels make a base type count as keyed.
* `continuesKey_of_ancestor`: what the keys of an ancestor mean for a target.
* `continuesKey_iff_ancestor_iff`: when a unit continues into the base type exactly for the keys of
  an ancestor.
* `keys_of_marked_interface`: a run in which a unit continues into keys that no unit declares.
-/

namespace Companion

/-! ### The interfaces that a unit lists -/

namespace Piece

mutual

/-- The headers of the types that a piece opens: those of the blocks that stand in no block. -/
def typeHeaders : Piece → List String
  | .line _ | .blank | .indent | .dedent | .diagnostic _ => []
  | .block opening _ _ => [opening]
  | .region _ body | .inNamespace _ body => typeHeadersAll body

/-- The headers of the types that pieces open. -/
def typeHeadersAll : List Piece → List String
  | [] => []
  | p :: ps => typeHeaders p ++ typeHeadersAll ps

end

theorem typeHeadersAll_eq_flatMap (ps : List Piece) :
    typeHeadersAll ps = ps.flatMap typeHeaders := by
  induction ps with
  | nil => rfl
  | cons p ps ih => rw [typeHeadersAll, ih, List.flatMap_cons]

end Piece

namespace EqualityUnit

open Piece

variable (u : EqualityUnit)

/-- Whether a unit declares that its type has a key equality: the type that it opens lists the two
interfaces. -/
def ListsKeyEquality : Prop :=
  ∃ opening, typeHeadersAll u.code =
    [opening ++ ", global::Uno.Equality.IKeyEquatable<" ++ u.name ++
      ">, global::Uno.Equality.IKeyEquatable"]

/-- A unit opens one type. -/
theorem typeHeadersAll_code : typeHeadersAll u.code = [u.header] := by
  have hpartial : ∀ message, (if u.definition.isPartial then []
      else [u.warning .equalityNotPartial message]).flatMap typeHeaders = [] := by
    intro message
    split <;> simp [warning, typeHeaders]
  simp [code, unitHeader, typeHeadersAll_eq_flatMap, typeHeaders, hpartial, braces]

/-- **A unit lists the interfaces** exactly when it declares key equality. -/
theorem listsKeyEquality_iff : u.ListsKeyEquality ↔ u.declaresKeyEquality = true := by
  rw [ListsKeyEquality, typeHeadersAll_code]
  cases hkeys : u.declaresKeyEquality with
  | true =>
      refine iff_of_true ⟨u.definition.accessibility.modifiers ++ " partial " ++
        (if u.isClass then "class" else "struct") ++ " " ++ u.name ++
        " : global::System.IEquatable<" ++ u.name ++ ">", ?_⟩ rfl
      simp [header, hkeys, ← String.toList_inj]
  | false =>
      -- without them the header ends with the bracket that closes the first interface
      refine iff_of_false ?_ Bool.false_ne_true
      rintro ⟨opening, hheader⟩
      have hplain : ">".toList.getLast? = some '>' := rfl
      have hkeyed : ">, global::Uno.Equality.IKeyEquatable".toList.getLast? = some 'e' := rfl
      have hlast := congrArg (·.map fun s : String => s.toList.getLast?) hheader
      simp only [header, hkeys, Bool.false_eq_true, if_false, String.append_empty, List.map_cons,
        List.map_nil, String.toList_append, List.getLast?_append, hplain, hkeyed,
        Option.some_or] at hlast
      simp at hlast

end EqualityUnit

/-! ### Methods for keys -/

/-- The methods of key equality. -/
inductive KeyMethod where
  | equals
  | hash
deriving DecidableEq

namespace KeyMethod

/-- The private method in which a unit does the work. -/
def worker : KeyMethod → EqualityMethod
  | equals => .keyEquals
  | hash => .keyHash

/-- Whether a body continues into the base type: a comparison by returning what the base type
finds, a hash by starting from that of the base type. -/
def ContinuesIn : KeyMethod → List Piece → Prop
  | equals, body =>
    body.getLast? =
      some (.line "return base.KeyEquals(other); // no differences found, check with base")
  | hash, body =>
    body.head? = some (.line "int hash = base.GetKeyHashCode(); // start with hash from base")

end KeyMethod

namespace EqualityUnit

open Piece

variable (u : EqualityUnit)

/-- Whether a unit continues a key method into the base type: the private method that does the work
is declared once, and its body continues there. -/
def ContinuesKey (m : KeyMethod) : Prop :=
  ∃ body, bodiesAll (u.methodHeader m.worker) u.code = [body] ∧ m.ContinuesIn body

/-- The body of a key method continues into the base type when that has keys. -/
theorem continuesIn_methodBody_iff (m : KeyMethod) :
    m.ContinuesIn (u.methodBody m.worker) ↔ u.base.any (·.isKeyEquatable) = true := by
  cases m with
  | equals =>
      simp only [KeyMethod.ContinuesIn, KeyMethod.worker, methodBody, List.getLast?_cons,
        getLast?_comparisonBody, baseKeyCall]
      cases u.base.any (·.isKeyEquatable) <;> simp
  | hash =>
      simp only [KeyMethod.ContinuesIn, KeyMethod.worker, methodBody, baseKeyCall]
      cases u.base.any (·.isKeyEquatable) with
      | true => simp [head?_hashBody_some]
      | false =>
          rcases head?_hashBody_none u.pass u.definition u.unhashableNames u.members.key with
            h | ⟨found, h⟩
          · have hseed : "int hash = " ++ toString HashPrime.seed ++
                "; // 10 000th prime number" ≠
                  "int hash = base.GetKeyHashCode(); // start with hash from base" := by
              decide
            simpa [h] using hseed
          · simp [h]

/-- **A unit continues a key method** exactly when it declares key equality and the base type has
keys. -/
theorem continuesKey_iff (m : KeyMethod) :
    u.ContinuesKey m ↔
      u.declaresKeyEquality = true ∧ u.base.any (·.isKeyEquatable) = true := by
  have hdeclared : u.declares m.worker = u.declaresKeyEquality := by cases m <;> rfl
  rw [ContinuesKey, bodies_code, hdeclared, ← u.continuesIn_methodBody_iff m]
  cases u.declaresKeyEquality <;> simp

end EqualityUnit

/-! ### What counts as keyed -/

namespace Pass

variable {pass : Pass}

/-- **A base type counts as keyed** when it is no root type, and it or a type above it does. -/
theorem baseEquality?_any_isKeyEquatable_iff {d : TypeDef} :
    (pass.baseEquality? d).any (·.isKeyEquatable) = true ↔
      ∃ b, pass.compilation.Derives d b ∧ b.fullName ∉ rootTypes ∧
        ∃ a, pass.compilation.Inherits b a ∧ pass.isKeyEquatable a = true := by
  cases hbase : d.baseType with
  | none =>
      have hnothing : pass.baseEquality? d = none := by
        rw [baseEquality?, hbase]
        rfl
      simp [hnothing, Compilation.Derives, Compilation.baseType?, hbase]
  | some base =>
      have hderives : ∀ b, pass.compilation.Derives d b ↔
          pass.compilation.resolve? base = some b := by
        simp [Compilation.Derives, Compilation.baseType?, hbase]
      have hlevels : ∀ b, pass.compilation.resolve? base = some b →
          ((b :: pass.compilation.baseChain b).any pass.isKeyEquatable = true ↔
            ∃ a, pass.compilation.Inherits b a ∧ pass.isKeyEquatable a = true) := by
        intro b hresolve
        simp only [List.any_eq_true,
          Compilation.mem_baseChain_iff ((hderives b).2 hresolve).mem_types]
      unfold baseEquality? guard
      cases hroot : base.isRoot with
      | true =>
          simp only [hbase, Option.bind_eq_bind, Option.bind_some, hroot]
          refine iff_of_false Bool.false_ne_true ?_
          rintro ⟨b, hb, hbelow, -⟩
          exact hbelow ((Compilation.isRoot_iff ((hderives b).1 hb)).1 hroot)
      | false =>
          cases hresolve : pass.compilation.resolve? base with
          | none => simp [hbase, hroot, hresolve, hderives]
          | some b =>
              have hbelow : b.fullName ∉ rootTypes := by
                rw [← Compilation.isRoot_iff hresolve, hroot]
                exact Bool.false_ne_true
              have hlevel := hlevels b hresolve
              simp only [List.any_cons] at hlevel
              simp [hbase, hroot, hresolve, hderives, hbelow, hlevel]

/-- A level counts as keyed when it is no root type, and it implements the interface, or gets
generated equality and has a key member. -/
theorem isKeyEquatable_iff (hkeys : pass.config.capabilities.keyEquality = true) {a : TypeDef} :
    pass.isKeyEquatable a = true ↔
      a.fullName ∉ rootTypes ∧
        (pass.compilation.isKeyEquatable a.typeParameters a.selfRef = true ∨
          pass.generatesEquality a = true ∧ pass.compilation.hasKeyMembers a = true) := by
  simp [isKeyEquatable, hkeys]

end Pass

/-! ### Targets of a run -/

/-- A marked type of the sources with a key member, for which no unit is written: it is neither a
class nor a structure. -/
structure Compilation.IsKeyedWithoutUnit (c : Compilation) (a : TypeDef) : Prop where
  source : a.origin = .source
  marked : c.hasFlattened a Vocabulary.generatedEquality = true
  noUnit : a.isExtensible = false
  hasKeyMembers : c.hasKeyMembers a = true

namespace Plan

variable {c : Compilation} {config : Config}

/-- Whether a type has a key equality once the units of a run are there: it implements the
interface, or is a target and its unit lists it. -/
def HasKeys (c : Compilation) (config : Config) (a : TypeDef) : Prop :=
  c.isKeyEquatable a.typeParameters a.selfRef = true ∨
    a ∈ (Plan.of c config).equality ∧ ((equalityPass c config).equalityUnit a).ListsKeyEquality

/-- A unit lists key equality for a type with a key member, and for one whose base type counts as
keyed. -/
theorem listsKeyEquality_iff (hkeys : config.capabilities.keyEquality = true) {a : TypeDef} :
    ((equalityPass c config).equalityUnit a).ListsKeyEquality ↔
      ((equalityPass c config).baseEquality? a).any (·.isKeyEquatable) = true ∨
        c.hasKeyMembers a = true := by
  rw [EqualityUnit.listsKeyEquality_iff, EqualityUnit.declaresKeyEquality,
    EqualityUnit.wantsKeyEquality]
  simp [Pass.equalityUnit, equalityPass, hkeys, Compilation.hasKeyMembers]

/-- A target continues a key method exactly when its base type counts as keyed. -/
theorem continuesKey_iff (hkeys : config.capabilities.keyEquality = true) {d : TypeDef}
    (m : KeyMethod) :
    ((equalityPass c config).equalityUnit d).ContinuesKey m ↔
      ((equalityPass c config).baseEquality? d).any (·.isKeyEquatable) = true := by
  rw [EqualityUnit.continuesKey_iff, ← EqualityUnit.listsKeyEquality_iff,
    listsKeyEquality_iff hkeys]
  exact and_iff_right_of_imp .inl

/-- A target with a key member counts as keyed below the root types. -/
theorem isKeyEquatable_of_mem (hkeys : config.capabilities.keyEquality = true) {a : TypeDef}
    (ha : a ∈ (Plan.of c config).equality) (hmembers : c.hasKeyMembers a = true)
    (hroot : a.fullName ∉ rootTypes) : (equalityPass c config).isKeyEquatable a = true :=
  (Pass.isKeyEquatable_iff hkeys).2
    ⟨hroot, .inr ⟨(generatesEquality_iff (mem_select.1 ha).1).2 (.inl ha), hmembers⟩⟩

/-- **A level that counts as keyed** has keys, or is marked and no unit is written for it. -/
theorem hasKeys_or_of_isKeyEquatable (hkeys : config.capabilities.keyEquality = true)
    {a : TypeDef} (ha : a ∈ c.types) (h : (equalityPass c config).isKeyEquatable a = true) :
    HasKeys c config a ∨ c.IsKeyedWithoutUnit a := by
  obtain ⟨-, himplements | ⟨hgenerates, hmembers⟩⟩ := (Pass.isKeyEquatable_iff hkeys).1 h
  · exact .inl (.inl himplements)
  · rcases (generatesEquality_iff ha).1 hgenerates with htarget | ⟨hsource, hmarked⟩
    · exact .inl (.inr ⟨htarget, (listsKeyEquality_iff hkeys).2 (.inr hmembers)⟩)
    · cases hextensible : a.isExtensible with
      | false => exact .inr ⟨hsource, hmarked, hextensible, hmembers⟩
      | true =>
          have hrequests : wantsEquality c config a = true := by
            simp [wantsEquality, Compilation.requestsEquality, hextensible, hmarked]
          exact .inl (.inr ⟨mem_select.2 ⟨ha, hsource, hrequests⟩,
            (listsKeyEquality_iff hkeys).2 (.inr hmembers)⟩)

/-- A marked type for which no unit is written counts as keyed all the same. -/
theorem isKeyEquatable_of_isKeyedWithoutUnit (hkeys : config.capabilities.keyEquality = true)
    {a : TypeDef} (ha : c.IsKeyedWithoutUnit a) (hroot : a.fullName ∉ rootTypes) :
    (equalityPass c config).isKeyEquatable a = true := by
  refine (Pass.isKeyEquatable_iff hkeys).2 ⟨hroot, .inr ⟨?_, ha.hasKeyMembers⟩⟩
  simp [Pass.generatesEquality, equalityPass, ha.source, ha.marked]

/-- **Keys of an ancestor reach the base type**: below an ancestor that has keys, the base type
counts as keyed. An ancestor that lists them without a key member of its own has them from above. -/
theorem baseEquality?_any_isKeyEquatable_of_ancestor
    (hkeys : config.capabilities.keyEquality = true) {d a : TypeDef} (hancestor : c.Ancestor d a)
    (ha : HasKeys c config a) :
    ((equalityPass c config).baseEquality? d).any (·.isKeyEquatable) = true := by
  obtain ⟨b, hb, hbelow, hinherits⟩ := hancestor.exists_base
  rw [Pass.baseEquality?_any_isKeyEquatable_iff]
  rcases ha with himplements | ⟨htarget, hlists⟩
  · exact ⟨b, hb, hbelow, a, hinherits,
      (Pass.isKeyEquatable_iff hkeys).2 ⟨hancestor.not_root, .inl himplements⟩⟩
  · rcases (listsKeyEquality_iff hkeys).1 hlists with hbase | hmembers
    · obtain ⟨b', hb', -, a', hinherits', hkeyed⟩ :=
        Pass.baseEquality?_any_isKeyEquatable_iff.1 hbase
      exact ⟨b, hb, hbelow, a', (hinherits.tail hb').trans hinherits', hkeyed⟩
    · exact ⟨b, hb, hbelow, a, hinherits,
        isKeyEquatable_of_mem hkeys htarget hmembers hancestor.not_root⟩

end Plan

/-- **Key equality is kept up below an ancestor that has it, and is continued for one that has it**,
with an exception. Below an ancestor short of the root types that has keys, the unit of a target
lists key equality and continues either method. It continues a method for such an ancestor only,
exactly if there is one wherever a level above is counted that should not be: a marked type for
which no unit is written, or a type that stands above a root type. -/
theorem continuesKey_iff_ancestor_iff {c : Compilation} {engine : PatternEngine} {config : Config}
    {g : Generation} (hconfig : Config.resolve c engine = .ok config)
    (h : generate c engine = .ok g)
    (hkeys : config.capabilities.keyEquality = true) {d : TypeDef}
    (hd : d ∈ (Plan.of c config).equality) (m : KeyMethod) :
    (Plan.equalityPass c config).equalityArtifact d ∈ g.artifacts ∧
      (∀ a, c.Ancestor d a → Plan.HasKeys c config a →
        ((Plan.equalityPass c config).equalityUnit d).ListsKeyEquality ∧
          ((Plan.equalityPass c config).equalityUnit d).ContinuesKey m) ∧
      ((((Plan.equalityPass c config).equalityUnit d).ContinuesKey m ↔
          ∃ a, c.Ancestor d a ∧ Plan.HasKeys c config a) ↔
        ∀ b a, c.Derives d b → b.fullName ∉ rootTypes → c.Inherits b a →
          a.fullName ∉ rootTypes →
          c.IsKeyedWithoutUnit a ∨
            (¬ c.Ancestor d a ∧ (Plan.equalityPass c config).isKeyEquatable a = true) →
          ∃ a', c.Ancestor d a' ∧ Plan.HasKeys c config a') := by
  have hreached : (∃ a, c.Ancestor d a ∧ Plan.HasKeys c config a) →
      ((Plan.equalityPass c config).baseEquality? d).any (·.isKeyEquatable) = true :=
    fun ⟨_, hancestor, ha⟩ => Plan.baseEquality?_any_isKeyEquatable_of_ancestor hkeys hancestor ha
  refine ⟨Plan.artifact_mem .equality hconfig h hd, fun a hancestor ha => ?_, ?_⟩
  · have hbase := hreached ⟨a, hancestor, ha⟩
    exact ⟨(Plan.listsKeyEquality_iff hkeys).2 (.inl hbase),
      (Plan.continuesKey_iff hkeys m).2 hbase⟩
  rw [Plan.continuesKey_iff hkeys m]
  constructor
  · rintro hclaim b a hb hbelow hinherits hroot hcounted
    refine hclaim.1 (Pass.baseEquality?_any_isKeyEquatable_iff.2 ⟨b, hb, hbelow, a, hinherits, ?_⟩)
    rcases hcounted with hmarked | ⟨-, hkeyed⟩
    · exact Plan.isKeyEquatable_of_isKeyedWithoutUnit hkeys hmarked hroot
    · exact hkeyed
  · intro hexception
    refine ⟨fun hbase => ?_, hreached⟩
    obtain ⟨b, hb, hbelow, a, hinherits, hkeyed⟩ :=
      Pass.baseEquality?_any_isKeyEquatable_iff.1 hbase
    have hroot : a.fullName ∉ rootTypes := ((Pass.isKeyEquatable_iff hkeys).1 hkeyed).1
    by_cases hancestor : c.Ancestor d a
    · rcases Plan.hasKeys_or_of_isKeyEquatable hkeys hancestor.mem_types hkeyed with ha | hmarked
      · exact ⟨a, hancestor, ha⟩
      · exact hexception b a hb hbelow hinherits hroot (.inl hmarked)
    · exact hexception b a hb hbelow hinherits hroot (.inr ⟨hancestor, hkeyed⟩)

/-! ### Runs -/

/-- A type derived from a part, without a key member of its own. -/
def specialPart : TypeDef where
  «namespace» := "Shop"
  name := "Special"
  isPartial := true
  baseType := some (.named "Shop.Part" [])
  attributes := [{ className := Vocabulary.generatedEquality }]
  members := [.property { name := "Grade", type := .named "System.Int32" [] }]

/-- A program of a part of some kind with a key, and a type derived from it, on a core with the
interface for key equality. -/
def partProgram (kind : TypeKind) : Program :=
  .onSmallCore [Program.stub "Uno.Equality" "IKeyEquatable", { keyedPart [] with kind },
    specialPart]

/-- What is asked of a run over a part and a type derived from it: that type is a class and a
target, and the part stands directly above it and has no base type. -/
structure DerivesFromPart (c : Compilation) (config : Config) (special part : TypeDef) : Prop where
  keyEquality : config.capabilities.keyEquality = true
  isClass : special.kind = .class
  planned : special ∈ (Plan.of c config).equality
  derives : c.Derives special part
  below : part.fullName ∉ rootTypes
  top : c.baseType? part = none

/-- The only ancestor of the derived type is the part. -/
theorem DerivesFromPart.eq_of_ancestor {c : Compilation} {config : Config}
    {special part a : TypeDef} (h : DerivesFromPart c config special part)
    (ha : c.Ancestor special a) : a = part := by
  obtain ⟨b, hb, -, hinherits⟩ := ha.exists_base
  obtain rfl := hb.unique h.derives
  rcases hinherits.cases_head with heq | ⟨e, he, -⟩
  · exact heq.symm
  · have hnone : c.baseType? b = some e := he
    simp [h.top] at hnone

/-- The part of a program and the type derived from it. -/
theorem exists_derivesFromPart (kind : TypeKind) (check : Compilation → Config → TypeDef → Bool)
    (h : (partProgram kind).satisfies (fun c config _ =>
      (c.type? "Shop.Special").any fun special => (c.baseType? special).any fun part =>
        decide (config.capabilities.keyEquality = true ∧ special.kind = .class ∧
          NamesTarget c config special ∧ part.fullName ∉ rootTypes ∧ c.baseType? part = none ∧
          check c config part = true)) = true) :
    ∃ c config g special part,
      Compilation.ofProgram (partProgram kind) = .ok c ∧
      Config.resolve c = .ok config ∧ generate c = .ok g ∧
      DerivesFromPart c config special part ∧ check c config part = true := by
  obtain ⟨c, config, g, hc, hconfig, hg, hcheck⟩ := Program.exists_run _ _ h
  obtain ⟨special, hspecial, hcheck⟩ := (Option.any_eq_true _ _).1 hcheck
  obtain ⟨part, hpart, hcheck⟩ := (Option.any_eq_true _ _).1 hcheck
  obtain ⟨hkeys, hkind, hname, hbelow, htop, hcheck⟩ := of_decide_eq_true hcheck
  exact ⟨c, config, g, special, part, hc, hconfig, hg,
    ⟨hkeys, hkind, (Plan.mem_equality_iff (Compilation.type?_eq_some_iff.1 hspecial).1).2 hname,
      hpart, hbelow, htop⟩, hcheck⟩

/-- A type derived from a class with a key continues either method into it. -/
theorem special_continues_part_keys :
    ∃ c config g special part,
      Compilation.ofProgram (partProgram .class) = .ok c ∧
      Config.resolve c = .ok config ∧ generate c = .ok g ∧
      DerivesFromPart c config special part ∧ Plan.HasKeys c config part ∧
      ((Plan.equalityPass c config).equalityUnit special).ListsKeyEquality ∧
      ∀ m, ((Plan.equalityPass c config).equalityUnit special).ContinuesKey m := by
  obtain ⟨c, config, g, special, part, hc, hconfig, hg, hparts, hcheck⟩ :=
    exists_derivesFromPart .class
      (fun c config part => decide (NamesTarget c config part ∧ c.hasKeyMembers part = true))
      (by decide +kernel)
  obtain ⟨hname, hmembers⟩ := of_decide_eq_true hcheck
  have htarget : part ∈ (Plan.of c config).equality :=
    (Plan.mem_equality_iff hparts.derives.mem_types).2 hname
  have hhas : Plan.HasKeys c config part :=
    .inr ⟨htarget, (Plan.listsKeyEquality_iff hparts.keyEquality).2 (.inr hmembers)⟩
  have hkept := fun m => (continuesKey_iff_ancestor_iff hconfig hg hparts.keyEquality
    hparts.planned m).2.1 part (.single ⟨hparts.derives, hparts.below⟩) hhas
  exact ⟨c, config, g, special, part, hc, hconfig, hg, hparts, hhas, (hkept .equals).1,
    fun m => (hkept m).2⟩

/-- **Keys of an interface that no unit gives it.** The part is an interface, marked and with a key
member. It implements nothing and is no target, and the type derived from it continues either method
into it all the same. -/
theorem keys_of_marked_interface :
    ∃ c config g special part,
      Compilation.ofProgram (partProgram .interface) = .ok c ∧
      Config.resolve c = .ok config ∧ generate c = .ok g ∧
      DerivesFromPart c config special part ∧
      (¬ ∃ a, c.Ancestor special a ∧ Plan.HasKeys c config a) ∧
      (Plan.equalityPass c config).equalityArtifact special ∈ g.artifacts ∧
      ∀ m, ((Plan.equalityPass c config).equalityUnit special).ContinuesKey m := by
  obtain ⟨c, config, g, special, part, hc, hconfig, hg, hparts, hcheck⟩ :=
    exists_derivesFromPart .interface
      (fun c config part => decide (
        c.isKeyEquatable part.typeParameters part.selfRef = false ∧ ¬ NamesTarget c config part ∧
        (Plan.equalityPass c config).isKeyEquatable part = true))
      (by decide +kernel)
  obtain ⟨himplements, hname, hkeyed⟩ := of_decide_eq_true hcheck
  have hbase : ((Plan.equalityPass c config).baseEquality? special).any (·.isKeyEquatable) = true :=
    Pass.baseEquality?_any_isKeyEquatable_iff.2
      ⟨part, hparts.derives, hparts.below, part, .refl, hkeyed⟩
  refine ⟨c, config, g, special, part, hc, hconfig, hg, hparts, ?_,
    Plan.artifact_mem .equality hconfig hg hparts.planned,
    fun m => (Plan.continuesKey_iff hparts.keyEquality m).2 hbase⟩
  rintro ⟨a, hancestor, himplemented | ⟨htarget, -⟩⟩
  · rw [hparts.eq_of_ancestor hancestor, himplements] at himplemented
    cases himplemented
  · rw [hparts.eq_of_ancestor hancestor] at htarget
    exact hname (List.mem_map_of_mem htarget)

end Companion
