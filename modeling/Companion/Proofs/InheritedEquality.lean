import Companion.Proofs.BaseChain
import Companion.Proofs.EqualityUnit
import Companion.Proofs.Generation

/-!
# Equality Continued into the Base Type

A derived type compares and hashes only its own members; those it inherits are covered when the
methods of its unit continue into the base type. They do so where the base type gets generated
equality, and where a type from the base on declares an override. This is less than the ancestors
of a type promise: a target further up goes unseen when the base type itself is no target and
nothing in between overrides the method.

## Main results

* `continues_iff`: when a method of a unit continues into the base type.
* `missing_mem_codes_iff`: when a unit warns that it does not.
* `continues_of_ancestor_iff`: for the targets of a run, which of the promises are kept: those of
  ancestors that declare an override always, those of ancestors that are targets exactly when the
  base type of the target is seen to have the method.
* `target_behind_base_unseen`: a run in which a target is an ancestor and is not continued into.
-/

namespace Companion

/-- The methods of the root object that equality overrides. -/
inductive ObjectMethod where
  | equals
  | hash
deriving DecidableEq

namespace ObjectMethod

def name : ObjectMethod → String
  | equals => "Equals"
  | hash => "GetHashCode"

/-- The number of parameters. -/
def arity : ObjectMethod → Nat
  | equals => 1
  | hash => 0

/-- The private method in which a unit does the work. -/
def worker : ObjectMethod → EqualityMethod
  | equals => .equals
  | hash => .hash

/-- The code of the warning that the base type does not have the method. -/
def missingCode : ObjectMethod → DiagnosticCode
  | equals => .baseEqualsMissing
  | hash => .baseHashMissing

/-- Whether a type declares an override of the method. -/
def declaredBy (m : ObjectMethod) (d : TypeDef) : Prop :=
  d.declaresOverride m.name m.arity = true

/-- Whether a body continues into the base type: a comparison by returning what the base type
finds, a hash by starting from that of the base type. -/
def ContinuesIn : ObjectMethod → List Piece → Prop
  | equals, body =>
    body.getLast? =
      some (.line "return base.Equals(other); // no differences found, check with base")
  | hash, body =>
    body.head? = some (.line "int hash = base.GetHashCode(); // start with hash from base")

end ObjectMethod

/-- Whether the base type has a method, as far as is known of it. -/
def BaseEquality.overrides (base : BaseEquality) : ObjectMethod → Bool
  | .equals => base.overridesEquals
  | .hash => base.overridesHash

namespace EqualityUnit

open Piece

variable (u : EqualityUnit)

/-- Whether a unit continues a method into the base type: the private method that does the work is
declared once, and its body continues there. -/
def Continues (m : ObjectMethod) : Prop :=
  ∃ body, bodiesAll (u.methodHeader m.worker) u.code = [body] ∧ m.ContinuesIn body

/-! ### What a unit does about its base type -/

/-- The work is declared once, so a unit continues into the base type when the body does. -/
theorem continues_iff_methodBody (m : ObjectMethod) :
    u.Continues m ↔ m.ContinuesIn (u.methodBody m.worker) := by
  have hdeclared : bodiesAll (u.methodHeader m.worker) u.code =
      [u.methodBody m.worker] := by
    rw [bodies_code]
    cases m <;> rfl
  simp [Continues, hdeclared]

/-- **A unit continues into the base type** exactly when that is known to have the method. -/
theorem continues_iff (m : ObjectMethod) :
    u.Continues m ↔ u.base.any (·.overrides m) = true := by
  rw [continues_iff_methodBody]
  cases m with
  | equals =>
      have hlast : (u.methodBody .equals).getLast? =
          (u.pass.comparisonBody u.definition u.members.equality u.baseEqualsCall.2).getLast? := by
        rw [methodBody, List.getLast?_append, getLast?_comparisonBody]
        rfl
      simp only [ObjectMethod.ContinuesIn, ObjectMethod.worker, hlast, getLast?_comparisonBody]
      rw [baseEqualsCall]
      cases u.base with
      | none => simp
      | some base => cases hbase : base.overridesEquals <;> simp [BaseEquality.overrides, hbase]
  | hash =>
      simp only [ObjectMethod.ContinuesIn, ObjectMethod.worker, methodBody]
      rw [baseHashCall]
      cases u.base with
      | none =>
          rcases head?_hashBody_none u.pass u.definition [] u.members.hash with h | ⟨found, h⟩
          · have hseed : "int hash = " ++ toString HashPrime.seed ++
                "; // 10 000th prime number" ≠
                  "int hash = base.GetHashCode(); // start with hash from base" := by
              decide
            simpa [h] using hseed
          · simp [h]
      | some base =>
          cases hbase : base.overridesHash with
          | false => simp [BaseEquality.overrides, hbase, warning]
          | true => simp [BaseEquality.overrides, hbase, head?_hashBody_some]

/-- Neither comparing nor hashing members warns of the base type. -/
theorem missingCode_not_mem_codes (m : ObjectMethod) (pass : Pass) (d : TypeDef)
    (members : List EqualityMember) (baseCall : Option String) :
    m.missingCode ∉ codes (pass.comparisonBody d members baseCall) ∧
      ∀ reported, m.missingCode ∉ codes (pass.hashBody d reported members baseCall) := by
  constructor
  · rw [codes_comparisonBody]
    split <;> cases m <;> simp [ObjectMethod.missingCode]
  · intro reported hmem
    rcases codes_hashBody pass d reported members baseCall _ hmem with h | h <;>
      cases m <;> cases h

/-- **A unit warns** exactly when it has a base type that is not known to have the method. -/
theorem missing_mem_codes_iff (m : ObjectMethod) :
    m.missingCode ∈ codes u.code ↔ u.base.any (fun base => !base.overrides m) = true := by
  have hquiet := missingCode_not_mem_codes m
  have hequals : m.missingCode ∈ codes (u.methodBody .equals) ↔
      m.missingCode ∈ codes u.baseEqualsCall.1 := by
    simp only [methodBody, codes_append, codes_line_cons, codes_nil, List.nil_append,
      List.mem_append, (hquiet _ _ _ _).1, or_false]
  have hhash : m.missingCode ∈ codes (u.methodBody .hash) ↔
      m.missingCode ∈ codes u.baseHashCall.1 := by
    simp only [methodBody, codes_append, List.mem_append, (hquiet _ _ _ _).2 _, or_false]
  have hkeys : m.missingCode ∉ (if u.declaresKeyEquality then
      codes (u.methodBody .keyEquals) ++ codes (u.methodBody .keyHash) else []) := by
    split
    · simp only [methodBody, codes_line_cons, List.mem_append, (hquiet _ _ _ _).1,
        (hquiet _ _ _ _).2 _, or_self, not_false_eq_true]
    · exact List.not_mem_nil
  simp only [codes_code, List.mem_append, hequals, hhash, hkeys, or_false, codes_baseEqualsCall,
    codes_baseHashCall]
  cases m <;> simp [ObjectMethod.missingCode, BaseEquality.overrides]

end EqualityUnit

/-! ### What is known of a base type -/

namespace Pass

variable {pass : Pass}

/-- What is assumed of a base type: nothing of a root type, and of another one what its
definition shows. -/
theorem baseEquality?_any_overrides {d : TypeDef} {base : TypeRef} (hbase : d.baseType = some base)
    (m : ObjectMethod) :
    (pass.baseEquality? d).any (·.overrides m) =
      (!base.isRoot && (pass.compilation.resolve? base).any fun b =>
        pass.generatesEquality b || pass.compilation.overridesMethod b m.name m.arity) := by
  unfold baseEquality? guard
  cases hroot : base.isRoot with
  | true =>
      simp only [hbase, Option.bind_eq_bind, Option.bind_some, hroot]
      rfl
  | false =>
      cases hresolve : pass.compilation.resolve? base <;> cases m <;>
        simp [hbase, hresolve, hroot, BaseEquality.overrides, ObjectMethod.name,
          ObjectMethod.arity]

/-- **The base type is known to have a method** when it is no root type, and gets generated
equality or has an override of the method, its own or inherited. -/
theorem baseEquality?_any_overrides_iff {d : TypeDef} (m : ObjectMethod) :
    (pass.baseEquality? d).any (·.overrides m) = true ↔
      ∃ b, pass.compilation.Derives d b ∧ b.fullName ∉ rootTypes ∧
        (pass.generatesEquality b = true ∨
          ∃ a, pass.compilation.Inherits b a ∧ a.fullName ≠ "System.Object" ∧
            m.declaredBy a) := by
  cases hbase : d.baseType with
  | none =>
      have hnothing : pass.baseEquality? d = none := by
        rw [baseEquality?, hbase]
        rfl
      simp [hnothing, Compilation.Derives, Compilation.baseType?, hbase]
  | some base =>
      have hderives : ∀ b, pass.compilation.Derives d b ↔
          pass.compilation.resolve? base = some b := by
        simp [Compilation.Derives, Compilation.baseType?, hbase]
      simp only [baseEquality?_any_overrides hbase, Bool.and_eq_true, Bool.not_eq_true',
        Option.any_eq_true, Bool.or_eq_true, ← exists_and_left, hderives]
      refine exists_congr fun b => ?_
      rw [and_left_comm]
      refine and_congr_right fun hresolve => ?_
      rw [← Compilation.isRoot_iff hresolve, Bool.not_eq_true]
      exact and_congr_right fun _ => or_congr_right
        (Compilation.overridesMethod_iff ((hderives b).2 hresolve).mem_types)

/-- The unit of a type reports that a method is missing exactly when it has a base type that is
not known to have it. -/
theorem exists_missing_iff {d : TypeDef} (m : ObjectMethod) :
    (∃ problem ∈ (pass.equalityArtifact d).diagnostics, problem.code = m.missingCode) ↔
      (pass.baseEquality? d).any (fun base => !base.overrides m) = true := by
  rw [← List.mem_map, equalityArtifact, Artifact.codes_of]
  exact (pass.equalityUnit d).missing_mem_codes_iff m

/-- A unit that reports a method as missing does not continue it. -/
theorem not_continues_of_missing {d : TypeDef} {m : ObjectMethod}
    (h : ∃ problem ∈ (pass.equalityArtifact d).diagnostics, problem.code = m.missingCode) :
    ¬ (pass.equalityUnit d).Continues m := by
  obtain ⟨base, hbase, hmissing⟩ := (Option.any_eq_true _ _).1 ((exists_missing_iff m).1 h)
  intro hcontinues
  obtain ⟨base', hbase', hknown⟩ := (Option.any_eq_true _ _).1
    (((pass.equalityUnit d).continues_iff m).1 hcontinues)
  obtain rfl : base = base' := Option.some.inj (hbase.symm.trans hbase')
  simp [hknown] at hmissing

/-- A unit continues a method, and does not report it as missing, exactly when the base type is
known to have it. -/
theorem continues_and_silent_iff {d : TypeDef} (m : ObjectMethod) :
    ((pass.equalityUnit d).Continues m ∧
      ∀ problem ∈ (pass.equalityArtifact d).diagnostics, problem.code ≠ m.missingCode) ↔
      (pass.baseEquality? d).any (·.overrides m) = true := by
  refine Iff.trans (and_iff_left_of_imp ?_) ((pass.equalityUnit d).continues_iff m)
  intro hcontinues problem hproblem hcode
  exact not_continues_of_missing ⟨problem, hproblem, hcode⟩ hcontinues

end Pass

/-! ### Targets of a run -/

/-- The pass that writes the equality units of a run. -/
def Plan.equalityPass (c : Compilation) (config : Config) : Pass :=
  ⟨c, config, targetNames (Plan.of c config).equality⟩

namespace Plan

variable {c : Compilation} {config : Config}

/-- A type of the compilation is a target when its name is that of one. -/
theorem mem_equality_iff {b : TypeDef} (hb : b ∈ c.types) :
    b ∈ (Plan.of c config).equality ↔
      b.fullName ∈ (Plan.of c config).equality.map (·.fullName) :=
  mem_targets_iff_fullName_mem .equality hb

/-- **A type of the compilation gets generated equality** when it is a target, or is declared in
the sources and marked. -/
theorem generatesEquality_iff {b : TypeDef} (hb : b ∈ c.types) :
    (equalityPass c config).generatesEquality b = true ↔
      b ∈ (Plan.of c config).equality ∨
        b.origin = .source ∧ c.hasFlattened b Vocabulary.generatedEquality = true := by
  have hplans : (equalityPass c config).plans b = true ↔ b ∈ (Plan.of c config).equality := by
    rw [mem_equality_iff hb]
    exact List.contains_iff_mem
  simp only [Pass.generatesEquality, Bool.and_eq_true, Bool.or_eq_true, hplans, beq_iff_eq,
    and_or_left]
  exact or_congr_left (and_iff_right_of_imp fun h => (mem_select.1 h).2.1)

end Plan

/-- **The promises of ancestors** to a target, for `Equals` and for `GetHashCode`. An ancestor
short of the root types promises the method when it declares an override or is a target itself.
The promises are kept, in the code and in the problems of the unit, exactly if any target among
the ancestors comes with a base type that gets generated equality or has an override. -/
theorem continues_of_ancestor_iff {c : Compilation} {engine : PatternEngine} {config : Config}
    {g : Generation} (hconfig : Config.resolve c engine = .ok config)
    (h : generate c engine = .ok g) {d : TypeDef}
    (hd : d ∈ (Plan.of c config).equality) (m : ObjectMethod) :
    (Plan.equalityPass c config).equalityArtifact d ∈ g.artifacts ∧
      (((∃ a, c.Ancestor d a ∧ (m.declaredBy a ∨ a ∈ (Plan.of c config).equality)) →
          ((Plan.equalityPass c config).equalityUnit d).Continues m ∧
            ∀ problem ∈ ((Plan.equalityPass c config).equalityArtifact d).diagnostics,
              problem.code ≠ m.missingCode) ↔
        ((∃ a, c.Ancestor d a ∧ a ∈ (Plan.of c config).equality) →
          ∃ b, c.Derives d b ∧
            (b ∈ (Plan.of c config).equality ∨
              (b.origin = .source ∧ c.hasFlattened b Vocabulary.generatedEquality = true) ∨
              ∃ a, c.Inherits b a ∧ a.fullName ≠ "System.Object" ∧ m.declaredBy a))) := by
  refine ⟨Plan.artifact_mem .equality hconfig h hd, ?_⟩
  have hkept : (((Plan.equalityPass c config).equalityUnit d).Continues m ∧
      ∀ problem ∈ ((Plan.equalityPass c config).equalityArtifact d).diagnostics,
        problem.code ≠ m.missingCode) ↔
      ∃ b, c.Derives d b ∧ b.fullName ∉ rootTypes ∧
        ((Plan.equalityPass c config).generatesEquality b = true ∨
          ∃ a, c.Inherits b a ∧ a.fullName ≠ "System.Object" ∧ m.declaredBy a) :=
    (Pass.continues_and_silent_iff m).trans (Pass.baseEquality?_any_overrides_iff m)
  rw [hkept]
  constructor
  · rintro hpromised ⟨a, ha, htarget⟩
    obtain ⟨b, hb, -, hknown⟩ := hpromised ⟨a, ha, .inr htarget⟩
    rw [Plan.generatesEquality_iff hb.mem_types, or_assoc] at hknown
    exact ⟨b, hb, hknown⟩
  · rintro hseen ⟨a, ha, hdeclared | htarget⟩
    · obtain ⟨b, hb, hroot, hinherits⟩ := ha.exists_base
      refine ⟨b, hb, hroot, .inr ⟨a, hinherits, fun hobject => ha.not_root ?_, hdeclared⟩⟩
      simp [hobject, rootTypes]
    · obtain ⟨b, hb, hroot, -⟩ := ha.exists_base
      obtain ⟨b', hb', hknown⟩ := hseen ⟨a, ha, htarget⟩
      obtain rfl := hb.unique hb'
      rw [← or_assoc, ← Plan.generatesEquality_iff hb.mem_types] at hknown
      exact ⟨b, hb, hroot, hknown⟩

/-! ### A family with a member left out -/

/-- An entity of a family, with one property and with or without equality. -/
def familyEntity (name : String) (base : Option String) (generatesEquality : Bool) :
    TypeDef where
  «namespace» := "Shop"
  name := name
  isPartial := true
  baseType := base.map fun b => .named b []
  attributes := [{
    className := Vocabulary.generatedImmutable
    namedArguments := [⟨"GenerateEquality", .bool generatesEquality⟩] }]
  members := [.property {
    name := name ++ "Id"
    type := .named "System.Int32" []
    attributes := [{ className := Vocabulary.equalityHash }] }]

/-- The name of a type is among those of the equality targets. -/
abbrev NamesTarget (c : Compilation) (config : Config) (d : TypeDef) : Prop :=
  d.fullName ∈ (Plan.of c config).equality.map (·.fullName)

/-- An entity derived from another one, both with equality, continues either method into it. -/
theorem continues_into_target :
    ∃ c config g leaf,
      Compilation.ofProgram (.onSmallCore [familyEntity "Root" none true,
        familyEntity "Leaf" (some "Shop.Root") true]) = .ok c ∧
      Config.resolve c = .ok config ∧ generate c = .ok g ∧
      leaf ∈ (Plan.of c config).equality ∧
      ∀ m, ((Plan.equalityPass c config).equalityUnit leaf).Continues m := by
  obtain ⟨c, config, g, hc, hconfig, hg, hcheck⟩ :=
    Program.exists_run (.onSmallCore [familyEntity "Root" none true,
        familyEntity "Leaf" (some "Shop.Root") true])
      (fun c config _ => (c.type? "Shop.Leaf").any fun leaf => (c.baseType? leaf).any fun root =>
        decide (NamesTarget c config leaf ∧ NamesTarget c config root ∧
          root.fullName ∉ rootTypes))
      (by decide +kernel)
  obtain ⟨leaf, hleaf, hcheck⟩ := (Option.any_eq_true _ _).1 hcheck
  obtain ⟨root, hroot, hcheck⟩ := (Option.any_eq_true _ _).1 hcheck
  obtain ⟨hleafName, hrootName, hbelow⟩ := of_decide_eq_true hcheck
  have hroot : c.Derives leaf root := hroot
  have hleafTarget : leaf ∈ (Plan.of c config).equality :=
    (Plan.mem_equality_iff (Compilation.type?_eq_some_iff.1 hleaf).1).2 hleafName
  have hrootTarget : root ∈ (Plan.of c config).equality :=
    (Plan.mem_equality_iff hroot.mem_types).2 hrootName
  refine ⟨c, config, g, leaf, hc, hconfig, hg, hleafTarget, fun m => ?_⟩
  have hkept := (continues_of_ancestor_iff hconfig hg hleafTarget m).2.2
    fun _ => ⟨root, hroot, .inl hrootTarget⟩
  exact (hkept ⟨root, .single ⟨hroot, hbelow⟩, .inr hrootTarget⟩).1

/-- **A target behind a base type that is none.** `Leaf` and `Root` are targets, and `Middle`
between them is left out of equality. The unit of `Leaf` continues neither method, and reports
that its base type overrides neither, though the unit of `Root` gives `Middle` both. -/
theorem target_behind_base_unseen :
    ∃ c config g leaf middle root,
      Compilation.ofProgram (.onSmallCore [familyEntity "Root" none true,
        familyEntity "Middle" (some "Shop.Root") false,
        familyEntity "Leaf" (some "Shop.Middle") true]) = .ok c ∧
      Config.resolve c = .ok config ∧ generate c = .ok g ∧
      leaf ∈ (Plan.of c config).equality ∧ leaf.kind = .class ∧
      c.Derives leaf middle ∧ c.Derives middle root ∧ c.baseType? root = none ∧
      c.Ancestor leaf root ∧ root ∈ (Plan.of c config).equality ∧
      (Plan.equalityPass c config).equalityArtifact leaf ∈ g.artifacts ∧
      ∀ m : ObjectMethod, ¬ ((Plan.equalityPass c config).equalityUnit leaf).Continues m ∧
        ∃ problem ∈ ((Plan.equalityPass c config).equalityArtifact leaf).diagnostics,
          problem.code = m.missingCode := by
  obtain ⟨c, config, g, hc, hconfig, hg, hcheck⟩ :=
    Program.exists_run (.onSmallCore [familyEntity "Root" none true,
        familyEntity "Middle" (some "Shop.Root") false,
        familyEntity "Leaf" (some "Shop.Middle") true])
      (fun c config _ => (c.type? "Shop.Leaf").any fun leaf =>
        (c.baseType? leaf).any fun middle => (c.baseType? middle).any fun root =>
          decide (leaf.kind = .class ∧ c.baseType? root = none ∧
            NamesTarget c config leaf ∧ NamesTarget c config root ∧
            middle.fullName ∉ rootTypes ∧ root.fullName ∉ rootTypes ∧
            ∀ code ∈ [DiagnosticCode.baseEqualsMissing, .baseHashMissing],
              ∃ problem ∈ ((Plan.equalityPass c config).equalityArtifact leaf).diagnostics,
                problem.code = code))
      (by decide +kernel)
  obtain ⟨leaf, hleaf, hcheck⟩ := (Option.any_eq_true _ _).1 hcheck
  obtain ⟨middle, hmiddle, hcheck⟩ := (Option.any_eq_true _ _).1 hcheck
  obtain ⟨root, hroot, hcheck⟩ := (Option.any_eq_true _ _).1 hcheck
  obtain ⟨hkind, hend, hleafName, hrootName, hmiddleBelow, hrootBelow, hmissing⟩ :=
    of_decide_eq_true hcheck
  have hmiddle : c.Derives leaf middle := hmiddle
  have hroot : c.Derives middle root := hroot
  have hleafTarget : leaf ∈ (Plan.of c config).equality :=
    (Plan.mem_equality_iff (Compilation.type?_eq_some_iff.1 hleaf).1).2 hleafName
  refine ⟨c, config, g, leaf, middle, root, hc, hconfig, hg, hleafTarget, hkind, hmiddle, hroot,
    hend, .tail (.single ⟨hmiddle, hmiddleBelow⟩) ⟨hroot, hrootBelow⟩,
    (Plan.mem_equality_iff hroot.mem_types).2 hrootName,
    Plan.artifact_mem .equality hconfig hg hleafTarget, fun m => ?_⟩
  have hreported : ∃ problem ∈ ((Plan.equalityPass c config).equalityArtifact leaf).diagnostics,
      problem.code = m.missingCode :=
    hmissing m.missingCode (by cases m <;> simp [ObjectMethod.missingCode])
  exact ⟨Pass.not_continues_of_missing hreported, hreported⟩

end Companion
