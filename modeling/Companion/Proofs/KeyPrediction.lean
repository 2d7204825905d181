import Companion.Proofs.KeyInheritance
import Companion.Proofs.MemberSets

/-!
# Key Equality Expected of a Member's Type

A key mark can leave open how its member is compared. It is then settled by the type of the member:
on key equality if the type implements the interface, or declares a property with a key mark and so
will implement it once its own unit is there. The unit of that type is written under conditions of
its own: the type has to be a target, and what gives it keys is a member that takes part in its
equality, or a base type. A key mark on a property can be there without either, and then a unit
casts a member to an interface that its type does not have.

## Main results

* `Compilation.hasKeyMembers_iff`: when a type has a key member.
* `keys_provided_iff`: when all members of a target that are settled on key equality have a type
  with a key equality.
* `keys_expected_of_compiled_part`: a run in which one has not.
-/

namespace Companion

namespace Compilation

variable (c : Compilation)

/-- A key member that is left open by its mark and settled on key equality. -/
def SettlesOnKeys (d : TypeDef) (m : EqualityMember) : Prop :=
  ∃ attributes, (m, attributes) ∈ c.comparedMembers d ∧ keyMode? attributes = some .auto ∧
    KeyEqualityMode.auto.settle (c.hasKeyEquality d.typeParameters m.type) = .useKeyEquality

variable {c}

/-- A member settled on key equality is in the key set, to be compared that way. -/
theorem SettlesOnKeys.mem_key {d : TypeDef} {m : EqualityMember} (h : c.SettlesOnKeys d m) :
    { m with mode := .useKeyEquality } ∈ (c.memberSets d).key := by
  obtain ⟨attributes, hcompared, hmode, hsettled⟩ := h
  exact List.mem_filterMap.2 ⟨(m, attributes), hcompared, by simp [hmode, hsettled]⟩

/-- An open mark is settled on key equality for a type that implements the interface or declares a
property with a key mark. -/
theorem SettlesOnKeys.hasKeyEquality {d : TypeDef} {m : EqualityMember}
    (h : c.SettlesOnKeys d m) :
    c.isKeyEquatable d.typeParameters m.type = true ∨
      ∃ e, c.resolve? m.type = some e ∧
        ∃ p ∈ e.properties, (keyMode? p.attributes).isSome = true := by
  obtain ⟨attributes, -, -, hsettled⟩ := h
  have hkeys : c.hasKeyEquality d.typeParameters m.type = true := by
    by_contra hnone
    simp [KeyEqualityMode.settle, hnone] at hsettled
  simpa [Compilation.hasKeyEquality, Option.any_eq_true, List.any_eq_true] using hkeys

/-- **A type has a key member** when a property or a field with a key mark takes part in its
equality. -/
theorem hasKeyMembers_iff {d : TypeDef} :
    c.hasKeyMembers d = true ↔
      (∃ p ∈ d.properties, c.comparesProperty p = true ∧
          (keyMode? p.attributes).isSome = true) ∨
        ∃ f ∈ d.fields, c.comparesField f = true ∧ (keyMode? f.attributes).isSome = true := by
  have hcompared : c.hasKeyMembers d = true ↔
      ∃ member ∈ c.comparedMembers d, (keyMode? member.2).isSome = true := by
    rw [hasKeyMembers, Bool.not_eq_true', ← Bool.not_eq_true, List.isEmpty_iff]
    simp [memberSets, List.filterMap_eq_nil_iff, Option.isSome_iff_ne_none]
  rw [hcompared, comparedMembers_eq]
  simp [or_and_right, exists_or, and_assoc]

end Compilation

/-! ### Targets of a run -/

namespace Plan

variable {c : Compilation} {config : Config}

/-- Whether values of a type have a key equality once the units of a run are there: the type
implements the interface, perhaps by a constraint, or it is a target and its unit lists it. -/
def ProvidesKeys (c : Compilation) (config : Config) (scope : List TypeParameter) (t : TypeRef) :
    Prop :=
  c.isKeyEquatable scope t = true ∨
    ∃ e, c.resolve? t = some e ∧ e ∈ (Plan.of c config).equality ∧
      ((equalityPass c config).equalityUnit e).ListsKeyEquality

end Plan

/-- **The key equality that a target expects of its members' types is provided** exactly if every
type that is expected to have it, and does not implement it yet, is a target itself and gets it: by
a key member of its own, or by a level above its base type that counts as keyed. -/
theorem keys_provided_iff {c : Compilation} {engine : PatternEngine} {config : Config}
    {g : Generation} (hconfig : Config.resolve c engine = .ok config)
    (h : generate c engine = .ok g)
    (hkeys : config.capabilities.keyEquality = true) {d : TypeDef}
    (hd : d ∈ (Plan.of c config).equality) :
    (Plan.equalityPass c config).equalityArtifact d ∈ g.artifacts ∧
      ((∀ m, c.SettlesOnKeys d m → Plan.ProvidesKeys c config d.typeParameters m.type) ↔
        ∀ m e, c.SettlesOnKeys d m → c.isKeyEquatable d.typeParameters m.type = false →
          c.resolve? m.type = some e →
          e ∈ (Plan.of c config).equality ∧
            ((∃ p ∈ e.properties, c.comparesProperty p = true ∧
                (keyMode? p.attributes).isSome = true) ∨
              (∃ f ∈ e.fields, c.comparesField f = true ∧
                (keyMode? f.attributes).isSome = true) ∨
              ∃ b, c.Derives e b ∧ b.fullName ∉ rootTypes ∧
                ∃ a, c.Inherits b a ∧ (Plan.equalityPass c config).isKeyEquatable a = true)) := by
  refine ⟨Plan.artifact_mem .equality hconfig h hd, forall_congr' fun m => ?_⟩
  have hlists : ∀ e, ((Plan.equalityPass c config).equalityUnit e).ListsKeyEquality ↔ _ :=
    fun e => (Plan.listsKeyEquality_iff hkeys).trans
      (or_congr Pass.baseEquality?_any_isKeyEquatable_iff Compilation.hasKeyMembers_iff)
  constructor
  · intro hprovided e hsettled hplain hresolve
    rcases hprovided hsettled with himplements | ⟨e', hresolve', htarget, hkeyed⟩
    · rw [hplain] at himplements
      cases himplements
    · obtain rfl : e = e' := Option.some.inj (hresolve.symm.trans hresolve')
      refine ⟨htarget, ?_⟩
      rcases (hlists e).1 hkeyed with hbase | hproperty | hfield
      · exact .inr (.inr hbase)
      · exact .inl hproperty
      · exact .inr (.inl hfield)
  · intro hexpected hsettled
    cases hplain : c.isKeyEquatable d.typeParameters m.type with
    | true => exact .inl hplain
    | false =>
        rcases hsettled.hasKeyEquality with himplements | ⟨e, hresolve, -⟩
        · rw [hplain] at himplements
          cases himplements
        · obtain ⟨htarget, hgets⟩ := hexpected e hsettled hplain hresolve
          refine .inr ⟨e, hresolve, htarget, (hlists e).2 ?_⟩
          rcases hgets with hproperty | hfield | hbase
          · exact .inr (.inl hproperty)
          · exact .inr (.inr hfield)
          · exact .inl hbase

/-! ### Runs -/

/-- An order and the part that its key member holds: the member was left open by its mark and is
settled on key equality, and the type of it does not implement the interface. -/
structure ExpectsKeys (c : Compilation) (config : Config) (order part : TypeDef)
    (m : EqualityMember) : Prop where
  keyEquality : config.capabilities.keyEquality = true
  planned : order ∈ (Plan.of c config).equality
  settled : c.SettlesOnKeys order m
  plain : c.isKeyEquatable order.typeParameters m.type = false
  resolved : c.resolve? m.type = some part

/-- The order of a program, its key member and the part that this holds. -/
theorem exists_expectsKeys (part : TypeDef)
    (check : Compilation → Config → TypeDef → TypeDef → Bool)
    (h : (Program.onSmallCore
        [Program.stub "Uno.Equality" "IKeyEquatable", part, keyedOrder]).satisfies
      (fun c config _ => (c.type? "Shop.Order").any fun (order : TypeDef) =>
        (c.comparedMembers order).any fun (m, attributes) => (c.resolve? m.type).any fun part =>
          decide (config.capabilities.keyEquality = true ∧ NamesTarget c config order ∧
            keyMode? attributes = some .auto ∧
            KeyEqualityMode.auto.settle (c.hasKeyEquality order.typeParameters m.type) =
              .useKeyEquality ∧
            c.isKeyEquatable order.typeParameters m.type = false ∧
            check c config order part = true)) = true) :
    ∃ c config g order part' m,
      Compilation.ofProgram (.onSmallCore
        [Program.stub "Uno.Equality" "IKeyEquatable", part, keyedOrder]) = .ok c ∧
      Config.resolve c = .ok config ∧ generate c = .ok g ∧
      ExpectsKeys c config order part' m ∧ check c config order part' = true := by
  obtain ⟨c, config, g, hc, hconfig, hg, hcheck⟩ := Program.exists_run _ _ h
  obtain ⟨order, horder, hcheck⟩ := (Option.any_eq_true _ _).1 hcheck
  obtain ⟨⟨m, attributes⟩, hcompared, hcheck⟩ := List.any_eq_true.1 hcheck
  obtain ⟨part', hresolve, hcheck⟩ := (Option.any_eq_true _ _).1 hcheck
  obtain ⟨hkeys, hname, hmode, hsettled, hplain, hcheck⟩ := of_decide_eq_true hcheck
  exact ⟨c, config, g, order, part', m, hc, hconfig, hg,
    ⟨hkeys, (Plan.mem_equality_iff (Compilation.type?_eq_some_iff.1 horder).1).2 hname,
      ⟨attributes, hcompared, hmode, hsettled⟩, hplain, hresolve⟩, hcheck⟩

/-- A part of the sources with a key member of its own has the key equality that is expected of
it. -/
theorem source_part_provides_keys :
    ∃ c config g order part m,
      Compilation.ofProgram (orderProgram []) = .ok c ∧
      Config.resolve c = .ok config ∧ generate c = .ok g ∧
      ExpectsKeys c config order part m ∧
      (∀ m, c.SettlesOnKeys order m →
        Plan.ProvidesKeys c config order.typeParameters m.type) := by
  obtain ⟨c, config, g, order, part, m, hc, hconfig, hg, hexpects, hcheck⟩ :=
    exists_expectsKeys (keyedPart []) (fun c config order _ =>
      (c.comparedMembers order).all fun (m, _) => (c.resolve? m.type).all fun e =>
        decide (NamesTarget c config e ∧ ∃ p ∈ e.properties, c.comparesProperty p = true ∧
          (keyMode? p.attributes).isSome = true)) (by decide +kernel)
  refine ⟨c, config, g, order, part, m, hc, hconfig, hg, hexpects,
    (keys_provided_iff hconfig hg hexpects.keyEquality hexpects.planned).2.2
      fun m e hsettled _ hresolve => ?_⟩
  obtain ⟨attributes, hcompared, -, -⟩ := hsettled
  have hmember := List.all_eq_true.1 hcheck (m, attributes) hcompared
  simp only [hresolve, Option.all_some] at hmember
  obtain ⟨hname, hproperty⟩ := of_decide_eq_true hmember
  have htype : e ∈ c.types := (Compilation.resolve?_eq_some_iff.1 hresolve).1
  exact ⟨(Plan.mem_equality_iff htype).2 hname, .inl hproperty⟩

/-- **A compiled part with a key mark is expected to have a key equality that it has not.** No unit
is written for it, and it does not implement the interface. -/
theorem keys_expected_of_compiled_part :
    ∃ c config g order part m,
      Compilation.ofProgram (.onSmallCore [Program.stub "Uno.Equality" "IKeyEquatable",
        { keyedPart [] with origin := .metadata }, keyedOrder]) = .ok c ∧
      Config.resolve c = .ok config ∧ generate c = .ok g ∧
      ExpectsKeys c config order part m ∧ part.origin = .metadata ∧
      (Plan.equalityPass c config).equalityArtifact order ∈ g.artifacts ∧
      { m with mode := .useKeyEquality } ∈ (c.memberSets order).key ∧
      ¬ Plan.ProvidesKeys c config order.typeParameters m.type := by
  obtain ⟨c, config, g, order, part, m, hc, hconfig, hg, hexpects, hcheck⟩ :=
    exists_expectsKeys { keyedPart [] with origin := .metadata }
      (fun _ _ _ part => decide (part.origin = .metadata)) (by decide +kernel)
  have horigin : part.origin = .metadata := of_decide_eq_true hcheck
  refine ⟨c, config, g, order, part, m, hc, hconfig, hg, hexpects, horigin,
    Plan.artifact_mem .equality hconfig hg hexpects.planned, hexpects.settled.mem_key, ?_⟩
  rintro (himplements | ⟨e, hresolve, htarget, -⟩)
  · rw [hexpects.plain] at himplements
    cases himplements
  · obtain rfl : part = e := Option.some.inj (hexpects.resolved.symm.trans hresolve)
    have hsource : part.origin = .source := (Plan.mem_select.1 htarget).2.1
    rw [horigin] at hsource
    cases hsource

end Companion
