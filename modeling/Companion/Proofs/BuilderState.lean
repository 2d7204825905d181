import Companion.Immutable.Base
import Companion.Proofs.Generation
import Companion.Proofs.MemberSets

/-!
# What a Builder Carries and What Equality Compares

A builder hands back the entity it started from when the entity it builds is equal to that one. So
a change to a property that equality does not compare is lost, and every property that a builder
carries should take part in equality. The two generators choose by conditions of their own: a
builder looks at how a property is stored, equality at who may read it and at the marks that leave
it out.

## Main results

* `comparesProperty_iff_of_isBuilderState`: when equality compares a property of a builder.
* `builderState_compared_iff`: all properties of a builder take part in equality exactly when none
  of them is private or left out by a mark.
* `ignored_property_lost`: a run in which one is left out.
-/

namespace Companion

namespace Compilation

variable (c : Compilation)

/-- Of the conditions on a property that takes part in equality, a builder leaves open who may read
it and whether it is left out by a mark. -/
theorem comparesProperty_iff_of_isBuilderState {p : Property} (h : p.isBuilderState = true) :
    c.comparesProperty p = true ↔
      .privateProtected ≤ p.getterAccessibility ∧ c.ignores p.attributes p.type = false := by
  simp only [Property.isBuilderState, Bool.and_eq_true, Bool.not_eq_true'] at h
  obtain ⟨⟨⟨⟨⟨hstatic, -⟩, -⟩, hindexer⟩, hwriteOnly⟩, himplicit⟩ := h
  simp [comparesProperty, hstatic, hindexer, hwriteOnly, himplicit]

/-- **Every property that a builder carries takes part in equality** exactly when each of them can
be read by more than its own type, and no mark on it or on its type leaves it out. The equality set
lists the properties that take part, and then the fields. -/
theorem builderState_compared_iff (d : TypeDef) :
    (c.memberSets d).equality =
        (d.properties.filter c.comparesProperty).map .ofProperty ++
          (d.fields.filter c.comparesField).map .ofField ∧
      ((∀ p ∈ d.properties, p.isBuilderState = true →
          p ∈ d.properties.filter c.comparesProperty) ↔
        ∀ p ∈ d.properties, p.isBuilderState = true →
          .privateProtected ≤ p.getterAccessibility ∧
            hasAttribute p.attributes Vocabulary.equalityIgnore = false ∧
            c.isIgnoredType p.type = false) := by
  refine ⟨c.equality_memberSets d, forall₂_congr fun p hp => imp_congr_right fun hbuilder => ?_⟩
  rw [List.mem_filter, and_iff_right hp, c.comparesProperty_iff_of_isBuilderState hbuilder,
    ignores, Bool.or_eq_false_iff]

end Compilation

/-- An entity with equality, one property of which equality is told to ignore. -/
def notedItem : TypeDef where
  «namespace» := "Shop"
  name := "Item"
  isPartial := true
  attributes := [{ className := Vocabulary.generatedImmutable },
    { className := Vocabulary.generatedEquality }]
  members := [
    .property { name := "Id", type := .named "System.Int32" [] },
    .property {
      name := "Note"
      type := .named "System.String" []
      attributes := [{ className := Vocabulary.equalityIgnore }] }]

/-- **A change to `Note` is lost**: it is part of the builder and not of equality, in a run that
generates both for its type. -/
theorem ignored_property_lost :
    ∃ c config g item note,
      Compilation.ofProgram (.onSmallCore [notedItem]) = .ok c ∧
      Config.resolve c = .ok config ∧ generate c = .ok g ∧
      item ∈ (Plan.of c config).immutable ∧ item ∈ (Plan.of c config).equality ∧
      note ∈ item.properties ∧ note.isBuilderState = true ∧
      .ofProperty note ∉ (c.memberSets item).equality := by
  obtain ⟨c, config, g, hc, hconfig, hg, hcheck⟩ :=
    Program.exists_run (.onSmallCore [notedItem])
      (fun c config _ => (c.type? "Shop.Item").any fun (item : TypeDef) =>
        decide (item.origin = Origin.source ∧ c.requestsImmutable item = true ∧
          Plan.wantsEquality c config item = true ∧
          (∃ p ∈ item.properties, p.name = "Note" ∧ p.isBuilderState = true) ∧
          (c.memberSets item).equality.map (·.name) = ["Id"]))
      (by decide +kernel)
  obtain ⟨item, hitem, hcheck⟩ := (Option.any_eq_true _ _).1 hcheck
  obtain ⟨hsource, himmutable, hequality, ⟨note, hnote, hname, hbuilder⟩, hnames⟩ :=
    of_decide_eq_true hcheck
  have htype : item ∈ c.types := (Compilation.type?_eq_some_iff.1 hitem).1
  refine ⟨c, config, g, item, note, hc, hconfig, hg, Plan.mem_select.2 ⟨htype, hsource, himmutable⟩,
    Plan.mem_select.2 ⟨htype, hsource, hequality⟩, hnote, hbuilder, fun hmem => ?_⟩
  have hlisted : note.name ∈ (c.memberSets item).equality.map (·.name) :=
    List.mem_map_of_mem (f := (·.name)) hmem
  rw [hnames, hname] at hlisted
  simp at hlisted

end Companion
