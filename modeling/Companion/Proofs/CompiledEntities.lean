import Companion.Proofs.BaseChain
import Companion.Proofs.Generation
import Companion.Proofs.Validation

/-!
# Compiled Entities as Parts of Entities

The unit of an entity marks it as immutable and names its builder in an attribute, for passes that
meet the entity compiled. Such a pass reads the second mark in two ways. A base type with the mark
is an entity, and the mark tells its builder. A type of a member with the mark is taken for a
builder itself, and refused. So an entity that can be derived from cannot be held.

## Main results

* `mayHold_iff`: an entity may hold a type if it may hold the reference and its direct parts.
* `entityBase_of_namedBuilder`: a marked base type is an entity.
* `compiled_entity_accepted_iff`: a member of a compiled entity's type is accepted exactly when the
  compiled entity does not name its builder.
* `compiled_entity_refused`: an entity that is refused as a member and accepted as a base.
-/

namespace Companion

/-- The builder that an attribute on the type names. -/
def TypeDef.namedBuilder? (x : TypeDef) : Option TypeRef :=
  (findAttribute? x.attributes Vocabulary.immutableBuilder).bind fun a =>
    a.arguments[0]?.bind (·.asType?)

/-- Whether the type carries the attribute that names a builder. -/
def TypeDef.MarksBuilder (x : TypeDef) : Prop :=
  hasAttribute x.attributes Vocabulary.immutableBuilder = true

/-- A type that names its builder carries the attribute. -/
theorem TypeDef.marksBuilder_of_namedBuilder {x : TypeDef} {builder : TypeRef}
    (h : x.namedBuilder? = some builder) : x.MarksBuilder := by
  obtain ⟨a, ha, -⟩ := Option.bind_eq_some_iff.1 h
  rw [MarksBuilder, hasAttribute, ha]
  rfl

namespace Pass

variable {pass : Pass} {d x : TypeDef} {args : List TypeRef}

/-- A type may be held if the reference itself and its direct parts may be held. -/
theorem mayHold_iff {t : TypeRef} :
    pass.MayHold d t ↔ pass.Holdable d.typeParameters t ∧
      ∀ u ∈ directParts d.typeParameters t, pass.MayHold d u := by
  constructor
  · exact fun h => ⟨h t .refl, fun u hu part hpart => h part (.head hu hpart)⟩
  · rintro ⟨hself, hparts⟩ part hpart
    rcases Relation.ReflTransGen.cases_head hpart with rfl | ⟨u, hu, hrest⟩
    · exact hself
    · exact hparts u hu part hrest

/-- A reference to a type that is marked immutable is immutable, whatever its arguments. -/
theorem mem_immutableRefs_of_marked {scope : List TypeParameter}
    (hx : x ∈ pass.compilation.types)
    (himmutable : pass.compilation.hasFlattened x Vocabulary.immutable = true) :
    .named x.fullName args ∈ pass.compilation.immutableRefs scope pass.config.rules := by
  have hresolve := Compilation.resolve?_named hx args
  have hmarked : pass.compilation.isMarkedImmutable (.named x.fullName args) = true := by
    simp [Compilation.isMarkedImmutable, hresolve, himmutable]
  have hrule : pass.compilation.immutabilityRule scope pass.config.rules
      (.named x.fullName args) = .settled true := by
    simp [Compilation.immutabilityRule, hmarked]
  rw [Compilation.mem_immutableRefs_iff, hrule]
  rfl

/-- **A type marked immutable may be held**, with arguments that may be, unless it carries the
attribute that names a builder. -/
theorem mayHold_marked_iff (hx : x ∈ pass.compilation.types)
    (himmutable : pass.compilation.hasFlattened x Vocabulary.immutable = true)
    (hargs : ∀ arg ∈ args, pass.MayHold d arg) :
    pass.MayHold d (.named x.fullName args) ↔ ¬ x.MarksBuilder := by
  have hresolve := Compilation.resolve?_named hx args
  rw [mayHold_iff, TypeDef.MarksBuilder, Bool.not_eq_true]
  constructor
  · exact fun h => h.1.not_builder x hresolve
  · intro hplain
    refine ⟨⟨?_, fun definition hdefinition => ?_, ?_⟩, hargs⟩
    · exact mem_immutableRefs_of_marked hx himmutable
    · obtain rfl : x = definition := Option.some.inj (hresolve.symm.trans hdefinition)
      exact hplain
    · rintro name heq
      cases heq

/-- A type that carries the attribute is reported as a builder where a member has it. -/
theorem exists_memberIsBuilder (hx : x ∈ pass.compilation.types) (hmarks : x.MarksBuilder)
    (source : String) (location : Option Location) :
    ∃ problem ∈ pass.checkType d (.named x.fullName args) source location,
      problem.code = .memberIsBuilder ∧ problem.isError = true := by
  have hresolve := Compilation.resolve?_named hx args
  have hbuilder : ((pass.compilation.resolve? (.named x.fullName args)).any fun d =>
      hasAttribute d.attributes Vocabulary.immutableBuilder) = true := by
    rw [hresolve]
    exact hmarks
  obtain ⟨note, hnote⟩ : ∃ note, (.named x.fullName args, note) ∈
      checkedParts d.typeParameters (.named x.fullName args) source :=
    mem_checkedParts_iff.2 .refl
  obtain ⟨message, hproblem⟩ : ∃ message, pass.partProblem? d.typeParameters
      (.named x.fullName args) note = some (.memberIsBuilder, message) := by
    simp only [partProblem?, hbuilder, if_true]
    exact ⟨_, rfl⟩
  refine ⟨d.problem .immutable .error .memberIsBuilder message location,
    List.mem_filterMap.2 ⟨_, hnote, ?_⟩, rfl, rfl⟩
  simp only [hproblem, Option.map_some]

/-- **A base type that names its builder is an entity.** -/
theorem entityBase_of_namedBuilder (hx : x ∈ pass.compilation.types) {builder : TypeRef}
    (hbuilder : x.namedBuilder? = some builder) (hroot : x.fullName ∉ rootTypes) {e : TypeDef}
    (he : e.baseType = some (.named x.fullName args)) :
    pass.entityBase e = .entity (TypeRef.named x.fullName args).display
      (builderSpelling x (.named x.fullName args) builder) (pass.builderProperties x) := by
  have hresolve := Compilation.resolve?_named hx args
  have hbelow : (TypeRef.named x.fullName args).isRoot = false := by
    rwa [← Bool.not_eq_true, Compilation.isRoot_iff hresolve]
  have hfound : pass.builderOf? (.named x.fullName args) x =
      some (builderSpelling x (.named x.fullName args) builder) := by
    have hnamed : ((findAttribute? x.attributes Vocabulary.immutableBuilder).bind fun a =>
        a.arguments[0]?.bind (·.asType?)) = some builder := hbuilder
    simp only [builderOf?, hnamed]
  simp only [entityBase, he, hbelow, hresolve, hfound, Bool.false_eq_true, if_false]

end Pass

/-! ### Runs over compiled entities -/

/-- The pass that writes the units of the immutable entities of a run. -/
def Plan.immutablePass (c : Compilation) (config : Config) : Pass :=
  ⟨c, config, targetNames (Plan.of c config).immutable⟩

/-! ### Members that hold a type -/

/-- A member by which an entity holds a type. -/
inductive HeldMember where
  | property (p : Property)
  | field (f : Field)

namespace HeldMember

def type : HeldMember → TypeRef
  | property p => p.type
  | field f => f.type

/-- Whether the member is a read-only property of the instances of a type, or a read-only field
that the sources declare in them. -/
def IsReadOnlyIn (d : TypeDef) : HeldMember → Prop
  | property p =>
    p ∈ d.properties ∧ p.isStatic = false ∧ p.isIndexer = false ∧ p.hasSetter = false
  | field f => f ∈ d.fields ∧ f.isStatic = false ∧ f.isImplicit = false ∧ f.isReadonly = true

/-- The problems that validation finds with the member. -/
def problems (pass : Pass) (d : TypeDef) : HeldMember → List Diagnostic
  | property p => pass.validateProperty d p
  | field f => pass.validateField d f

variable {d : TypeDef} {m : HeldMember}

/-- The problems with a read-only member are those with its type. -/
theorem IsReadOnlyIn.problems_eq (h : m.IsReadOnlyIn d) (pass : Pass) :
    ∃ source location, m.problems pass d = pass.checkType d m.type source location := by
  cases m with
  | property p =>
      obtain ⟨-, hstatic, hindexer, hsetter⟩ := h
      exact ⟨_, _, by simp [problems, type, Pass.validateProperty, hstatic, hindexer, hsetter]; rfl⟩
  | field f =>
      obtain ⟨-, hstatic, himplicit, hreadonly⟩ := h
      exact ⟨_, _, by simp [problems, type, Pass.validateField, hstatic, himplicit, hreadonly]; rfl⟩

/-- The problems with a member are reported by the unit. -/
theorem IsReadOnlyIn.problems_subset (h : m.IsReadOnlyIn d) (pass : Pass) :
    m.problems pass d ⊆ (pass.immutableArtifact d).diagnostics := by
  have hvalidate : m.problems pass d ⊆ pass.validate d := by
    cases m with
    | property p =>
        refine fun problem hproblem => List.mem_append_left _ (List.mem_append_left _ ?_)
        exact List.mem_append_right _ (List.mem_flatMap.2 ⟨p, h.1, hproblem⟩)
    | field f =>
        exact fun problem hproblem =>
          List.mem_append_right _ (List.mem_flatMap.2 ⟨f, h.1, hproblem⟩)
  rw [Pass.diagnostics_immutableArtifact]
  exact fun problem hproblem =>
    List.mem_append_left _ (List.mem_append_left _ (hvalidate hproblem))

/-- A member of a type that carries the attribute is reported as a builder. -/
theorem IsReadOnlyIn.exists_memberIsBuilder (h : m.IsReadOnlyIn d) (pass : Pass) {x : TypeDef}
    {args : List TypeRef} (hx : x ∈ pass.compilation.types) (hmarks : x.MarksBuilder)
    (htype : m.type = .named x.fullName args) :
    ∃ problem ∈ m.problems pass d, problem.code = .memberIsBuilder ∧ problem.isError = true := by
  obtain ⟨source, location, hproblems⟩ := h.problems_eq pass
  rw [hproblems, htype]
  exact Pass.exists_memberIsBuilder hx hmarks source location

end HeldMember

/-- **Members of a compiled entity's type.** An entity of a run has a read-only member of a type
that is marked immutable, with arguments that may be held. The unit finds no error with the member
exactly if that type does not carry the attribute that names its builder; if it does, the unit
reports it as a builder. A type that derives from it is linked to it all the same. -/
theorem compiled_entity_accepted_iff {c : Compilation} {engine : PatternEngine} {config : Config}
    {g : Generation} (hconfig : Config.resolve c engine = .ok config)
    (h : generate c engine = .ok g) {d : TypeDef}
    (hd : d ∈ (Plan.of c config).immutable) {x : TypeDef} (hx : x ∈ c.types)
    (himmutable : c.hasFlattened x Vocabulary.immutable = true) {args : List TypeRef}
    (hargs : ∀ arg ∈ args, (Plan.immutablePass c config).MayHold d arg) :
    (Plan.immutablePass c config).immutableArtifact d ∈ g.artifacts ∧
      (∀ m : HeldMember, m.IsReadOnlyIn d → m.type = .named x.fullName args →
        m.problems (Plan.immutablePass c config) d ⊆
            ((Plan.immutablePass c config).immutableArtifact d).diagnostics ∧
          (NoError (m.problems (Plan.immutablePass c config) d) ↔ ¬ x.MarksBuilder) ∧
          (x.MarksBuilder → ∃ problem ∈ m.problems (Plan.immutablePass c config) d,
            problem.code = .memberIsBuilder ∧ problem.isError = true)) ∧
      ∀ builder e, x.namedBuilder? = some builder → x.fullName ∉ rootTypes →
        e.baseType = some (.named x.fullName args) →
          ((Plan.immutablePass c config).entityBase e).isEntity = true := by
  refine ⟨Plan.artifact_mem .immutable hconfig h hd, fun m hm htype => ?_, ?_⟩
  · refine ⟨hm.problems_subset _, ?_, fun hmarks => hm.exists_memberIsBuilder _ hx hmarks htype⟩
    obtain ⟨source, location, hproblems⟩ := hm.problems_eq (Plan.immutablePass c config)
    rw [hproblems, Pass.noError_checkType, htype]
    exact Pass.mayHold_marked_iff hx himmutable hargs
  · intro builder e hbuilder hroot he
    rw [Pass.entityBase_of_namedBuilder hx hbuilder hroot he]
    rfl

/-- A compiled class that is marked immutable, and may name its builder. -/
def compiledPerson (attributes : List Attribute) : TypeDef :=
  { Program.stub "Lib" "Person" with
    attributes := { className := Vocabulary.immutable } :: attributes }

/-- The attribute that the unit of an entity `Person` puts on it. -/
def personBuilder : Attribute where
  className := Vocabulary.immutableBuilder
  arguments := [.type (.named "Lib.Person+Builder" [])]

/-- An entity that holds a person. -/
def ownedItem : TypeDef where
  «namespace» := "Shop"
  name := "Item"
  isPartial := true
  attributes := [{ className := Vocabulary.generatedImmutable }]
  members := [.property { name := "Owner", type := .named "Lib.Person" [] }]

/-- An entity that is a person. -/
def derivedEmployee : TypeDef where
  «namespace» := "Shop"
  name := "Employee"
  isPartial := true
  baseType := some (.named "Lib.Person" [])
  attributes := [{ className := Vocabulary.generatedImmutable }]

/-- What is asked of a run over an item, its owner and the class of the owner. -/
def HoldsPerson (c : Compilation) (config : Config) (item person : TypeDef) (owner : Property) :
    Prop :=
  item ∈ (Plan.of c config).immutable ∧ person ∈ c.types ∧
    c.hasFlattened person Vocabulary.immutable = true ∧
    (HeldMember.property owner).IsReadOnlyIn item ∧ owner.isAuto = true ∧
    owner.type = .named person.fullName []

/-- The item of a program that consists of a person, the item and others. -/
theorem exists_holdsPerson {p : Program} (check : Compilation → Config → TypeDef → Bool)
    (h : p.satisfies (fun c config _ => (c.type? "Shop.Item").any fun (item : TypeDef) =>
      (c.type? "Lib.Person").any fun (person : TypeDef) => item.properties.any fun owner =>
        decide (item.origin = .source ∧ c.requestsImmutable item = true ∧
          c.hasFlattened person Vocabulary.immutable = true ∧ owner.isStatic = false ∧
          owner.isIndexer = false ∧ owner.hasSetter = false ∧ owner.isAuto = true ∧
          owner.type = .named person.fullName []) && check c config person) = true) :
    ∃ c config g item person owner,
      Compilation.ofProgram p = .ok c ∧ Config.resolve c = .ok config ∧ generate c = .ok g ∧
      HoldsPerson c config item person owner ∧ check c config person = true := by
  obtain ⟨c, config, g, hc, hconfig, hg, hcheck⟩ := Program.exists_run p _ h
  obtain ⟨item, hitem, hcheck⟩ := (Option.any_eq_true _ _).1 hcheck
  obtain ⟨person, hperson, hcheck⟩ := (Option.any_eq_true _ _).1 hcheck
  obtain ⟨owner, howner, hcheck⟩ := List.any_eq_true.1 hcheck
  obtain ⟨hfacts, hcheck⟩ := Bool.and_eq_true_iff.1 hcheck
  obtain ⟨hsource, hrequests, himmutable, hstatic, hindexer, hsetter, hauto, htype⟩ :=
    of_decide_eq_true hfacts
  exact ⟨c, config, g, item, person, owner, hc, hconfig, hg,
    ⟨Plan.mem_select.2 ⟨(Compilation.type?_eq_some_iff.1 hitem).1, hsource, hrequests⟩,
      (Compilation.type?_eq_some_iff.1 hperson).1, himmutable,
      ⟨howner, hstatic, hindexer, hsetter⟩, hauto, htype⟩, hcheck⟩

/-- A person that does not name a builder may be held. -/
theorem compiled_value_accepted :
    ∃ c config g item person owner,
      Compilation.ofProgram (.onSmallCore [compiledPerson [], ownedItem]) = .ok c ∧
      Config.resolve c = .ok config ∧ generate c = .ok g ∧
      HoldsPerson c config item person owner ∧
      NoError ((Plan.immutablePass c config).validateProperty item owner) := by
  obtain ⟨c, config, g, item, person, owner, hc, hconfig, hg, hholds, hcheck⟩ :=
    exists_holdsPerson (p := .onSmallCore [compiledPerson [], ownedItem])
      (fun _ _ person => !hasAttribute person.attributes Vocabulary.immutableBuilder)
      (by decide +kernel)
  obtain ⟨hitem, hperson, himmutable, hmember, hauto, htype⟩ := hholds
  have hplain : ¬ person.MarksBuilder := by
    rw [TypeDef.MarksBuilder, Bool.not_eq_true]
    exact Bool.not_eq_true' _ ▸ hcheck
  have hargs : ∀ arg ∈ ([] : List TypeRef), (Plan.immutablePass c config).MayHold item arg := by
    simp
  obtain ⟨-, haccepted, -⟩ :=
    compiled_entity_accepted_iff hconfig hg hitem hperson himmutable hargs
  exact ⟨c, config, g, item, person, owner, hc, hconfig, hg,
    ⟨hitem, hperson, himmutable, hmember, hauto, htype⟩,
    (haccepted _ hmember htype).2.1.2 hplain⟩

/-- **An entity that may be derived from and not be held.** The person names its builder as the
unit of an entity does. `Employee` derives from it; the property of `Item` is reported. -/
theorem compiled_entity_refused :
    ∃ c config g item person owner employee,
      Compilation.ofProgram
        (.onSmallCore [compiledPerson [personBuilder], ownedItem, derivedEmployee]) = .ok c ∧
      Config.resolve c = .ok config ∧ generate c = .ok g ∧
      HoldsPerson c config item person owner ∧ person.origin = .metadata ∧
      person.namedBuilder? = some (.named "Lib.Person+Builder" []) ∧
      employee.baseType = some (.named person.fullName []) ∧
      ((Plan.immutablePass c config).entityBase employee).isEntity = true ∧
      (Plan.immutablePass c config).immutableArtifact item ∈ g.artifacts ∧
      ∃ problem ∈ ((Plan.immutablePass c config).immutableArtifact item).diagnostics,
        problem ∈ (Plan.immutablePass c config).validateProperty item owner ∧
          problem.code = .memberIsBuilder ∧ problem.isError = true := by
  obtain ⟨c, config, g, item, person, owner, hc, hconfig, hg, hholds, hcheck⟩ :=
    exists_holdsPerson
      (p := .onSmallCore [compiledPerson [personBuilder], ownedItem, derivedEmployee])
      (fun c config person => (c.type? "Shop.Employee").any fun (employee : TypeDef) =>
        decide (person.origin = .metadata ∧
          person.namedBuilder? = some (.named "Lib.Person+Builder" []) ∧
          employee.baseType = some (.named person.fullName []) ∧
          ((Plan.immutablePass c config).entityBase employee).isEntity = true))
      (by decide +kernel)
  obtain ⟨employee, -, hcheck⟩ := (Option.any_eq_true _ _).1 hcheck
  obtain ⟨hcompiled, hbuilder, hbase, hentity⟩ := of_decide_eq_true hcheck
  obtain ⟨hitem, hperson, himmutable, hmember, hauto, htype⟩ := hholds
  obtain ⟨problem, hproblem, hrefused⟩ := hmember.exists_memberIsBuilder
    (Plan.immutablePass c config) hperson (TypeDef.marksBuilder_of_namedBuilder hbuilder) htype
  exact ⟨c, config, g, item, person, owner, employee, hc, hconfig, hg,
    ⟨hitem, hperson, himmutable, hmember, hauto, htype⟩, hcompiled, hbuilder, hbase, hentity,
    Plan.artifact_mem .immutable hconfig hg hitem, problem, hmember.problems_subset _ hproblem,
    hproblem, hrefused⟩

end Companion
