import Companion.Immutable.Unit
import Companion.Proofs.GeneratedLines
import Companion.Proofs.ModelTexts

/-!
# The Lines of an Entity's Unit

The unit of an immutable entity names the entity, its builder, and the properties that the builder
carries. Its statements open with fixed text, but for those that assign a property: in a setter the
property is assigned by its name, as it is where the entity takes values over from its builder.

## Main results

* `BuilderStatement.writtenAll_codeAll`: the lines of the statements of a builder.
* `Entity.writtenAll_code`: the lines of the unit.
* `Pass.isOneLine_entity`: what an entity of a model without line feeds is made of.
-/

namespace Companion

open Piece

variable {names : List String}

/-! ### Statements -/

/-- A property of a builder that is spelled without line feeds, and whose name may be assigned. -/
structure BuilderProperty.IsOneLine (names : List String) (p : BuilderProperty) : Prop where
  mem : p.name ∈ names
  name : OneLine p.name
  type : OneLine p.type
  attributes : ∀ a ∈ p.attributes, IsLine names a

mutual

/-- Whether the comments and the properties of a statement are spelled without line feeds. -/
def BuilderStatement.IsOneLine (names : List String) : BuilderStatement → Prop
  | .comment s => OneLine s
  | .readInitial p | .compareWithInitial p | .override p | .clearOverride p | .store p
  | .release p | .take p => p.IsOneLine names
  | .branch _ yes no => BuilderStatement.AreOneLine names yes ∧ BuilderStatement.AreOneLine names no
  | .blank | .adoptGiven | .adoptRequired | .adoptDefault | .markDirty | .dropCached | .readCached
  | .returnCached | .build | .returnBuilt | .returnInitial | .returnBuilderOfSome
  | .returnBuilderOfNone | .returnOption | .requireBuilder => True

/-- Whether the comments and the properties of statements are spelled without line feeds. -/
def BuilderStatement.AreOneLine (names : List String) : List BuilderStatement → Prop
  | [] => True
  | s :: ss => BuilderStatement.IsOneLine names s ∧ BuilderStatement.AreOneLine names ss

end

/-- Statements are written on lines if each of them is. -/
theorem BuilderStatement.areOneLine_iff {ss : List BuilderStatement} :
    AreOneLine names ss ↔ ∀ s ∈ ss, s.IsOneLine names := by
  induction ss with
  | nil => simp [AreOneLine]
  | cons s ss ih => simp [AreOneLine, ih]

section Statements

variable {d : TypeDef} (h : OneLines d.texts)

include h

/-- The type that a builder builds is spelled on one line. -/
theorem TypeDef.oneLine_builtName : OneLine d.builtName :=
  oneLine_append.2 ⟨.fixed rfl, oneLine_name h⟩

/-- The value that a builder starts a property from is spelled on one line. -/
theorem BuilderValue.oneLine_initial {p : BuilderProperty} (hp : OneLine p.name) :
    OneLine ((initial p).code d) := by
  have hname := TypeDef.oneLine_nameWithGenerics h
  simp (disch := exact Fixed.of rfl) [code, hname, hp]

/-- A test of a builder is spelled on one line. -/
theorem BuilderTest.oneLine_code (test : BuilderTest) : OneLine (test.code d) := by
  have hbuilt := TypeDef.oneLine_builtName h
  cases test <;> simp (disch := exact Fixed.of rfl) [code, hbuilt]

/-- The line of a statement that takes one. -/
theorem BuilderStatement.isLine_text {s : BuilderStatement} (hs : s.IsOneLine names) :
    IsLine names (s.text d) := by
  have hname := TypeDef.oneLine_nameWithGenerics h
  have hbuilt := TypeDef.oneLine_builtName h
  unfold text
  cases s with
  | comment text =>
      have htext : OneLine text := hs
      simp (disch := exact Fixed.of rfl) [htext]
  | blank | branch => exact .empty
  | adoptGiven | adoptRequired | adoptDefault | markDirty | dropCached | readCached
  | returnCached | build | returnBuilt | returnInitial | returnBuilderOfSome
  | returnBuilderOfNone | returnOption | requireBuilder =>
      simp (disch := exact Fixed.of rfl) [hname, hbuilt]
  | readInitial p =>
      have hinitial := BuilderValue.oneLine_initial h (BuilderProperty.IsOneLine.name hs)
      simp (disch := exact Fixed.of rfl) [hinitial]
  | compareWithInitial p | override p | clearOverride p | store p | release p =>
      have hp : p.IsOneLine names := hs
      simp (disch := exact Fixed.of rfl) [hp.name, hp.type]
  | take p =>
      have hp : p.IsOneLine names := hs
      have hline : OneLine (p.name ++ (" = builder." ++ (p.name ++ ";"))) := by
        simp (disch := exact Fixed.of rfl) [hp.name]
      simpa only [String.append_assoc] using IsLine.assigns hp.mem hline (by simp)

end Statements

mutual

/-- **The lines of a statement.** -/
theorem BuilderStatement.writtenAll_code {d : TypeDef} (h : OneLines d.texts) :
    ∀ s : BuilderStatement, s.IsOneLine names → WrittenAll (IsLine names) (s.code d)
  | .branch test yes no, hs => by
      rw [BuilderStatement.IsOneLine] at hs
      have htest := BuilderTest.oneLine_code h test
      have hyes := BuilderStatement.writtenAll_codeAll h yes hs.1
      have hno := BuilderStatement.writtenAll_codeAll h no hs.2
      rw [BuilderStatement.code]
      simp (disch := exact Fixed.of rfl) [htest, hyes, hno]
  | .comment _, hs | .blank, hs | .adoptGiven, hs | .adoptRequired, hs | .adoptDefault, hs
  | .readInitial _, hs | .compareWithInitial _, hs | .override _, hs | .clearOverride _, hs
  | .store _, hs | .release _, hs | .markDirty, hs | .dropCached, hs | .readCached, hs
  | .returnCached, hs | .build, hs | .returnBuilt, hs | .returnInitial, hs
  | .returnBuilderOfSome, hs | .returnBuilderOfNone, hs | .returnOption, hs
  | .requireBuilder, hs | .take _, hs => by
      have hline := BuilderStatement.isLine_text h hs
      simp only [BuilderStatement.code, writtenAll_cons, writtenAll_nil, written_line, hline,
        and_true]

/-- **The lines of statements.** -/
theorem BuilderStatement.writtenAll_codeAll {d : TypeDef} (h : OneLines d.texts) :
    ∀ ss : List BuilderStatement, AreOneLine names ss → WrittenAll (IsLine names) (codeAll d ss)
  | [], _ => by simp [codeAll]
  | s :: ss, hs => by
      rw [AreOneLine] at hs
      rw [codeAll, writtenAll_append]
      exact ⟨BuilderStatement.writtenAll_code h s hs.1,
        BuilderStatement.writtenAll_codeAll h ss hs.2⟩

end

/-! ### Parts of the unit -/

/-- The modifier of what hides a member of the base is spelled on one line. -/
@[simp] theorem Entity.oneLine_newModifier (e : Entity) : OneLine e.newModifier := by
  rw [newModifier]
  split
  · exact .fixed rfl
  · exact .fixed rfl

/-- The modifier of what hides a property of the base builder is spelled on one line. -/
@[simp] theorem BuilderProperty.oneLine_newModifier (p : BuilderProperty) :
    OneLine p.newModifier := by
  rw [newModifier]
  split
  · exact .fixed rfl
  · exact .fixed rfl

/-- The setter of a property is written on lines if the property is. -/
theorem BuilderProperty.areOneLine_setter {p : BuilderProperty} (hp : p.IsOneLine names) :
    BuilderStatement.AreOneLine names p.setter := by
  have hcomment : OneLine ("Property " ++ p.name ++ " has been set back to original value") := by
    simp (disch := exact Fixed.of rfl) [hp.name]
  simp only [setter, BuilderStatement.AreOneLine, BuilderStatement.IsOneLine, hp, hcomment,
    and_self]

/-- What the code of an entity without line feeds is made of. -/
structure Entity.IsOneLine (names : List String) (e : Entity) : Prop where
  definition : OneLines e.definition.texts
  base : ∀ builder ∈ e.base.builderBase?, OneLine builder
  properties : ∀ p ∈ e.properties, p.IsOneLine names

namespace Entity

variable {e : Entity} (h : e.IsOneLine names)

include h

/-- The entity is spelled on one line in code. -/
theorem oneLine_name : OneLine e.name := TypeDef.oneLine_nameWithGenerics h.definition

/-- The entity is spelled on one line in documentation comments. -/
theorem oneLine_nameForXml : OneLine e.nameForXml := TypeDef.oneLine_nameForXml h.definition

/-- The builder is spelled on one line. -/
theorem oneLine_builder : OneLine e.builder := by
  simp (disch := exact Fixed.of rfl) [builder, oneLine_name h]

/-- An optional entity is spelled on one line. -/
theorem oneLine_option : OneLine e.option := by
  unfold option
  simp (disch := exact Fixed.of rfl) [oneLine_name h]

/-- The body of a member of the builder is written on lines if its statements are. -/
theorem writtenAll_body {statements : List BuilderStatement}
    (hstatements : BuilderStatement.AreOneLine names statements) :
    WrittenAll (IsLine names) (e.body statements) :=
  BuilderStatement.writtenAll_codeAll h.definition statements hstatements

/-! ### The builder -/

/-- The constructors of a builder are written on lines. -/
theorem writtenAll_builderConstructors : WrittenAll (IsLine names) e.builderConstructors := by
  have hname := oneLine_name h
  have hbody : ∀ s : BuilderStatement, s.IsOneLine names →
      WrittenAll (IsLine names) (e.body [s]) := fun s hs =>
    writtenAll_body h (BuilderStatement.areOneLine_iff.2 (List.forall_mem_singleton.2 hs))
  have hcomment : ∀ s : String, Fixed OneLine s → WrittenAll (IsLine names)
      (e.body [.comment s]) := fun s hs => hbody _ hs.holds
  have hgiven := hbody .adoptGiven trivial
  have hrequired := hbody .adoptRequired trivial
  have hdefault := hbody .adoptDefault trivial
  rw [builderConstructors]
  split
  · rw [derivedConstructors]
    split <;> simp (disch := exact Fixed.of rfl) [hname, hcomment]
  · have hconstructors : WrittenAll (IsLine names) e.rootConstructors := by
      rw [rootConstructors]
      split <;> simp (disch := exact Fixed.of rfl) [hname, hgiven, hrequired, hdefault]
    simp (disch := exact Fixed.of rfl) [sharedState, hname, hconstructors]

section Property

variable {p : BuilderProperty} (hp : p.IsOneLine names)

include hp

/-- A property of a builder is written on lines. -/
theorem writtenAll_builderProperty : WrittenAll (IsLine names) (e.builderProperty p) := by
  have hinitial := BuilderValue.oneLine_initial h.definition hp.name
  have hgetter : OneLine (p.getter.code e.definition) := by
    rw [BuilderProperty.getter, BuilderValue.code, BuilderValue.code]
    simp (disch := exact Fixed.of rfl) [hinitial, hp.name]
  have hsetter := writtenAll_body h (BuilderProperty.areOneLine_setter hp)
  rw [builderProperty, writtenAll_append, writtenAll_append, writtenAll_lines]
  refine ⟨⟨?_, hp.attributes⟩, ?_⟩
  · simp (disch := exact Fixed.of rfl) [hp.name, hp.type]
  · simp (disch := exact Fixed.of rfl) [hp.name, hp.type, hgetter, hsetter]

/-- The methods that set a property of a builder are written on lines. -/
theorem writtenAll_builderWiths : WrittenAll (IsLine names) (e.builderWiths p) := by
  have hxml := oneLine_nameForXml h
  have hset : IsLine names (p.name ++ " = value;") :=
    .assigns hp.mem (by simp (disch := exact Fixed.of rfl) [hp.name]) (by simp)
  have hselect : IsLine names (p.name ++ (" = valueSelector(" ++ (p.name ++ ");"))) :=
    .assigns hp.mem (by simp (disch := exact Fixed.of rfl) [hp.name]) (by simp)
  simp (disch := exact Fixed.of rfl) [builderWiths, notThreadSafe, hp.name, hp.type, hxml,
    hset.2, hselect.2]

end Property

/-- What the builder gives back is built on lines. -/
theorem writtenAll_toImmutable : WrittenAll (IsLine names) e.toImmutable := by
  have hname := oneLine_name h
  have hxml := oneLine_nameForXml h
  have hbody : WrittenAll (IsLine names) (e.body toImmutableBody) := by
    refine writtenAll_body h ?_
    simp only [toImmutableBody, BuilderStatement.AreOneLine, BuilderStatement.IsOneLine, and_self]
  simp (disch := exact Fixed.of rfl) [toImmutable, notThreadSafe, hname, hxml, hbody]

/-- The documentation of a builder is written on lines. -/
theorem writtenAll_builderDocumentation :
    WrittenAll (IsLine names) e.builderDocumentation := by
  have hxml := oneLine_nameForXml h
  have hname := TypeDef.oneLine_name h.definition
  have hexample : OneLine e.exampleProperty := by
    unfold exampleProperty
    cases hfirst : e.properties.head? with
    | none => simp (disch := exact Fixed.of rfl) [hname]
    | some p => exact (h.properties p (List.mem_of_mem_head? hfirst)).name
  simp (disch := exact Fixed.of rfl) [builderDocumentation, notThreadSafe, hname, hxml, hexample]

/-- The header of a builder is one line. -/
theorem oneLine_builderHeader : OneLine e.builderHeader := by
  have hname := oneLine_name h
  have hbases : OneLine (Text.join ", " e.builderBases) := by
    refine OneLine.join (.fixed rfl) ?_
    unfold builderBases
    rw [List.forall_mem_append]
    refine ⟨fun builder hbuilder => h.base builder (Option.mem_toList.1 hbuilder), ?_⟩
    split <;> simp (disch := exact Fixed.of rfl) [hname]
  unfold builderHeader
  simp (disch := exact Fixed.of rfl) [hbases]

/-- **The class of a builder** is written on lines. -/
theorem writtenAll_builderClass : WrittenAll (IsLine names) e.builderClass := by
  have hname := oneLine_name h
  have hheader : IsLine names e.builderHeader := by
    refine .of_opens (oneLine_builderHeader h) ?_
    unfold builderHeader
    simp
  have hwiths : WrittenAll (IsLine names) e.allBuilderWiths := by
    have hproperties : ∀ p ∈ e.properties, WrittenAll (IsLine names) (e.builderWiths p) :=
      fun p hp => writtenAll_builderWiths h (h.properties p hp)
    rw [allBuilderWiths]
    split
    · exact writtenAll_nil
    · simpa (disch := exact Fixed.of rfl) [oneLine_builder h] using hproperties
  have hlast : WrittenAll (IsLine names)
      (if e.isAbstract then e.noToImmutable else e.toImmutable) := by
    split
    · simp (disch := exact Fixed.of rfl) [noToImmutable, hname]
    · exact writtenAll_toImmutable h
  simp only [builderClass, writtenAll_append, writtenAll_cons, writtenAll_nil, written_braces,
    hheader, writtenAll_separated, List.forall_mem_append, List.forall_mem_cons,
    List.not_mem_nil, List.forall_mem_map, false_implies, implies_true, and_true, true_and]
  exact ⟨writtenAll_builderDocumentation h, ⟨writtenAll_builderConstructors h,
    fun p hp => writtenAll_builderProperty h (h.properties p hp)⟩, hlast, hwiths⟩

/-- What a builder has for optional values is written on lines. -/
theorem writtenAll_optionRegion : WrittenAll (IsLine names) e.optionRegion := by
  have hname := oneLine_name h
  have hxml := oneLine_nameForXml h
  have hoption := oneLine_option h
  have hfrom : WrittenAll (IsLine names) (e.body fromOptionBody) := by
    refine writtenAll_body h ?_
    simp only [fromOptionBody, BuilderStatement.AreOneLine, BuilderStatement.IsOneLine, and_self]
  have hto : WrittenAll (IsLine names) (e.body toOptionBody) := by
    refine writtenAll_body h ?_
    simp only [toOptionBody, BuilderStatement.AreOneLine, BuilderStatement.IsOneLine, and_self]
  simp (disch := exact Fixed.of rfl) [optionRegion, hname, hxml, hoption, hfrom, hto]

/-! ### The classes -/

/-- The marks of generated code are written on lines. -/
theorem writtenAll_markers : WrittenAll (IsLine names) e.markers := by
  have hname := TypeDef.oneLine_name h.definition
  have hopen := TypeDef.oneLine_openName h.definition
  unfold markers
  simp (disch := exact Fixed.of rfl) [-String.reduceAppend, hname, hopen]

/-- The constructors of an entity are written on lines. -/
theorem writtenAll_entityConstructors : WrittenAll (IsLine names) e.entityConstructors := by
  have hname := TypeDef.oneLine_name h.definition
  have hxml := oneLine_nameForXml h
  have hbody : WrittenAll (IsLine names) (e.body (entityConstructorBody e.properties)) := by
    refine writtenAll_body h ?_
    rw [BuilderStatement.areOneLine_iff, entityConstructorBody, List.forall_mem_cons,
      List.forall_mem_map]
    exact ⟨trivial, h.properties⟩
  simp (disch := exact Fixed.of rfl) [entityConstructors, hname, hxml, hbody]

/-- The conversions between an entity and its builder are written on lines. -/
theorem writtenAll_conversions : WrittenAll (IsLine names) e.conversions := by
  simp (disch := exact Fixed.of rfl) [conversions, oneLine_name h]

/-- The default instance of an entity is written on lines. -/
theorem writtenAll_defaultInstance : WrittenAll (IsLine names) e.defaultInstance := by
  simp (disch := exact Fixed.of rfl) [defaultInstance, oneLine_name h]

/-- The class that opens the entity again. -/
theorem writtenAll_entityClass : WrittenAll (IsLine names) e.entityClass := by
  have hheader : IsLine names (e.definition.accessibility.modifiers ++ " " ++
      (if e.isAbstract then "abstract " else "") ++ "partial class " ++ e.name) := by
    simp (disch := exact Fixed.of rfl) [oneLine_name h]
  simp only [entityClass, writtenAll_append, writtenAll_cons, writtenAll_nil, written_braces,
    hheader, writtenAll_separated, List.forall_mem_cons, List.not_mem_nil, writtenAll_ite,
    false_implies, implies_true, and_true, true_and]
  exact ⟨writtenAll_markers h, fun _ => writtenAll_defaultInstance h, writtenAll_builderClass h,
    fun _ => writtenAll_optionRegion h, writtenAll_entityConstructors h,
    fun _ => writtenAll_conversions h⟩

/-! ### Fluent changes -/

/-- A method that changes one property is written on lines, whatever it is called on. -/
theorem writtenAll_withMethod {p : BuilderProperty} (hp : p.IsOneLine names) {doc : List Piece}
    (hdoc : WrittenAll (IsLine names) doc) {receiver source argument argumentName : String}
    (hreceiver : OneLine receiver) (hsource : OneLine source) (hargument : OneLine argument)
    (hargumentName : OneLine argumentName) :
    WrittenAll (IsLine names) (e.withMethod p doc receiver source argument argumentName) := by
  have hbuilder := oneLine_builder h
  have harguments := TypeDef.oneLine_genericArguments h.definition
  have hconstraints := TypeDef.oneLine_constraints h.definition
  simp (disch := exact Fixed.of rfl) [withMethod, hp.name, hdoc, hreceiver, hsource, hargument,
    hargumentName, hbuilder, harguments, hconstraints]

/-- The extension methods of a property, on an entity and on an optional one. -/
theorem writtenAll_withs {p : BuilderProperty} (hp : p.IsOneLine names) :
    ∀ group ∈ e.entityWiths p ++ if e.hasOptionCode then e.optionWiths p else [],
      WrittenAll (IsLine names) group := by
  have hname := oneLine_name h
  have hxml := oneLine_nameForXml h
  have hbuilder := oneLine_builder h
  have hoption := oneLine_option h
  have hselector : OneLine (selectorType p) := by
    unfold selectorType
    simp (disch := exact Fixed.of rfl) [hp.type]
  have hvalue : OneLine "value" := .fixed rfl
  have hvalueSelector : OneLine "valueSelector" := .fixed rfl
  rw [List.forall_mem_append]
  constructor
  · have hreceiver : OneLine (e.name ++ " entity") := by
      simp (disch := exact Fixed.of rfl) [hname]
    have hsource : OneLine ("new " ++ e.builder ++ "(entity)") := by
      simp (disch := exact Fixed.of rfl) [hbuilder]
    simp only [entityWiths, List.forall_mem_cons, List.not_mem_nil, false_implies, implies_true,
      and_true]
    constructor
    · refine writtenAll_withMethod h hp ?_ hreceiver hsource hp.type hvalue
      simp (disch := exact Fixed.of rfl) [notThreadSafe, hp.name, hp.type, hxml]
    · refine writtenAll_withMethod h hp ?_ hreceiver hsource hselector hvalueSelector
      simp (disch := exact Fixed.of rfl) [hp.name]
  · have hreceiver : OneLine (e.option ++ " optionEntity") := by
      simp (disch := exact Fixed.of rfl) [hoption]
    have hsource : OneLine (e.builder ++ ".FromOption(optionEntity)") := by
      simp (disch := exact Fixed.of rfl) [hbuilder]
    split
    · simp only [optionWiths, List.forall_mem_cons, List.not_mem_nil, false_implies, implies_true,
        and_true]
      constructor
      · refine writtenAll_withMethod h hp ?_ hreceiver hsource hp.type hvalue
        simp (disch := exact Fixed.of rfl) [hp.name, hxml]
      · refine writtenAll_withMethod h hp ?_ hreceiver hsource hselector hvalueSelector
        simp (disch := exact Fixed.of rfl) [hp.name, hxml]
    · simp

/-- The class of extensions is written on lines. -/
theorem writtenAll_extensionClass : WrittenAll (IsLine names) e.extensionClass := by
  have hname := oneLine_name h
  have hsimple := TypeDef.oneLine_name h.definition
  have hheader : IsLine names (e.definition.accessibility.modifiers ++ " static partial class " ++
      e.definition.name ++ "Extensions") := by
    simp (disch := exact Fixed.of rfl) [hsimple]
  have hregion : OneLine (".WithXXX() methods on " ++ e.name) := by
    simp (disch := exact Fixed.of rfl) [hname]
  have hgroups : ∀ group ∈ (e.properties.flatMap fun p =>
      e.entityWiths p ++ if e.hasOptionCode then e.optionWiths p else []),
      WrittenAll (IsLine names) group := by
    intro group hgroup
    obtain ⟨p, hp, hgroup⟩ := List.mem_flatMap.1 hgroup
    exact writtenAll_withs h (h.properties p hp) group hgroup
  rw [extensionClass, writtenAll_cons, written_braces]
  refine ⟨⟨hheader, ?_⟩, writtenAll_nil⟩
  split
  · exact writtenAll_nil
  · simp only [writtenAll_cons, writtenAll_nil, written_region, writtenAll_separated, hregion,
      and_true, true_and]
    exact hgroups

/-! ### The unit -/

/-- The converter for documents is written on lines. -/
theorem writtenAll_jsonConverter : WrittenAll (IsLine names) e.jsonConverter := by
  have hname := oneLine_name h
  have hsimple := TypeDef.oneLine_name h.definition
  have hbuilder := oneLine_builder h
  have harguments := TypeDef.oneLine_genericArguments h.definition
  have hconstraints := TypeDef.oneLine_constraints h.definition
  simp (disch := exact Fixed.of rfl) [-String.reduceAppend, jsonConverter, hname, hsimple,
    hbuilder, harguments, hconstraints]

/-- **The lines of the unit of an entity.** -/
theorem writtenAll_code : WrittenAll (IsLine names) e.code := by
  have hnamespace := TypeDef.oneLine_namespace h.definition
  have hproblems : WrittenAll (IsLine names) (e.problems.map .diagnostic) := by simp
  have hgap : WrittenAll (IsLine names) (if e.problems.isEmpty then [] else [.blank]) := by simp
  simp only [code, writtenAll_append, writtenAll_cons, writtenAll_nil, writtenAll_unitHeader,
    hproblems, hgap, written_inNamespace, hnamespace, writtenAll_separated, List.forall_mem_cons,
    List.not_mem_nil, writtenAll_ite, false_implies, implies_true, and_true, true_and]
  exact ⟨writtenAll_entityClass h, writtenAll_extensionClass h, fun _ => writtenAll_jsonConverter h⟩

end Entity

/-! ### What an entity is made of -/

/-- A builder is spelled with the names in the attribute that names it, or with that of the base. -/
theorem oneLine_builderSpelling {definition : TypeDef} {base builder : TypeRef}
    (hbase : OneLines base.texts) (hbuilder : OneLines builder.texts) :
    OneLine (builderSpelling definition base builder) := by
  rw [builderSpelling]
  split
  · next nested hnested =>
      obtain ⟨name, hname, hbehind⟩ := Option.bind_eq_some_iff.1 hnested
      have hnested := (TypeRef.oneLine_definitionName hbuilder hname).of_behind? hbehind
      simp (disch := exact Fixed.of rfl) [TypeRef.oneLine_display hbase, hnested]
  · exact TypeRef.oneLine_display hbuilder

namespace Pass

variable {pass : Pass} {d : TypeDef}

/-- The builder that a base type names is spelled on one line. -/
theorem oneLine_builderOf {base : TypeRef} {definition : TypeDef} (hbase : OneLines base.texts)
    (hdefinition : OneLines definition.texts) :
    ∀ builder ∈ pass.builderOf? base definition, OneLine builder := by
  intro builder hbuilder
  rw [Option.mem_def, builderOf?] at hbuilder
  split at hbuilder
  · next found hfound =>
      obtain rfl := Option.some.inj hbuilder
      obtain ⟨a, ha, harguments⟩ := Option.bind_eq_some_iff.1 hfound
      obtain ⟨v, hv, htype⟩ := Option.bind_eq_some_iff.1 harguments
      have htexts := TypeDef.oneLines_attribute hdefinition (List.mem_of_find?_eq_some ha)
      simp only [Attribute.texts, oneLines_append, oneLines_cons, oneLines_flatMap] at htexts
      have hargument := htexts.1.2 v (List.mem_of_getElem? hv)
      cases v with
      | type t =>
          obtain rfl := Option.some.inj htype
          rw [AttributeValue.texts] at hargument
          exact oneLine_builderSpelling hbase hargument
      | null | bool | int | string | enum | array => cases htype
  · split at hbuilder
    · obtain rfl := Option.some.inj hbuilder
      simp (disch := exact Fixed.of rfl) [TypeRef.oneLine_display hbase]
    · cases hbuilder

/-- The builder of the base entity is spelled on one line. -/
theorem oneLine_entityBase (h : pass.compilation.IsOneLine) (hd : d ∈ pass.compilation.types) :
    ∀ builder ∈ (pass.entityBase d).builderBase?, OneLine builder := by
  intro builder hbuilder
  rw [entityBase] at hbuilder
  split at hbuilder
  · cases hbuilder
  · next base hbase =>
      have htexts := TypeDef.oneLines_baseType (h d hd) hbase
      split at hbuilder
      · cases hbuilder
      · split at hbuilder
        · cases hbuilder
        · next definition hdefinition =>
            split at hbuilder
            · next found hfound =>
                obtain rfl := Option.some.inj hbuilder
                exact oneLine_builderOf htexts (Compilation.oneLines_of_resolve? h hdefinition)
                  _ hfound
            · split at hbuilder <;> cases hbuilder

/-- **An entity of a model without line feeds** is made of parts without line feeds. -/
theorem isOneLine_entity (h : pass.compilation.IsOneLine) (hd : d ∈ pass.compilation.types) :
    (pass.entity d).IsOneLine (d.members.map Member.name) := by
  refine ⟨h d hd, oneLine_entityBase h hd, ?_⟩
  intro q hq
  obtain ⟨pair, hpair, rfl⟩ := List.mem_map.1 hq
  obtain ⟨p, hstate, rfl⟩ := List.mem_map.1 hpair
  have hp : p ∈ d.properties := List.mem_of_mem_filter hstate
  obtain ⟨hname, htype, hattributes, -⟩ := TypeDef.oneLines_property (h d hd) hp
  refine ⟨?_, hname, TypeRef.oneLine_display htype, ?_⟩
  · obtain ⟨m, hm, hmember⟩ := List.mem_filterMap.1 hp
    cases m with
    | property q =>
        obtain rfl := Option.some.inj hmember
        exact List.mem_map.2 ⟨_, hm, rfl⟩
    | field | method => cases hmember
  · intro line hline
    obtain ⟨a, ha, rfl⟩ := List.mem_map.1 hline
    have hwritten := Attribute.oneLine_written (hattributes a (List.mem_of_mem_filter ha))
    simp (disch := exact Fixed.of rfl) [hwritten]

end Pass

end Companion
