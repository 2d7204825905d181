import Companion.Proofs.CompiledEntities
import Companion.Proofs.EntityUnit
import Mathlib.Data.List.Perm.Basic

/-!
# The Names that an Entity's Unit Declares

The unit of an immutable entity opens the class of the entity again, and puts a builder into it. In
both it declares names of its own, and in the builder it makes three names out of that of each
property: the property `P`, the field `_P` that holds its value, and the field `_isPSet` that tells
whether it is set. No member of the entity and no property is checked against these.

What is declared is read off the code: a line within the braces of a class declares something, if it
is no comment and no attribute, and so does the header of a block.

## Main results

* `Entity.declarationsAll_entityClass`, `Entity.declarationsAll_builderBody`: what the unit declares
  in the class of the entity and in the builder.
* `Entity.builderNames_perm`: the names of the fields and the properties of the builder.
* `Pass.declaredNames_distinct_iff`: when no name that the unit declares clashes with another one.
* `default_and_isDirty_clash`: a unit without problems in which two names clash.
-/

namespace Companion

/-! ### Declarations -/

/-- What a member of a class can be. -/
inductive DeclarationKind where
  | field
  | property
  | nestedClass
  | method
  | constructor
  | conversion
deriving Repr, DecidableEq

/-- What a line or the header of a block declares: the name, and the text around it. -/
structure Declaration where
  kind : DeclarationKind
  before : String
  name : String
  after : String
deriving Repr, DecidableEq

namespace Declaration

/-- The line or the header. -/
def text (d : Declaration) : String := d.before ++ d.name ++ d.after

/-- Whether nothing else in the class may have the name. Methods may share one, constructors and
conversions have none of their own. -/
def claimsName (d : Declaration) : Bool :=
  match d.kind with
  | .field | .property | .nestedClass => true
  | .method | .constructor | .conversion => false

/-- The names that declarations claim. -/
def claimedNames (ds : List Declaration) : List String := (ds.filter (·.claimsName)).map (·.name)

end Declaration

namespace Piece

/-- Whether a line is a comment or an attribute, and so goes with what is declared below it. -/
def isRemark (s : String) : Bool :=
  "//".toList.isPrefixOf s.toList || "[".toList.isPrefixOf s.toList

mutual

/-- The texts by which a piece declares something in the class in whose body it stands: the lines
that are no remarks, and the headers of blocks. -/
def declarations : Piece → List String
  | .line s => if isRemark s then [] else [s]
  | .block header _ _ => [header]
  | .region _ body | .inNamespace _ body => declarationsAll body
  | .blank | .indent | .dedent | .diagnostic _ => []

def declarationsAll : List Piece → List String
  | [] => []
  | p :: ps => declarations p ++ declarationsAll ps

end

mutual

/-- What stands directly within the blocks of a piece. -/
def inside : Piece → List Piece
  | .block _ _ body => body
  | .region _ body | .inNamespace _ body => insideAll body
  | .line _ | .blank | .indent | .dedent | .diagnostic _ => []

def insideAll : List Piece → List Piece
  | [] => []
  | p :: ps => inside p ++ insideAll ps

end

section Declarations

/-- A line declares something unless it is a remark. -/
@[simp] theorem declarations_line (s : String) :
    declarations (.line s) = if isRemark s then [] else [s] := by
  simp only [declarations]

@[simp] theorem declarations_blank : declarations .blank = [] := by simp only [declarations]

/-- A block declares one thing in the class it stands in, whatever its body declares. -/
@[simp] theorem declarations_braces (header : String) (body : List Piece) :
    declarations (braces header body) = [header] := by
  simp only [braces, declarations]

/-- A region is no body of its own: what is in it is declared in the class around. -/
@[simp] theorem declarations_region (name : String) (body : List Piece) :
    declarations (.region name body) = declarationsAll body := by
  simp only [declarations]

@[simp] theorem declarationsAll_nil : declarationsAll [] = [] := by simp only [declarationsAll]

/-- Pieces declare what the first one declares, and then what the others do. -/
@[simp] theorem declarationsAll_cons (p : Piece) (ps : List Piece) :
    declarationsAll (p :: ps) = declarations p ++ declarationsAll ps := by
  simp only [declarationsAll]

/-- Pieces declare what each of them declares, in order. -/
theorem declarationsAll_eq_flatMap (ps : List Piece) :
    declarationsAll ps = ps.flatMap declarations := by
  induction ps with
  | nil => simp
  | cons p ps ih => simp [ih]

/-- What two lists of pieces in a row declare. -/
@[simp] theorem declarationsAll_append (ps qs : List Piece) :
    declarationsAll (ps ++ qs) = declarationsAll ps ++ declarationsAll qs := by
  simp only [declarationsAll_eq_flatMap, List.flatMap_append]

/-- Blank lines between groups declare nothing. -/
@[simp] theorem declarationsAll_separated (groups : List (List Piece)) :
    declarationsAll (separated groups) = groups.flatMap declarationsAll := by
  rw [declarationsAll_eq_flatMap, flatMap_separated _ declarations_blank]
  exact List.flatMap_congr fun group _ => (declarationsAll_eq_flatMap group).symm

theorem declarationsAll_lines_of_remarks {texts : List String}
    (h : ∀ s ∈ texts, isRemark s = true) : declarationsAll (lines texts) = [] := by
  rw [declarationsAll_eq_flatMap, lines, List.flatMap_map, List.flatMap_eq_nil_iff]
  intro s hs
  rw [declarations_line, if_pos (h s hs)]

/-- A documentation comment declares nothing, however many lines it has. -/
@[simp] theorem declarationsAll_element (tag : String) (content : List String) :
    declarationsAll (element tag content) = [] := by
  refine declarationsAll_lines_of_remarks fun s hs => ?_
  simp only [List.mem_append, List.mem_singleton, List.mem_map] at hs
  rcases hs with (rfl | ⟨t, -, rfl⟩) | rfl <;> simp [isRemark]

@[simp] theorem declarationsAll_summary (content : List String) :
    declarationsAll (summary content) = [] :=
  declarationsAll_element _ _

@[simp] theorem declarationsAll_remarks (content : List String) :
    declarationsAll (remarks content) = [] :=
  declarationsAll_element _ _

/-- The attribute that marks a method as pure declares nothing. -/
@[simp] theorem declarationsAll_pureMark (pass : Pass) : declarationsAll pass.pureMark = [] := by
  rw [Pass.pureMark]
  split <;> simp [isRemark]

@[simp] theorem insideAll_nil : insideAll [] = [] := by simp only [insideAll]

/-- What stands within pieces, the first one and then the others. -/
@[simp] theorem insideAll_cons (p : Piece) (ps : List Piece) :
    insideAll (p :: ps) = inside p ++ insideAll ps := by
  simp only [insideAll]

@[simp] theorem inside_line (s : String) : inside (.line s) = [] := by simp only [inside]

/-- What stands within the braces of a block is its body. -/
@[simp] theorem inside_braces (header : String) (body : List Piece) :
    inside (braces header body) = body := by
  simp only [braces, inside]

/-- What stands within a region is what stands within its blocks. -/
@[simp] theorem inside_region (name : String) (body : List Piece) :
    inside (.region name body) = insideAll body := by
  simp only [inside]

@[simp] theorem inside_blank : inside .blank = [] := by simp only [inside]

/-- What stands within two lists of pieces in a row. -/
@[simp] theorem insideAll_append (ps qs : List Piece) :
    insideAll (ps ++ qs) = insideAll ps ++ insideAll qs := by
  induction ps with
  | nil => simp
  | cons p ps ih => simp [ih]

@[simp] theorem insideAll_lines (texts : List String) : insideAll (lines texts) = [] := by
  induction texts with
  | nil => rfl
  | cons s texts ih => simpa [lines] using ih

@[simp] theorem insideAll_element (tag : String) (content : List String) :
    insideAll (element tag content) = [] :=
  insideAll_lines _

@[simp] theorem insideAll_summary (content : List String) : insideAll (summary content) = [] :=
  insideAll_lines _

@[simp] theorem insideAll_remarks (content : List String) : insideAll (remarks content) = [] :=
  insideAll_lines _

end Declarations

end Piece

open Piece

namespace Entity

variable (e : Entity)

/-- Where code has a part only under a condition, so has what it declares. -/
theorem declarationsAll_ite (b : Prop) [Decidable b] {ps qs : List Piece}
    {ds es : List Declaration} (hp : declarationsAll ps = ds.map Declaration.text)
    (hq : declarationsAll qs = es.map Declaration.text) :
    declarationsAll (if b then ps else qs) = (if b then ds else es).map Declaration.text := by
  split <;> assumption

/-! ### In the class of the entity -/

def defaultDeclaration : Declaration :=
  ⟨.field, "public static readonly " ++ e.newModifier ++ e.name ++ " ", "Default",
    " = new " ++ e.name ++ "();"⟩

def builderDeclaration : Declaration :=
  ⟨.nestedClass,
    e.definition.accessibility.modifiers ++ " " ++ (if e.isAbstract then "abstract " else "") ++
      e.newModifier ++ "partial class ",
    "Builder", if e.builderBases.isEmpty then "" else " : " ++ Text.join ", " e.builderBases⟩

def optionDeclarations : List Declaration :=
  [⟨.field, "public static readonly " ++ e.newModifier ++ e.option ++ " ", "None",
      " = global::Uno.Option.None<" ++ e.name ++ ">();"⟩,
    ⟨.nestedClass, "partial class ", "Builder", ""⟩]

def constructorDeclarations : List Declaration :=
  [⟨.constructor, "protected ", e.definition.name, "() \x7b\x7d"⟩,
    ⟨.constructor, "public ", e.definition.name,
      "(Builder builder)" ++ if e.base.isEntity then " : base(builder)" else ""⟩]

def conversionDeclarations : List Declaration :=
  [⟨.conversion, "public static implicit operator ", "Builder", "(" ++ e.name ++ " original)"⟩,
    ⟨.conversion, "public static implicit operator ", e.name, "(Builder builder)"⟩]

/-- What the unit declares in the class of the entity. -/
def declarations : List Declaration :=
  (if e.isAbstract then [] else [e.defaultDeclaration]) ++ [e.builderDeclaration] ++
    (if e.hasOptionCode then e.optionDeclarations else []) ++ e.constructorDeclarations ++
    if e.isAbstract then [] else e.conversionDeclarations

/-- The default instance is one field. -/
theorem declarationsAll_defaultInstance :
    declarationsAll e.defaultInstance = [e.defaultDeclaration].map Declaration.text := by
  simp [defaultInstance, isRemark, List.isPrefixOf, Declaration.text, defaultDeclaration,
    ← String.toList_inj]

/-- The whole builder is one class within the entity. -/
theorem declarationsAll_builderClass :
    declarationsAll e.builderClass = [e.builderDeclaration.text] := by
  simp [builderClass, builderDocumentation, builderHeader, Declaration.text, builderDeclaration,
    ← String.toList_inj]

/-- What the code for optional entities declares. -/
theorem declarationsAll_optionRegion :
    declarationsAll e.optionRegion = e.optionDeclarations.map Declaration.text := by
  simp [optionRegion, isRemark, List.isPrefixOf, Declaration.text, optionDeclarations,
    ← String.toList_inj]

/-- The entity gets the constructors that take a builder. -/
theorem declarationsAll_entityConstructors :
    declarationsAll e.entityConstructors = e.constructorDeclarations.map Declaration.text := by
  simp [entityConstructors, isRemark, List.isPrefixOf, Declaration.text, constructorDeclarations,
    ← String.toList_inj]

/-- The conversions from and to the builder. -/
theorem declarationsAll_conversions :
    declarationsAll e.conversions = e.conversionDeclarations.map Declaration.text := by
  simp [conversions, isRemark, List.isPrefixOf, Declaration.text, conversionDeclarations,
    ← String.toList_inj]

/-- **The class of the entity declares** what is listed, and nothing else. -/
theorem declarationsAll_entityClass :
    declarationsAll (insideAll e.entityClass) = e.declarations.map Declaration.text := by
  have hmarkers : insideAll e.markers = [] := by
    rw [markers]
    split <;> split <;> split <;> simp
  have hnone : declarationsAll [] = ([] : List Declaration).map Declaration.text :=
    declarationsAll_nil
  have hdefault :=
    declarationsAll_ite (e.isAbstract = true) hnone e.declarationsAll_defaultInstance
  have hoption := declarationsAll_ite (e.hasOptionCode = true) e.declarationsAll_optionRegion hnone
  have hconversions := declarationsAll_ite (e.isAbstract = true) hnone e.declarationsAll_conversions
  simp [entityClass, declarations, hmarkers, hdefault, hoption, hconversions,
    declarationsAll_builderClass, declarationsAll_entityConstructors]

/-! ### In the builder -/

/-- The state that the first builder of a hierarchy declares. -/
def stateDeclarations : List Declaration :=
  if e.base.isEntity then []
  else
    [⟨.field, "protected bool ", "_isDirty", " = false;"⟩,
      ⟨.field, "protected internal readonly " ++ e.name ++ " ", "_original", ";"⟩,
      ⟨.field, "protected " ++ e.name ++ " ", "_cachedResult", " = default(" ++ e.name ++ ");"⟩]

def builderConstructorDeclarations : List Declaration :=
  let base (source : String) := if e.base.isEntity then " : base(" ++ source ++ ")" else ""
  if e.isAbstract then
    [⟨.constructor, "protected ", "Builder", "(" ++ e.name ++ " original)" ++ base "original"⟩]
  else
    [⟨.constructor, "public ", "Builder",
        "(" ++ e.name ++ " original)" ++ base ("original ?? " ++ e.name ++ ".Default")⟩,
      ⟨.constructor, "public ", "Builder", "()" ++ base (e.name ++ ".Default")⟩]

/-- The backing field of a property, its set flag, and the property. -/
def propertyDeclarations (p : BuilderProperty) : List Declaration :=
  [⟨.field, "private " ++ p.type ++ " ", "_" ++ p.name, ";"⟩,
    ⟨.field, "private bool ", "_is" ++ p.name ++ "Set", " = false;"⟩,
    ⟨.property, "public " ++ p.newModifier ++ p.type ++ " ", p.name, ""⟩]

def buildDeclarations : List Declaration :=
  if e.isAbstract then []
  else [⟨.method, "public " ++ e.newModifier ++ e.name ++ " ", "ToImmutable", "()"⟩]

def withDeclarations (p : BuilderProperty) : List Declaration :=
  let before := "public " ++ p.newModifier ++ "Builder "
  [⟨.method, before, "With" ++ p.name, "(" ++ p.type ++ " value)"⟩,
    ⟨.method, before, "With" ++ p.name,
      "(Func<" ++ p.type ++ ", " ++ p.type ++ "> valueSelector)"⟩]

/-- What the part of the builder for optional entities declares. -/
def optionBuilderDeclarations : List Declaration :=
  [⟨.field, "private bool ", "_isNone", ";"⟩,
    ⟨.method, "public static " ++ e.newModifier ++ "Builder ", "FromOption",
      "(" ++ e.option ++ " original)"⟩,
    ⟨.method, "public " ++ e.newModifier ++ e.option ++ " ", "ToOptionImmutable", "()"⟩,
    ⟨.conversion, "public static implicit operator ", "Builder", "(" ++ e.option ++ " original)"⟩,
    ⟨.conversion, "public static implicit operator ", e.option, "(Builder builder)"⟩]

/-- What the unit declares in the builder. -/
def builderDeclarations : List Declaration :=
  e.stateDeclarations ++ e.builderConstructorDeclarations ++
    e.properties.flatMap propertyDeclarations ++ e.buildDeclarations ++
    e.properties.flatMap withDeclarations ++
    if e.hasOptionCode then e.optionBuilderDeclarations else []

/-- What stands in the two parts of the builder. -/
def builderBody : List Piece :=
  insideAll e.builderClass ++ if e.hasOptionCode then insideAll e.optionRegion else []

/-- The fields for the state of the builder stand before its constructors. -/
theorem declarationsAll_builderConstructors :
    declarationsAll e.builderConstructors =
      (e.stateDeclarations ++ e.builderConstructorDeclarations).map Declaration.text := by
  rw [builderConstructors, stateDeclarations, builderConstructorDeclarations]
  by_cases hbase : e.base.isEntity = true <;> by_cases habstract : e.isAbstract = true <;>
    simp [hbase, habstract, derivedConstructors, sharedState, rootConstructors, isRemark,
      List.isPrefixOf, Declaration.text, ← String.toList_inj]

/-- A property of the builder declares its two fields and itself. Its attributes are remarks. -/
theorem declarationsAll_builderProperty {p : BuilderProperty}
    (h : ∀ a ∈ p.attributes, isRemark a = true) :
    declarationsAll (e.builderProperty p) = (propertyDeclarations p).map Declaration.text := by
  simp [builderProperty, declarationsAll_lines_of_remarks h, propertyDeclarations, isRemark,
    List.isPrefixOf, Declaration.text, ← String.toList_inj]

/-- One method builds the entity, whether or not it can. -/
theorem declarationsAll_build :
    declarationsAll (if e.isAbstract then e.noToImmutable else e.toImmutable) =
      e.buildDeclarations.map Declaration.text := by
  refine declarationsAll_ite _ ?_ ?_ <;>
    simp [noToImmutable, toImmutable, isRemark, Declaration.text, ← String.toList_inj]

/-- The methods that set one property of the builder. -/
theorem declarationsAll_builderWiths (p : BuilderProperty) :
    declarationsAll (e.builderWiths p) = (withDeclarations p).map Declaration.text := by
  simp [builderWiths, withDeclarations, Declaration.text, ← String.toList_inj]

/-- The methods that set a property of the builder, property by property. -/
theorem declarationsAll_allBuilderWiths :
    declarationsAll e.allBuilderWiths =
      (e.properties.flatMap withDeclarations).map Declaration.text := by
  have hwiths : declarationsAll (separated (e.properties.map e.builderWiths)) =
      (e.properties.flatMap withDeclarations).map Declaration.text := by
    rw [declarationsAll_separated, List.flatMap_map, List.map_flatMap]
    exact List.flatMap_congr fun p _ => e.declarationsAll_builderWiths p
  rw [allBuilderWiths]
  split
  · next hnone => simp [List.isEmpty_iff.1 hnone]
  · simp [hwiths]

/-- What the builder for optional entities declares in its own class. -/
theorem declarationsAll_optionBuilder :
    declarationsAll (insideAll e.optionRegion) =
      e.optionBuilderDeclarations.map Declaration.text := by
  simp [optionRegion, optionBuilderDeclarations, isRemark, List.isPrefixOf, Declaration.text,
    ← String.toList_inj]

/-- **The builder declares** what is listed, and nothing else, where the lines of the attributes on
its properties are such lines. -/
theorem declarationsAll_builderBody
    (h : ∀ p ∈ e.properties, ∀ a ∈ p.attributes, isRemark a = true) :
    declarationsAll e.builderBody = e.builderDeclarations.map Declaration.text := by
  have hproperties : e.properties.flatMap (fun p => declarationsAll (e.builderProperty p)) =
      (e.properties.flatMap propertyDeclarations).map Declaration.text := by
    rw [List.map_flatMap]
    exact List.flatMap_congr fun p hp => e.declarationsAll_builderProperty (h p hp)
  have hnone : declarationsAll [] = ([] : List Declaration).map Declaration.text :=
    declarationsAll_nil
  have hoption := declarationsAll_ite (e.hasOptionCode = true) e.declarationsAll_optionBuilder hnone
  simp [builderBody, builderClass, builderDocumentation, builderDeclarations, List.flatMap_map,
    hproperties, hoption, declarationsAll_builderConstructors, declarationsAll_build,
    declarationsAll_allBuilderWiths]

end Entity

/-! ### The names -/

namespace Declaration

/-- The names that two lists of declarations in a row claim. -/
theorem claimedNames_append (ds es : List Declaration) :
    claimedNames (ds ++ es) = claimedNames ds ++ claimedNames es := by
  simp only [claimedNames, List.filter_append, List.map_append]

/-- The names that many lists of declarations claim are those of each of them. -/
theorem claimedNames_flatMap {α : Type} (f : α → List Declaration) (xs : List α) :
    claimedNames (xs.flatMap f) = xs.flatMap fun x => claimedNames (f x) := by
  simp only [claimedNames, List.filter_flatMap, List.map_flatMap]

end Declaration

open Declaration

namespace BuilderProperty

/-- The name of the field that holds the value of a property. -/
def backing (p : BuilderProperty) : String := "_" ++ p.name

/-- The name of the field that tells whether a property is set. -/
def flag (p : BuilderProperty) : String := "_is" ++ p.name ++ "Set"

/-- Two properties share the field of the value only if they have the same name. -/
theorem backing_eq_iff {p q : BuilderProperty} : p.backing = q.backing ↔ p.name = q.name := by
  simp [backing, ← String.toList_inj]

/-- Two properties share the flag only if they have the same name. -/
theorem flag_eq_iff {p q : BuilderProperty} : p.flag = q.flag ↔ p.name = q.name := by
  simp [flag, ← String.toList_inj]

/-- One property's value and another one's flag share a field if the one has the name of the other
between `is` and `Set`. -/
theorem backing_eq_flag_iff {p q : BuilderProperty} :
    p.backing = q.flag ↔ p.name = "is" ++ q.name ++ "Set" := by
  simp [backing, flag, ← String.toList_inj]

end BuilderProperty

namespace Entity

variable (e : Entity)

/-- The names that the unit claims in the class of the entity. -/
def addedNames : List String := claimedNames e.declarations

/-- The names that the unit claims in the builder. -/
def builderNames : List String := claimedNames e.builderDeclarations

/-- The names of the state that is not about one property. -/
def stateNames : List String :=
  (if e.base.isEntity then [] else ["_isDirty", "_original", "_cachedResult"]) ++
    if e.hasOptionCode then ["_isNone"] else []

/-- **No name of the unit clashes**: what it adds to the entity differs from the members of the
entity, and no two fields or properties of the builder have one name. -/
structure NamesDistinct : Prop where
  added : ∀ n ∈ e.addedNames, ∀ m ∈ e.definition.members, m.name ≠ n
  builder : e.builderNames.Nodup

/-- What the names of members have to keep clear of. -/
structure NamesAreFree : Prop where
  builder : ∀ m ∈ e.definition.members, m.name ≠ "Builder"
  default : e.isAbstract = false → ∀ m ∈ e.definition.members, m.name ≠ "Default"
  none : e.hasOptionCode = true → ∀ m ∈ e.definition.members, m.name ≠ "None"
  /-- No property is named like a piece of the state, nor like one without its first `_`. -/
  state : ∀ p ∈ e.properties, p.name ∉ e.stateNames ∧ p.backing ∉ e.stateNames
  backing : ∀ p ∈ e.properties, ∀ q ∈ e.properties, p.name ≠ "_" ++ q.name
  flag : ∀ p ∈ e.properties, ∀ q ∈ e.properties,
    p.name ≠ "_is" ++ q.name ++ "Set" ∧ p.name ≠ "is" ++ q.name ++ "Set"

/-- The names that the class of the entity gets, with what decides whether it gets them. -/
theorem mem_addedNames_iff {n : String} :
    n ∈ e.addedNames ↔ n = "Builder" ∨ e.isAbstract = false ∧ n = "Default" ∨
      e.hasOptionCode = true ∧ n = "None" := by
  cases habstract : e.isAbstract <;> cases hoption : e.hasOptionCode <;>
    simp [addedNames, declarations, habstract, hoption, claimedNames, claimsName,
      defaultDeclaration, builderDeclaration, optionDeclarations, constructorDeclarations,
      conversionDeclarations] <;> tauto

/-- The three names of each property, sorted by what they are. -/
theorem propertyNames_perm (ps : List BuilderProperty) :
    (claimedNames (ps.flatMap propertyDeclarations)).Perm
      (ps.map (·.backing) ++ (ps.map (·.flag) ++ ps.map (·.name))) := by
  have hnames : claimedNames (ps.flatMap propertyDeclarations) =
      ps.flatMap fun p => p.backing :: (p.flag :: [p.name]) :=
    claimedNames_flatMap _ _
  have hflags : (ps.map (·.flag) ++ ps.map (·.name)).Perm
      (ps.flatMap fun p => p.flag :: [p.name]) := by
    have hsingle : ps.map (·.name) = ps.flatMap fun p => [p.name] := List.map_eq_flatMap
    rw [hsingle]
    exact List.map_append_flatMap_perm ps _ _
  rw [hnames]
  exact ((hflags.append_left _).trans (List.map_append_flatMap_perm ps _ _)).symm

/-- The fields and the properties of the builder: its state, and the three of each property. -/
theorem builderNames_perm :
    e.builderNames.Perm (e.stateNames ++ (e.properties.map (·.backing) ++
      (e.properties.map (·.flag) ++ e.properties.map (·.name)))) := by
  have hstate : claimedNames e.stateDeclarations =
      if e.base.isEntity then [] else ["_isDirty", "_original", "_cachedResult"] := by
    rw [stateDeclarations]
    split <;> rfl
  have hoption : claimedNames (if e.hasOptionCode then e.optionBuilderDeclarations else []) =
      if e.hasOptionCode then ["_isNone"] else [] := by
    split <;> rfl
  have hconstructors : claimedNames e.builderConstructorDeclarations = [] := by
    simp only [builderConstructorDeclarations]
    split <;> rfl
  have hbuild : claimedNames e.buildDeclarations = [] := by
    rw [buildDeclarations]
    split <;> rfl
  have hwiths : claimedNames (e.properties.flatMap withDeclarations) = [] := by
    rw [claimedNames_flatMap, List.flatMap_eq_nil_iff]
    exact fun _ _ => rfl
  simp only [builderNames, builderDeclarations, claimedNames_append, hstate, hoption, hconstructors,
    hbuild, hwiths, List.append_nil, stateNames]
  rw [List.append_assoc, List.append_assoc]
  exact (List.perm_append_comm.trans ((propertyNames_perm _).append_left _)).append_left _

/-- A piece of the state is no flag. -/
theorem flag_not_mem_stateNames (p : BuilderProperty) : p.flag ∉ e.stateNames := by
  intro h
  have hstate : p.flag ∈ ["_isDirty", "_original", "_cachedResult", "_isNone"] := by
    rw [stateNames] at h
    split at h <;> split at h <;> simp at h ⊢ <;> tauto
  have hend : ∀ s ∈ ["_isDirty", "_original", "_cachedResult", "_isNone"],
      ¬ "Set".toList <:+ s.toList := by decide
  refine hend _ hstate ⟨("_is" ++ p.name).toList, ?_⟩
  rw [← String.toList_append, BuilderProperty.flag]

/-- The names for the state of the builder differ from one another. -/
theorem nodup_stateNames : e.stateNames.Nodup := by
  rw [stateNames]
  split <;> split <;> decide

/-- When the fields and the properties of the builder have names of their own. -/
theorem nodup_builderNames_iff (h : (e.properties.map (·.name)).Nodup) :
    e.builderNames.Nodup ↔
      (∀ p ∈ e.properties, p.name ∉ e.stateNames ∧ p.backing ∉ e.stateNames) ∧
      (∀ p ∈ e.properties, ∀ q ∈ e.properties, p.name ≠ "_" ++ q.name) ∧
      ∀ p ∈ e.properties, ∀ q ∈ e.properties,
        p.name ≠ "_is" ++ q.name ++ "Set" ∧ p.name ≠ "is" ++ q.name ++ "Set" := by
  have hbackings : (e.properties.map (·.backing)).Nodup :=
    List.pairwise_map.2 ((List.pairwise_map.1 h).imp fun hne heq =>
      hne (BuilderProperty.backing_eq_iff.1 heq))
  have hflags : (e.properties.map (·.flag)).Nodup :=
    List.pairwise_map.2 ((List.pairwise_map.1 h).imp fun hne heq =>
      hne (BuilderProperty.flag_eq_iff.1 heq))
  rw [e.builderNames_perm.nodup_iff]
  simp only [List.nodup_append, h, hbackings, hflags, e.nodup_stateNames, true_and, List.mem_append,
    List.mem_map]
  constructor
  · rintro ⟨⟨hflagName, hbacking⟩, hstate⟩
    refine ⟨fun p hp => ⟨fun hmem => ?_, fun hmem => ?_⟩, fun p hp q hq heq => ?_,
      fun p hp q hq => ⟨fun heq => ?_, fun heq => ?_⟩⟩
    · exact hstate _ hmem _ (.inr (.inr ⟨p, hp, rfl⟩)) rfl
    · exact hstate _ hmem _ (.inl ⟨p, hp, rfl⟩) rfl
    · exact hbacking _ ⟨q, hq, rfl⟩ _ (.inr ⟨p, hp, rfl⟩) heq.symm
    · exact hflagName _ ⟨q, hq, rfl⟩ _ ⟨p, hp, rfl⟩ heq.symm
    · exact hbacking _ ⟨p, hp, rfl⟩ _ (.inl ⟨q, hq, rfl⟩)
        (BuilderProperty.backing_eq_flag_iff.2 heq)
  · rintro ⟨hstate, hbacking, hflag⟩
    refine ⟨⟨?_, ?_⟩, ?_⟩
    · rintro _ ⟨q, hq, rfl⟩ _ ⟨p, hp, rfl⟩ heq
      exact (hflag p hp q hq).1 heq.symm
    · rintro _ ⟨p, hp, rfl⟩ _ (⟨q, hq, rfl⟩ | ⟨q, hq, rfl⟩) heq
      · exact (hflag p hp q hq).2 (BuilderProperty.backing_eq_flag_iff.1 heq)
      · exact hbacking q hq p hp heq.symm
    · rintro s hs _ (⟨p, hp, rfl⟩ | ⟨p, hp, rfl⟩ | ⟨p, hp, rfl⟩) rfl
      · exact (hstate p hp).2 hs
      · exact e.flag_not_mem_stateNames p hs
      · exact (hstate p hp).1 hs

/-- When what the unit adds to the entity differs from its members. -/
theorem addedNames_differ_iff :
    (∀ n ∈ e.addedNames, ∀ m ∈ e.definition.members, m.name ≠ n) ↔
      (∀ m ∈ e.definition.members, m.name ≠ "Builder") ∧
        (e.isAbstract = false → ∀ m ∈ e.definition.members, m.name ≠ "Default") ∧
        (e.hasOptionCode = true → ∀ m ∈ e.definition.members, m.name ≠ "None") := by
  simp only [mem_addedNames_iff, or_imp, and_imp, forall_and, forall_eq, forall_eq_apply_imp_iff]

/-- With properties of different names, no name of the unit clashes exactly when the names of the
members keep clear of those that the unit makes. -/
theorem namesDistinct_iff (h : (e.properties.map (·.name)).Nodup) :
    e.NamesDistinct ↔ e.NamesAreFree := by
  constructor
  · rintro ⟨hadded, hbuilder⟩
    obtain ⟨hbuilderName, hdefault, hnone⟩ := e.addedNames_differ_iff.1 hadded
    obtain ⟨hstate, hbacking, hflag⟩ := (e.nodup_builderNames_iff h).1 hbuilder
    exact ⟨hbuilderName, hdefault, hnone, hstate, hbacking, hflag⟩
  · intro hfree
    exact ⟨e.addedNames_differ_iff.2 ⟨hfree.builder, hfree.default, hfree.none⟩,
      (e.nodup_builderNames_iff h).2 ⟨hfree.state, hfree.backing, hfree.flag⟩⟩

instance : Decidable e.NamesAreFree :=
  decidable_of_iff
    (((∀ m ∈ e.definition.members, m.name ≠ "Builder") ∧
        (e.isAbstract = false → ∀ m ∈ e.definition.members, m.name ≠ "Default") ∧
        (e.hasOptionCode = true → ∀ m ∈ e.definition.members, m.name ≠ "None")) ∧
      (∀ p ∈ e.properties, p.name ∉ e.stateNames ∧ p.backing ∉ e.stateNames) ∧
      (∀ p ∈ e.properties, ∀ q ∈ e.properties, p.name ≠ "_" ++ q.name) ∧
      ∀ p ∈ e.properties, ∀ q ∈ e.properties,
        p.name ≠ "_is" ++ q.name ++ "Set" ∧ p.name ≠ "is" ++ q.name ++ "Set")
    ⟨fun ⟨⟨hbuilder, hdefault, hnone⟩, hstate, hbacking, hflag⟩ =>
        ⟨hbuilder, hdefault, hnone, hstate, hbacking, hflag⟩,
      fun h => ⟨⟨h.builder, h.default, h.none⟩, h.state, h.backing, h.flag⟩⟩

end Entity

/-! ### The unit of a type -/

/-- The properties of a type are named like members of it. -/
theorem TypeDef.names_properties_sublist (d : TypeDef) :
    (d.properties.map (·.name)).Sublist (d.members.map Member.name) := by
  rw [properties]
  induction d.members with
  | nil => exact .slnil
  | cons m ms ih =>
      cases m with
      | property p => exact ih.cons_cons _
      | field f => exact ih.cons _
      | method m => exact ih.cons _

namespace Pass

variable (pass : Pass) (d : TypeDef)

/-- The properties of the entity are those of the type that are builder state, under their names. -/
theorem names_properties_entity :
    (pass.entity d).properties.map (·.name) =
      (d.properties.filter (·.isBuilderState)).map (·.name) := by
  simp [entity, TypeDef.builderProperty]

/-- The attributes that a builder repeats are remarks. -/
theorem isRemark_of_mem_attributes {p : BuilderProperty} (hp : p ∈ (pass.entity d).properties)
    {a : String} (ha : a ∈ p.attributes) : isRemark a = true := by
  obtain ⟨pair, hpair, rfl⟩ := List.mem_map.1 hp
  obtain ⟨q, -, rfl⟩ := List.mem_map.1 hpair
  obtain ⟨b, -, rfl⟩ := List.mem_map.1 ha
  simp [isRemark]

/-- **No name that the unit of an entity declares clashes**, as long as the members of the entity
have different names, exactly when these keep clear of what `NamesAreFree` lists. The declarations
are those of the code: each line or header is the name with the text around it. -/
theorem declaredNames_distinct_iff (h : (d.members.map Member.name).Nodup) :
    declarationsAll (insideAll (pass.entity d).entityClass) =
        (pass.entity d).declarations.map Declaration.text ∧
      declarationsAll (pass.entity d).builderBody =
        (pass.entity d).builderDeclarations.map Declaration.text ∧
      ((pass.entity d).NamesDistinct ↔ (pass.entity d).NamesAreFree) := by
  have hnames : ((pass.entity d).properties.map (·.name)).Nodup := by
    rw [names_properties_entity]
    exact h.sublist ((List.filter_sublist.map _).trans d.names_properties_sublist)
  exact ⟨Entity.declarationsAll_entityClass _,
    Entity.declarationsAll_builderBody _ fun p hp a ha => pass.isRemark_of_mem_attributes d hp ha,
    Entity.namesDistinct_iff _ hnames⟩

end Pass

/-! ### Runs -/

/-- Whether a text is an identifier of plain letters, digits and `_`. -/
def isPlainIdentifier (s : String) : Bool :=
  match s.toList with
  | [] => false
  | c :: cs => (c.isAlpha || c == '_') && cs.all fun c => c.isAlphanum || c == '_'

/-- An entity with properties of the given names, and without equality. -/
def itemOf (names : List String) : TypeDef where
  «namespace» := "Shop"
  name := "Item"
  isPartial := true
  attributes := [{
    className := Vocabulary.generatedImmutable
    namedArguments := [{ name := "GenerateEquality", value := .bool false }] }]
  members := names.map fun name => .property { name, type := .named "System.Guid" [] }

/-- A program with an entity that has no problem, and passes a check, has a run. -/
theorem exists_run_itemOf (names : List String) (check : Entity → Bool)
    (h : ((Compilation.declaredTypes (.onSmallCore [itemOf names])).map (·.fullName)).Nodup)
    (hcheck : (Program.onSmallCore [itemOf names]).satisfies (fun c config _ =>
      let e := (Plan.immutablePass c config).entity (itemOf names)
      c.requestsImmutable (itemOf names) && e.problems.isEmpty && check e) = true) :
    ∃ c config g,
      Compilation.ofProgram (.onSmallCore [itemOf names]) = .ok c ∧
      Config.resolve c = .ok config ∧ generate c = .ok g ∧
      itemOf names ∈ (Plan.of c config).immutable ∧
      ((Plan.immutablePass c config).immutableArtifact (itemOf names)).diagnostics = [] ∧
      check ((Plan.immutablePass c config).entity (itemOf names)) = true := by
  obtain ⟨c, config, g, hc, hconfig, hg, hchecked⟩ := Program.exists_run _ _ hcheck
  simp only [Bool.and_eq_true] at hchecked
  obtain ⟨⟨hrequests, hproblems⟩, hchecked⟩ := hchecked
  obtain ⟨c', hc', htypes⟩ := Compilation.exists_ofProgram_eq_ok h
  obtain rfl : c = c' := Except.ok.inj (hc.symm.trans hc')
  have hitem : itemOf names ∈ c.types := by
    rw [htypes]
    exact List.mem_append_right _ (List.mem_append_right _ List.mem_cons_self)
  refine ⟨c, config, g, hc, hconfig, hg, Plan.mem_select.2 ⟨hitem, rfl, hrequests⟩, ?_, hchecked⟩
  rw [Pass.diagnostics_immutableArtifact]
  exact List.isEmpty_iff.1 hproblems

/-- An entity whose names are free. -/
def plainItem : TypeDef := itemOf ["Id", "Count"]

/-- In the unit of `plainItem` no name clashes. -/
theorem id_and_count_distinct :
    ∃ c config g,
      Compilation.ofProgram (.onSmallCore [plainItem]) = .ok c ∧
      Config.resolve c = .ok config ∧ generate c = .ok g ∧
      plainItem ∈ (Plan.of c config).immutable ∧
      (plainItem.members.map Member.name).Nodup ∧
      ((Plan.immutablePass c config).entity plainItem).NamesDistinct := by
  obtain ⟨c, config, g, hc, hconfig, hg, hitem, -, hfree⟩ :=
    exists_run_itemOf ["Id", "Count"] (fun e => decide e.NamesAreFree) (by decide +kernel)
      (by decide +kernel)
  have hnames : (plainItem.members.map Member.name).Nodup := by decide
  obtain ⟨-, -, hiff⟩ := (Plan.immutablePass c config).declaredNames_distinct_iff _ hnames
  exact ⟨c, config, g, hc, hconfig, hg, hitem, hnames, hiff.2 (of_decide_eq_true hfree)⟩

/-- An entity with a property named like the default instance, and one named like a piece of the
state without its first `_`. -/
def clashingItem : TypeDef := itemOf ["isDirty", "Default"]

/-- **`Default` and `isDirty` clash**: the members of `clashingItem` are named by two different
identifiers, and its unit reports nothing. Yet the default instance has the name of a member of the
entity, and two fields of the builder have one name. -/
theorem default_and_isDirty_clash :
    ∃ c config g,
      Compilation.ofProgram (.onSmallCore [clashingItem]) = .ok c ∧
      Config.resolve c = .ok config ∧ generate c = .ok g ∧
      clashingItem ∈ (Plan.of c config).immutable ∧
      (clashingItem.members.map Member.name).Nodup ∧
      (∀ m ∈ clashingItem.members, isPlainIdentifier m.name = true) ∧
      ((Plan.immutablePass c config).immutableArtifact clashingItem).diagnostics = [] ∧
      (∃ m ∈ clashingItem.members,
        m.name ∈ ((Plan.immutablePass c config).entity clashingItem).addedNames) ∧
      ¬ ((Plan.immutablePass c config).entity clashingItem).builderNames.Nodup := by
  obtain ⟨c, config, g, hc, hconfig, hg, hitem, hclean, hcheck⟩ :=
    exists_run_itemOf ["isDirty", "Default"]
      (fun e => decide ("Default" ∈ e.addedNames ∧ ¬ e.builderNames.Nodup)) (by decide +kernel)
      (by decide +kernel)
  obtain ⟨hadded, hbuilder⟩ := of_decide_eq_true hcheck
  exact ⟨c, config, g, hc, hconfig, hg, hitem, by decide, by decide +kernel, hclean,
    ⟨_, List.mem_cons_of_mem _ List.mem_cons_self, hadded⟩, hbuilder⟩

end Companion
