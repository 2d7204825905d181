import Companion.Compilation.Members
import Companion.Immutable.AttributeCopy
import Companion.Immutable.Base
import Companion.Model.Names
import Companion.Proofs.Lookup
import Companion.Proofs.OneLine
import Companion.Proofs.Worklist

/-!
# The Strings of a Model

A program is full of strings: names, the literals of attributes, default values, paths. `texts`
lists all of them, part by part. Whatever the generators spell out is made of these strings and of
fixed ones, so a model without line feeds has spellings without line feeds: of references, also of
those that substitution and the walk over supertypes produce, of declared types, and of attributes.

## Main results

* `TypeRef.oneLine_display`: spelled references.
* `TypeRef.oneLines_bind`, `Compilation.oneLines_supertypes`: references put together from others.
* `TypeDef.oneLine_nameWithGenerics` and its siblings: the names of a declared type.
* `Attribute.oneLine_written`: attributes as source code writes them.
-/

namespace Companion

/-- Whether no text of a list has a line feed. -/
def OneLines (texts : List String) : Prop := ∀ s ∈ texts, OneLine s

instance (texts : List String) : Decidable (OneLines texts) :=
  inferInstanceAs (Decidable (∀ s ∈ texts, OneLine s))

/-- No texts have no line feed. -/
@[simp] theorem oneLines_nil : OneLines [] := by simp [OneLines]

/-- Texts have no line feed if the first one and the others have none. -/
@[simp] theorem oneLines_cons {s : String} {ss : List String} :
    OneLines (s :: ss) ↔ OneLine s ∧ OneLines ss := by
  simp [OneLines]

/-- Texts in two lists have no line feed if those in each list have none. -/
@[simp] theorem oneLines_append {ss ts : List String} :
    OneLines (ss ++ ts) ↔ OneLines ss ∧ OneLines ts := by
  simp [OneLines, or_imp, forall_and]

/-- Texts that are gathered from a list have no line feed if those of each item have none. -/
@[simp] theorem oneLines_flatMap {α : Type} {l : List α} {f : α → List String} :
    OneLines (l.flatMap f) ↔ ∀ a ∈ l, OneLines (f a) := by
  simp only [OneLines, List.mem_flatMap]
  grind

/-! ### References -/

namespace TypeRef

mutual

/-- The strings of a reference. -/
def texts : TypeRef → List String
  | named name args => name :: textsAll args
  | array element _ => texts element
  | parameter name => [name]
  | tuple elements => textsAll elements

/-- The strings of a list of references. -/
def textsAll : List TypeRef → List String
  | [] => []
  | t :: ts => texts t ++ textsAll ts

end

/-- The texts of references are those of each of them. -/
@[simp] theorem oneLines_textsAll {ts : List TypeRef} :
    OneLines (textsAll ts) ↔ ∀ t ∈ ts, OneLines t.texts := by
  induction ts with
  | nil => simp [textsAll]
  | cons t ts ih => simp [textsAll, ih]

variable {t : TypeRef}

/-- The definition that a reference names is one of its texts. -/
theorem oneLine_definitionName (h : OneLines t.texts) {name : String}
    (hname : t.definitionName? = some name) : OneLine name := by
  cases t with
  | named => simp_all [texts, definitionName?]
  | array | parameter | tuple => cases hname

/-- The arguments of a reference bring no further texts. -/
theorem oneLines_args (h : OneLines t.texts) : ∀ arg ∈ t.args, OneLines arg.texts := by
  cases t with
  | named => simp_all [texts, args]
  | array | parameter | tuple => simp [args]

mutual

/-- Putting references without line feeds for parameters adds no line feed. -/
theorem oneLines_bind {σ : String → Option TypeRef}
    (hσ : ∀ name u, σ name = some u → OneLines u.texts) :
    ∀ t : TypeRef, OneLines t.texts → OneLines (t.bind σ).texts
  | .named name args, h => by
      simp only [texts, oneLines_cons, oneLines_textsAll] at h
      simp only [bind, texts, oneLines_cons, oneLines_textsAll]
      exact ⟨h.1, oneLines_bindAll hσ args h.2⟩
  | .array element _, h => by
      simp only [texts] at h
      simp only [bind, texts]
      exact oneLines_bind hσ element h
  | .parameter name, h => by
      rw [bind]
      cases hfound : σ name with
      | none => exact h
      | some u => exact hσ name u hfound
  | .tuple elements, h => by
      simp only [texts, oneLines_textsAll] at h
      simp only [bind, texts, oneLines_textsAll]
      exact oneLines_bindAll hσ elements h

/-- A substitution brings in no texts but those of what it substitutes, in each reference of a list.
-/
theorem oneLines_bindAll {σ : String → Option TypeRef}
    (hσ : ∀ name u, σ name = some u → OneLines u.texts) :
    ∀ ts : List TypeRef, (∀ t ∈ ts, OneLines t.texts) → ∀ t ∈ bindAll σ ts, OneLines t.texts
  | [], _ => by simp [bindAll]
  | t :: ts, h => by
      rw [bindAll, List.forall_mem_cons]
      exact ⟨oneLines_bind hσ t (h t List.mem_cons_self),
        oneLines_bindAll hσ ts fun u hu => h u (List.mem_cons_of_mem _ hu)⟩

end

/-- Arguments put for parameters bring in no texts but their own. -/
theorem oneLines_substitute (h : OneLines t.texts) (params : List TypeParameter)
    {args : List TypeRef} (hargs : ∀ arg ∈ args, OneLines arg.texts) :
    OneLines (t.substitute params args).texts := by
  refine oneLines_bind (fun name u hu => hargs u ?_) t h
  obtain ⟨⟨p, arg⟩, hfound, rfl⟩ := Option.map_eq_some_iff.1 hu
  exact (List.of_mem_zip (List.mem_of_find?_eq_some hfound)).2

/-! ### Spelled references -/

/-- Every keyword for a built-in type is a fixed text. -/
theorem oneLine_keyword {name keyword : String} (h : keyword? name = some keyword) :
    OneLine keyword := by
  unfold keyword? at h
  split at h <;> simp only [Option.some.injEq, reduceCtorEq] at h <;> subst h <;> exact .fixed rfl

mutual

/-- A spelled reference has no line feed if the names of definitions get none. -/
theorem oneLine_spell {σ : Spelling} (hσ : ∀ name, OneLine name → OneLine (σ.definition name)) :
    ∀ t : TypeRef, OneLines t.texts → OneLine (t.spell σ)
  | .named name [], h => by
      simp only [texts, oneLines_cons] at h
      rw [spell]
      cases hkeyword : keyword? name with
      | none => exact hσ name h.1
      | some keyword => exact oneLine_keyword hkeyword
  | .named name [arg], h => by
      simp only [texts, textsAll, oneLines_cons, oneLines_append] at h
      have harg := oneLine_spell hσ arg h.2.1
      rw [spell]
      split
      · exact oneLine_append.2 ⟨harg, .fixed rfl⟩
      · simp only [oneLine_append, hσ name h.1, harg, true_and, and_true]
        exact ⟨.fixed rfl, .fixed rfl⟩
  | .named name (arg :: arg' :: args), h => by
      simp only [texts, oneLines_cons, oneLines_textsAll] at h
      have hcomma : OneLine ", " := .fixed rfl
      have hargs := hcomma.join (oneLine_spellAll hσ (arg :: arg' :: args) h.2)
      rw [spell]
      · simp only [oneLine_append, hσ name h.1, hargs, true_and, and_true]
        exact ⟨.fixed rfl, .fixed rfl⟩
      all_goals simp
  | .array element rank, h => by
      simp only [texts] at h
      rw [spell]
      simp only [oneLine_append, oneLine_spell hσ element h, true_and]
      exact ⟨⟨.fixed rfl, .replicate _ (by decide)⟩, .fixed rfl⟩
  | .parameter name, h => by
      simp only [texts, oneLines_cons] at h
      rw [spell]
      exact h.1
  | .tuple elements, h => by
      simp only [texts, oneLines_textsAll] at h
      rw [spell]
      simp only [oneLine_append]
      exact ⟨⟨.fixed rfl, .join (.fixed rfl) (oneLine_spellAll hσ elements h)⟩, .fixed rfl⟩

/-- References are spelled on one line each if the names of definitions are. -/
theorem oneLine_spellAll {σ : Spelling}
    (hσ : ∀ name, OneLine name → OneLine (σ.definition name)) :
    ∀ ts : List TypeRef, (∀ t ∈ ts, OneLines t.texts) → ∀ s ∈ spellAll σ ts, OneLine s
  | [], _ => by simp [spellAll]
  | t :: ts, h => by
      rw [spellAll, List.forall_mem_cons]
      exact ⟨oneLine_spell hσ t (h t List.mem_cons_self),
        oneLine_spellAll hσ ts fun u hu => h u (List.mem_cons_of_mem _ hu)⟩

end

/-- The name of a definition in the sources is on one line. -/
theorem oneLine_sourceName {name : String} (h : OneLine name) : OneLine (sourceName name) := by
  have hpieces : ∀ s ∈ (Text.split '.' name).map (Text.before '`'), OneLine s := by
    simp only [List.forall_mem_map]
    exact fun piece hpiece => (h.of_mem_split hpiece).before _
  have hpoint : OneLine "." := .fixed rfl
  exact (OneLine.join hpoint hpieces).replaceChar (by decide)

/-- The name of a definition by itself is on one line. -/
theorem oneLine_simpleName {name : String} (h : OneLine name) : OneLine (simpleName name) := by
  rw [simpleName]
  cases hlast : (Text.split '.' (sourceName name)).getLast? with
  | none => exact oneLine_empty
  | some piece => exact (oneLine_sourceName h).of_mem_split (List.mem_of_getLast? hlast)

/-- A reference is spelled on one line in code. -/
theorem oneLine_display (h : OneLines t.texts) : OneLine t.display := by
  rw [display]
  refine oneLine_spell (fun name hname => ?_) t h
  dsimp only
  exact oneLine_append.2 ⟨.fixed rfl, oneLine_sourceName hname⟩

/-- A reference is spelled on one line in messages. -/
theorem oneLine_friendly (h : OneLines t.texts) : OneLine t.friendly := by
  rw [friendly]
  refine oneLine_spell (fun name hname => ?_) t h
  dsimp only
  exact oneLine_simpleName hname

end TypeRef

/-! ### Attributes -/

namespace AttributeValue

mutual

/-- The strings of an argument. -/
def texts : AttributeValue → List String
  | null | bool _ | int _ => []
  | string s => [s]
  | type t => t.texts
  | enum e => e.typeName :: e.member.toList
  | array items => textsAll items

/-- The strings of arguments. -/
def textsAll : List AttributeValue → List String
  | [] => []
  | v :: vs => texts v ++ textsAll vs

end

/-- The texts of attribute arguments are those of each of them. -/
@[simp] theorem oneLines_textsAll {vs : List AttributeValue} :
    OneLines (textsAll vs) ↔ ∀ v ∈ vs, OneLines v.texts := by
  induction vs with
  | nil => simp [textsAll]
  | cons v vs ih => simp [textsAll, ih]

/-- A text literal has no line feed, whatever the text. -/
theorem oneLine_escape (text : String) : OneLine (escape text) := by
  rw [escape, oneLine_ofList, List.mem_flatMap]
  rintro ⟨c, -, hfeed⟩
  unfold escapeChar at hfeed
  split at hfeed
  all_goals try simp at hfeed
  next hbreak _ _ => exact hbreak hfeed.symm

mutual

/-- An argument as source code writes it. -/
theorem oneLine_written : ∀ v : AttributeValue, OneLines v.texts → OneLine v.written
  | .null, _ => by
      rw [written]
      exact .fixed rfl
  | .bool b, _ => by
      cases b with
      | true => exact (.fixed rfl : OneLine "true")
      | false => exact (.fixed rfl : OneLine "false")
  | .int i, _ => .toString_int _
  | .string s, _ => by
      rw [written]
      simp only [oneLine_append, oneLine_escape, and_true]
      exact ⟨.fixed rfl, .fixed rfl⟩
  | .type t, h => by
      simp only [texts] at h
      rw [written]
      simp only [oneLine_append, TypeRef.oneLine_display h, and_true]
      exact ⟨.fixed rfl, .fixed rfl⟩
  | .enum e, h => by
      simp only [texts, oneLines_cons] at h
      have htype : OneLine (TypeRef.named e.typeName []).display :=
        TypeRef.oneLine_display (by simpa [TypeRef.texts] using h.1)
      rw [written]
      cases hmember : e.member with
      | none =>
          simp only [oneLine_append, htype, OneLine.toString_int, and_true]
          exact ⟨.fixed rfl, .fixed rfl⟩
      | some member =>
          have hmember : OneLine member := h.2 member (by simp [hmember])
          simp only [oneLine_append, htype, hmember, and_true, true_and]
          exact .fixed rfl
  | .array [], _ => by
      rw [written]
      exact .fixed rfl
  | .array (v :: vs), h => by
      simp only [texts, oneLines_textsAll] at h
      have hcomma : OneLine ", " := .fixed rfl
      have hitems := hcomma.join (oneLine_writtenAll (v :: vs) h)
      rw [written]
      · simp only [oneLine_append, hitems, and_true]
        exact ⟨.fixed rfl, .fixed rfl⟩
      · simp

/-- Attribute arguments are written on one line each. -/
theorem oneLine_writtenAll : ∀ vs : List AttributeValue, (∀ v ∈ vs, OneLines v.texts) →
    ∀ s ∈ writtenAll vs, OneLine s
  | [], _ => by simp [writtenAll]
  | v :: vs, h => by
      rw [writtenAll, List.forall_mem_cons]
      exact ⟨oneLine_written v (h v List.mem_cons_self),
        oneLine_writtenAll vs fun w hw => h w (List.mem_cons_of_mem _ hw)⟩

end

end AttributeValue

namespace Attribute

/-- The strings of an attribute. -/
def texts (a : Attribute) : List String :=
  a.className :: a.arguments.flatMap AttributeValue.texts ++
    a.namedArguments.flatMap fun n => n.name :: n.value.texts

variable {a : Attribute}

/-- **An attribute as source code writes it.** -/
theorem oneLine_written (h : OneLines a.texts) : OneLine a.written := by
  simp only [texts, oneLines_append, oneLines_cons, oneLines_flatMap] at h
  obtain ⟨⟨hclass, harguments⟩, hnamed⟩ := h
  have hname : OneLine (Text.replaceChar '+' '.' a.className) := hclass.replaceChar (by decide)
  have hequals : OneLine " = " := .fixed rfl
  have hwritten : ∀ s ∈ a.arguments.map AttributeValue.written ++
      a.namedArguments.map (fun n => n.name ++ " = " ++ n.value.written), OneLine s := by
    simp only [List.forall_mem_append, List.forall_mem_map, oneLine_append, hequals, and_true]
    exact ⟨fun v hv => v.oneLine_written (harguments v hv),
      fun n hn => ⟨(hnamed n hn).1, n.value.oneLine_written (hnamed n hn).2⟩⟩
  have hcomma : OneLine ", " := .fixed rfl
  rw [written]
  split
  · exact hname
  · simp only [oneLine_append, hname, hcomma.join hwritten, and_true, true_and]
    exact ⟨.fixed rfl, .fixed rfl⟩

end Attribute

/-! ### Declared types -/

def Location.texts (l : Location) : List String := [l.path]

/-- A location is told on one line. -/
theorem Location.oneLine_display {l : Location} (h : OneLines l.texts) : OneLine l.display := by
  simp only [texts, oneLines_cons] at h
  simp only [display, oneLine_append, h.1, OneLine.toString_nat, and_true, true_and]
  exact ⟨.fixed rfl, .fixed rfl⟩

/-- The strings of a parameter. -/
def Parameter.texts (p : Parameter) : List String :=
  p.name :: p.type.texts ++ p.defaultValue.toList

/-- The strings of a type parameter. -/
def TypeParameter.texts (p : TypeParameter) : List String :=
  p.name :: p.constraints.flatMap TypeRef.texts

/-- The strings of a property. -/
def Property.texts (p : Property) : List String :=
  p.name :: p.type.texts ++ p.attributes.flatMap Attribute.texts ++
    p.location.toList.flatMap Location.texts

/-- The strings of a field. -/
def Field.texts (f : Field) : List String :=
  f.name :: f.type.texts ++ f.attributes.flatMap Attribute.texts ++
    f.location.toList.flatMap Location.texts

/-- The strings of a method. -/
def Method.texts (m : Method) : List String :=
  m.name :: m.returnType.texts ++ m.parameters.flatMap Parameter.texts ++
    m.explicitInterface.toList.flatMap TypeRef.texts ++ m.attributes.flatMap Attribute.texts ++
    m.location.toList.flatMap Location.texts

/-- The strings of a member. -/
def Member.texts : Member → List String
  | property p => p.texts
  | field f => f.texts
  | method m => m.texts

/-- The strings of a type. -/
def TypeDef.texts (d : TypeDef) : List String :=
  d.namespace :: d.name :: d.typeParameters.flatMap TypeParameter.texts ++
    d.baseType.toList.flatMap TypeRef.texts ++ d.interfaces.flatMap TypeRef.texts ++
    d.attributes.flatMap Attribute.texts ++ d.members.flatMap Member.texts ++
    d.location.toList.flatMap Location.texts

/-- The strings of a program. -/
def Program.texts (p : Program) : List String :=
  p.assembly.name :: p.assembly.attributes.flatMap Attribute.texts ++
    p.types.flatMap TypeDef.texts

namespace TypeDef

variable {d : TypeDef}

/-- A type without line feeds has none in its parts. -/
theorem oneLines_texts_iff :
    OneLines d.texts ↔
      OneLine d.namespace ∧ OneLine d.name ∧
        (∀ p ∈ d.typeParameters, OneLines p.texts) ∧
        (∀ base ∈ d.baseType, OneLines base.texts) ∧
        (∀ t ∈ d.interfaces, OneLines t.texts) ∧
        (∀ a ∈ d.attributes, OneLines a.texts) ∧
        (∀ m ∈ d.members, OneLines m.texts) ∧
        ∀ l ∈ d.location, OneLines l.texts := by
  simp only [texts, oneLines_append, oneLines_cons, oneLines_flatMap, Option.mem_toList,
    Option.mem_def, and_assoc]

variable (h : OneLines d.texts)

include h

/-- The namespace of a definition is on one line. -/
theorem oneLine_namespace : OneLine d.namespace := (oneLines_texts_iff.1 h).1

/-- The name of a definition is on one line. -/
theorem oneLine_name : OneLine d.name := (oneLines_texts_iff.1 h).2.1

/-- A type parameter of a definition brings no further texts. -/
theorem oneLines_typeParameter {p : TypeParameter} (hp : p ∈ d.typeParameters) :
    OneLine p.name ∧ ∀ t ∈ p.constraints, OneLines t.texts := by
  simpa [TypeParameter.texts] using (oneLines_texts_iff.1 h).2.2.1 p hp

/-- The base type of a definition brings no further texts. -/
theorem oneLines_baseType {base : TypeRef} (hbase : d.baseType = some base) :
    OneLines base.texts :=
  (oneLines_texts_iff.1 h).2.2.2.1 base hbase

/-- An interface of a definition brings no further texts. -/
theorem oneLines_interface {t : TypeRef} (ht : t ∈ d.interfaces) : OneLines t.texts :=
  (oneLines_texts_iff.1 h).2.2.2.2.1 t ht

/-- An attribute of a definition brings no further texts. -/
theorem oneLines_attribute {a : Attribute} (ha : a ∈ d.attributes) : OneLines a.texts :=
  (oneLines_texts_iff.1 h).2.2.2.2.2.1 a ha

/-- A member of a definition brings no further texts. -/
theorem oneLines_member {m : Member} (hm : m ∈ d.members) : OneLines m.texts :=
  (oneLines_texts_iff.1 h).2.2.2.2.2.2.1 m hm

/-- A property of a definition, and what it is made of, brings no further texts. -/
theorem oneLines_property {p : Property} (hp : p ∈ d.properties) :
    OneLine p.name ∧ OneLines p.type.texts ∧ (∀ a ∈ p.attributes, OneLines a.texts) ∧
      ∀ l ∈ p.location, OneLines l.texts := by
  obtain ⟨m, hm, hproperty⟩ := List.mem_filterMap.1 hp
  have htexts := oneLines_member h hm
  cases m with
  | property q =>
      obtain rfl : q = p := Option.some.inj hproperty
      simpa [Member.texts, Property.texts, and_assoc] using htexts
  | field | method => cases hproperty

/-- A method of a definition, and what it is made of, brings no further texts. -/
theorem oneLines_method {m : Method} (hm : m ∈ d.methods) :
    OneLine m.name ∧ (∀ p ∈ m.parameters, OneLines p.texts) ∧
      (∀ t ∈ m.explicitInterface, OneLines t.texts) ∧ ∀ l ∈ m.location, OneLines l.texts := by
  obtain ⟨n, hn, hmethod⟩ := List.mem_filterMap.1 hm
  have htexts := oneLines_member h hn
  cases n with
  | method n =>
      obtain rfl : n = m := Option.some.inj hmethod
      simp only [Member.texts, Method.texts, oneLines_append, oneLines_cons, oneLines_flatMap,
        Option.mem_toList] at htexts
      exact ⟨htexts.1.1.1.1.1, htexts.1.1.1.2, htexts.1.1.2, htexts.2⟩
  | property | field => cases hmethod

/-! ### The names of a type -/

/-- The parameters of a definition are listed on one line. -/
theorem oneLine_parameterList {between : String} (hbetween : OneLine between) :
    OneLine (Text.join between d.parameterNames) := by
  refine hbetween.join ?_
  simp only [parameterNames, List.forall_mem_map]
  exact fun p hp => (oneLines_typeParameter h hp).1

/-- The parameters of a definition are put in brackets on one line. -/
theorem oneLine_genericArguments : OneLine d.genericArguments := by
  have hcomma : OneLine ", " := .fixed rfl
  rw [genericArguments]
  split
  · exact oneLine_empty
  · simp only [oneLine_append, oneLine_parameterList h hcomma, and_true]
    exact ⟨.fixed rfl, .fixed rfl⟩

/-- A definition is spelled with its parameters on one line in code. -/
theorem oneLine_nameWithGenerics : OneLine d.nameWithGenerics :=
  oneLine_append.2 ⟨oneLine_name h, oneLine_genericArguments h⟩

/-- A definition is spelled with its parameters on one line in documentation comments. -/
theorem oneLine_nameForXml : OneLine d.nameForXml := by
  have hcomma : OneLine ", " := .fixed rfl
  rw [nameForXml]
  split
  · exact oneLine_name h
  · simp only [oneLine_append, oneLine_name h, oneLine_parameterList h hcomma, and_true, true_and]
    exact ⟨.fixed rfl, .fixed rfl⟩

/-- A definition is spelled without names of its parameters on one line. -/
theorem oneLine_openName : OneLine d.openName := by
  have hcommas : OneLine (Text.replicate (d.typeParameters.length - 1) ',') :=
    .replicate _ (by decide)
  rw [openName]
  split
  · exact oneLine_name h
  · simp only [oneLine_append, oneLine_name h, hcommas, and_true, true_and]
    exact ⟨.fixed rfl, .fixed rfl⟩

/-- The constraints of a definition are spelled on one line. -/
theorem oneLine_constraints : OneLine d.constraints := by
  have hcomma : OneLine ", " := .fixed rfl
  refine oneLine_empty.join ?_
  simp only [List.forall_mem_map, List.mem_filter]
  intro p hp
  have hp := oneLines_typeParameter h hp.1
  have hclauses : ∀ s ∈ p.clauses, OneLine s := by
    simp only [TypeParameter.clauses, List.forall_mem_append, List.forall_mem_map]
    refine ⟨⟨⟨?_, ?_⟩, fun t ht => TypeRef.oneLine_display (hp.2 t ht)⟩, ?_⟩
    all_goals
      split
      · simp only [List.mem_singleton, forall_eq]
        exact .fixed rfl
      · simp
  simp only [oneLine_append, hp.1, hcomma.join hclauses, and_true]
  exact ⟨.fixed rfl, .fixed rfl⟩

end TypeDef

/-! ### Compilations -/

namespace Compilation

/-- Whether no string of a type has a line feed. -/
def IsOneLine (c : Compilation) : Prop := ∀ d ∈ c.types, OneLines d.texts

variable {c : Compilation}

/-- The core types have no line feeds, so only the strings of the program matter. -/
theorem isOneLine_of_ofProgram {p : Program} (hc : ofProgram p = .ok c) (h : OneLines p.texts) :
    c.IsOneLine := by
  simp only [Program.texts, oneLines_append, oneLines_flatMap] at h
  have hcore : ∀ d ∈ CoreLibrary.types, ∀ s ∈ d.texts, 10 ∉ s.toByteArray.data.toList := by
    decide +kernel
  exact forall_types_of_ofProgram hc (fun d hd s hs => .of_bytes (hcore d hd s hs)) h.2

/-- A reference that is looked up among some by its name is one of them. -/
theorem oneLines_of_firstNamed? {ts : List TypeRef} (hts : ∀ t ∈ ts, OneLines t.texts)
    {first second : String} {found : TypeRef × Bool}
    (hfound : firstNamed? ts first second = some found) : OneLines found.1.texts := by
  rw [firstNamed?] at hfound
  split at hfound
  · next t ht =>
      obtain rfl := Option.some.inj hfound
      exact hts t (List.mem_of_find?_eq_some ht)
  · obtain ⟨t, ht, rfl⟩ := Option.map_eq_some_iff.1 hfound
    exact hts t (List.mem_of_find?_eq_some ht)

variable (h : c.IsOneLine)

include h

/-- The texts of a definition that a reference is resolved to are texts of the compilation. -/
theorem oneLines_of_resolve? {t : TypeRef} {d : TypeDef} (hd : c.resolve? t = some d) :
    OneLines d.texts :=
  h d (resolve?_eq_some_iff.1 hd).1

/-! ### Supertypes -/

/-- One step up leads to references without line feeds. -/
theorem oneLines_directSupertypes {t : TypeRef} (ht : OneLines t.texts) :
    ∀ u ∈ c.directSupertypes [] t, OneLines u.texts := by
  cases t with
  | named name args =>
      intro u hu
      simp only [directSupertypes] at hu
      cases hd : c.resolve? (.named name args) with
      | none => simp [hd] at hu
      | some d =>
          simp only [hd, List.mem_map, List.mem_append, Option.mem_toList] at hu
          obtain ⟨v, hv, rfl⟩ := hu
          have htexts := oneLines_of_resolve? h hd
          refine TypeRef.oneLines_substitute ?_ _ (TypeRef.oneLines_args ht)
          rcases hv with hv | hv
          · exact TypeDef.oneLines_baseType htexts hv
          · exact TypeDef.oneLines_interface htexts hv
  | array element rank =>
      simp only [TypeRef.texts] at ht
      simp only [directSupertypes, List.forall_mem_cons, TypeRef.texts, oneLines_cons,
        TypeRef.oneLines_textsAll, ht]
      simp only [List.not_mem_nil, false_implies, implies_true, and_true]
      exact ⟨.fixed rfl, .fixed rfl, .fixed rfl⟩
  | parameter | tuple => simp [directSupertypes, constraintsOf]

/-- **A walk over supertypes** lists references without line feeds, whether it ends or not. -/
theorem oneLines_supertypes {t : TypeRef} (ht : OneLines t.texts) :
    ∀ u ∈ c.supertypes t, OneLines u.texts := by
  intro u hu
  have hreached := Worklist.reaches_of_mem_explore hu
  clear hu
  induction hreached with
  | refl => exact ht
  | tail _ hstep ih => exact oneLines_directSupertypes h ih _ hstep

/-- The key and the value of a dictionary. -/
theorem oneLines_dictionaryShape {t : TypeRef} (ht : OneLines t.texts) {shape : DictionaryShape}
    (hshape : c.dictionaryShape? t = some shape) :
    OneLines shape.key.texts ∧ OneLines shape.value.texts := by
  rw [dictionaryShape?] at hshape
  split at hshape
  · next found isReadOnly hfound =>
      have hargs := TypeRef.oneLines_args
        (oneLines_of_firstNamed? (oneLines_supertypes h ht) hfound)
      split at hshape
      · next key value hpair =>
          obtain rfl := Option.some.inj hshape
          simpa [hpair] using hargs
      · cases hshape
  · cases hshape

/-- The element of a collection. -/
theorem oneLines_collectionShape {t : TypeRef} (ht : OneLines t.texts) {shape : CollectionShape}
    (hshape : c.collectionShape? t = some shape) : OneLines shape.element.texts := by
  rw [collectionShape?] at hshape
  split at hshape
  · next found isReadOnly hfound =>
      obtain ⟨element, helement, rfl⟩ := Option.map_eq_some_iff.1 hshape
      exact TypeRef.oneLines_args (oneLines_of_firstNamed? (oneLines_supertypes h ht) hfound)
        element (List.mem_of_mem_head? helement)
  · cases hshape

/-! ### Members that speak of others -/

/-- The custom hash of a member is named on one line. -/
theorem oneLine_customHash {d : TypeDef} (hd : d ∈ c.types) {member : String} {type : TypeRef}
    {found : CustomMember} (hfound : d.customHash? member type = some found) :
    OneLine found.name := by
  obtain ⟨m, hm, rfl⟩ := Option.map_eq_some_iff.1 hfound
  exact (TypeDef.oneLines_method (h d hd) (List.mem_of_find?_eq_some hm)).1

/-- The custom comparer of a member is named on one line, and told where it is. -/
theorem oneLine_customComparer {d : TypeDef} (hd : d ∈ c.types) {member : String}
    (hmember : OneLine member) {found : CustomMember}
    (hfound : c.customComparer? d member = some found) :
    OneLine found.name ∧ ∀ l ∈ found.location, OneLines l.texts := by
  have hname : OneLine (member ++ "_CustomComparer") := oneLine_append.2 ⟨hmember, .fixed rfl⟩
  obtain ⟨m, hm, hfound⟩ := List.exists_of_findSome?_eq_some hfound
  have htexts := TypeDef.oneLines_member (h d hd) hm
  cases m with
  | property p =>
      simp only at hfound
      split at hfound
      · obtain rfl := Option.some.inj hfound
        simp only [Member.texts, Property.texts, oneLines_append, oneLines_flatMap,
          Option.mem_toList] at htexts
        exact ⟨hname, htexts.2⟩
      · cases hfound
  | field f =>
      simp only at hfound
      split at hfound
      · obtain rfl := Option.some.inj hfound
        simp only [Member.texts, Field.texts, oneLines_append, oneLines_flatMap,
          Option.mem_toList] at htexts
        exact ⟨hname, htexts.2⟩
      · cases hfound
  | method m => cases hfound

end Compilation

end Companion
