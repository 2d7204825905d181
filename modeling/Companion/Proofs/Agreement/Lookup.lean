import Companion.Proofs.BaseChain
import Companion.Proofs.References
import Companion.Config

/-!
# Compilations That Agree

What generators ask a compilation for, they ask by name: the definition of a reference, of its base,
of an interface. So two compilations give the same answers about a type as long as they hold the
same definitions under every name that can be asked for. These are few: the names in the references
of the types at hand, and some that the generators know themselves.

`Compilation.Agrees` says this for a set of known names. The second compilation may hold further
types, and hold its types in another order. Whatever is put together from references with known
names only, by substitution too, has known names only; so no walk along bases, interfaces or
constraints leaves the known names.

## Main results

* `TypeRef.NamesOnly.substitute`: substitution adds no names.
* `Compilation.Agrees.resolve?_eq`: a reference resolves alike.
* `Compilation.Agrees.baseChain_eq`: a type has the same chain of bases, although the bound on its
  length may differ.
-/

namespace Companion

variable {known : Set String}

/-! ### Names in references -/

namespace TypeRef

/-- Whether all definitions that a reference names, at any depth, have names of a set. -/
def NamesOnly (known : Set String) (t : TypeRef) : Prop :=
  ∀ u ∈ t.within, ∀ name, u.definitionName? = some name → name ∈ known

/-- A named reference has known names only if its own is known and its arguments have known names
only. -/
@[simp] theorem namesOnly_named {name : String} {args : List TypeRef} :
    (named name args).NamesOnly known ↔ name ∈ known ∧ ∀ arg ∈ args, arg.NamesOnly known := by
  simp only [NamesOnly, within, List.forall_mem_cons, definitionName?, Option.some.injEq,
    mem_withinAll]
  grind

/-- An array has known names only if its elements do. -/
@[simp] theorem namesOnly_array {element : TypeRef} {rank : UInt8} :
    (array element rank).NamesOnly known ↔ element.NamesOnly known := by
  simp [NamesOnly, within, definitionName?]

/-- A type parameter names no definition. -/
@[simp] theorem namesOnly_parameter {name : String} : (parameter name).NamesOnly known := by
  simp [NamesOnly, within, definitionName?]

/-- A tuple has known names only if its elements do. -/
@[simp] theorem namesOnly_tuple {elements : List TypeRef} :
    (tuple elements).NamesOnly known ↔ ∀ t ∈ elements, t.NamesOnly known := by
  simp only [NamesOnly, within, List.forall_mem_cons, definitionName?, mem_withinAll]
  grind

namespace NamesOnly

variable {t u : TypeRef}

/-- The definition that a reference names is known. -/
theorem definitionName (h : t.NamesOnly known) {name : String}
    (hname : t.definitionName? = some name) : name ∈ known :=
  h t t.self_mem_within name hname

/-- The arguments of a reference have known names only. -/
theorem args (h : t.NamesOnly known) : ∀ arg ∈ t.args, arg.NamesOnly known := by
  cases t with
  | named name args => exact (namesOnly_named.1 h).2
  | array | parameter | tuple => simp [TypeRef.args]

/-- What stands within a reference has known names only. -/
theorem within (h : t.NamesOnly known) (hu : u ∈ t.within) : u.NamesOnly known :=
  fun v hv => h v (within_trans hv t hu)

/-- More names may be known. -/
theorem mono {known' : Set String} (h : t.NamesOnly known) (hsub : known ⊆ known') :
    t.NamesOnly known' :=
  fun u hu name hname => hsub (h u hu name hname)

mutual

/-- Putting references with known names for parameters adds no names. -/
theorem bind {σ : String → Option TypeRef}
    (hσ : ∀ name u, σ name = some u → u.NamesOnly known) :
    ∀ t : TypeRef, t.NamesOnly known → (t.bind σ).NamesOnly known
  | .named name args, h => by
      rw [TypeRef.bind, namesOnly_named]
      exact ⟨(namesOnly_named.1 h).1, bindAll hσ args (namesOnly_named.1 h).2⟩
  | .array element _, h => by
      rw [TypeRef.bind, namesOnly_array]
      exact bind hσ element (namesOnly_array.1 h)
  | .parameter name, h => by
      rw [TypeRef.bind]
      cases hfound : σ name with
      | none => exact h
      | some u => exact hσ name u hfound
  | .tuple elements, h => by
      rw [TypeRef.bind, namesOnly_tuple]
      exact bindAll hσ elements (namesOnly_tuple.1 h)

/-- The same for a list of references. The induction is on the list. -/
theorem bindAll {σ : String → Option TypeRef}
    (hσ : ∀ name u, σ name = some u → u.NamesOnly known) :
    ∀ ts : List TypeRef, (∀ t ∈ ts, t.NamesOnly known) →
      ∀ t ∈ TypeRef.bindAll σ ts, t.NamesOnly known
  | [], _ => by simp [TypeRef.bindAll]
  | t :: ts, h => by
      rw [TypeRef.bindAll, List.forall_mem_cons]
      exact ⟨bind hσ t (h t List.mem_cons_self),
        bindAll hσ ts fun u hu => h u (List.mem_cons_of_mem _ hu)⟩

end

/-- **Substitution adds no names.** -/
theorem substitute (h : t.NamesOnly known) {params : List TypeParameter} {args : List TypeRef}
    (hargs : ∀ arg ∈ args, arg.NamesOnly known) : (t.substitute params args).NamesOnly known := by
  refine bind (fun name u hu => hargs u ?_) t h
  obtain ⟨⟨p, arg⟩, hfound, rfl⟩ := Option.map_eq_some_iff.1 hu
  exact (List.of_mem_zip (List.mem_of_find?_eq_some hfound)).2

end NamesOnly

end TypeRef

/-! ### Names that are asked for -/

/-- The references of a type that generators look up. -/
def TypeDef.references (d : TypeDef) : List TypeRef :=
  d.baseType.toList ++ d.interfaces ++ d.typeParameters.flatMap (·.constraints) ++
    d.properties.map (·.type) ++ d.fields.map (·.type)

/-- The names that generators look up whether or not a reference gives them, besides those of the
types they rely on: the libraries they support, and what every array is. -/
def Compilation.probedNames : List String :=
  [Vocabulary.keyEquatable, Vocabulary.keyEquatableGeneric, Vocabulary.pureAttribute,
    Vocabulary.option, Vocabulary.optionGeneric, Vocabulary.jsonConvert,
    "System.Array", "System.Collections.Generic.IList`1",
    "System.Collections.Generic.IReadOnlyList`1"]

namespace Compilation

/-- Whether two compilations hold the same definitions under the known names, and these are enough
to ask about all types of the first one. -/
structure Agrees (known : Set String) (c c' : Compilation) : Prop where
  assembly_eq : c'.assembly = c.assembly
  type?_eq : ∀ name ∈ known, c'.type? name = c.type? name
  fullName_mem : ∀ d ∈ c.types, d.fullName ∈ known
  references : ∀ d ∈ c.types, ∀ t ∈ d.references, t.NamesOnly known
  wellKnown : ∀ name ∈ wellKnownTypes, name ∈ known
  probed : ∀ name ∈ probedNames, name ∈ known

namespace Agrees

variable {c c' : Compilation} (h : c.Agrees known c') {d : TypeDef} {t : TypeRef}

include h

/-! ### Types -/

/-- The types of the first compilation belong to the second. -/
theorem mem_types (hd : d ∈ c.types) : d ∈ c'.types := by
  have hfound : c'.type? d.fullName = some d := by
    rw [h.type?_eq _ (h.fullName_mem d hd)]
    exact type?_eq_some_iff.2 ⟨hd, rfl⟩
  exact (type?_eq_some_iff.1 hfound).1

/-- A known name is that of a type in both or in neither. -/
theorem contains_eq {name : String} (hname : name ∈ known) :
    c'.contains name = c.contains name := by
  rw [contains_eq_isSome_type?, contains_eq_isSome_type?, h.type?_eq name hname]

/-- **A reference resolves alike.** -/
theorem resolve?_eq (ht : t.NamesOnly known) : c'.resolve? t = c.resolve? t := by
  unfold resolve?
  cases hname : t.definitionName? with
  | none => rfl
  | some name => exact h.type?_eq name (ht.definitionName hname)

/-- A reference is to the same special type. -/
theorem special?_eq (ht : t.NamesOnly known) : c'.special? t = c.special? t := by
  rw [special?, special?, h.resolve?_eq ht]

/-- A reference is to an enumeration in both or in neither. -/
theorem isEnum_eq (ht : t.NamesOnly known) : c'.isEnum t = c.isEnum t := by
  rw [isEnum, isEnum, h.resolve?_eq ht]

/-- A reference is to a reference type in both or in neither. -/
theorem isReferenceType_eq (ht : t.NamesOnly known) :
    c'.isReferenceType t = c.isReferenceType t := by
  cases t with
  | named name args => simp only [isReferenceType, h.resolve?_eq ht]
  | array | parameter | tuple => simp only [isReferenceType]

/-! ### References of a type -/

/-- The base type of a type has known names only. -/
theorem namesOnly_baseType (hd : d ∈ c.types) {base : TypeRef} (hbase : d.baseType = some base) :
    base.NamesOnly known :=
  h.references d hd base (by simp [TypeDef.references, hbase])

/-- The interfaces of a type have known names only. -/
theorem namesOnly_interface (hd : d ∈ c.types) (ht : t ∈ d.interfaces) : t.NamesOnly known :=
  h.references d hd t (by simp [TypeDef.references, ht])

/-- The constraints of a type have known names only. -/
theorem namesOnly_constraint (hd : d ∈ c.types)
    (ht : t ∈ d.typeParameters.flatMap (·.constraints)) : t.NamesOnly known :=
  h.references d hd t (by simp only [TypeDef.references, List.mem_append, ht, or_true, true_or])

/-- The type of a property has known names only. -/
theorem namesOnly_property (hd : d ∈ c.types) {p : Property} (hp : p ∈ d.properties) :
    p.type.NamesOnly known :=
  h.references d hd p.type (by
    simp only [TypeDef.references, List.mem_append, List.mem_map_of_mem hp, or_true, true_or])

/-- The type of a field has known names only. -/
theorem namesOnly_field (hd : d ∈ c.types) {f : Field} (hf : f ∈ d.fields) :
    f.type.NamesOnly known :=
  h.references d hd f.type (by
    simp only [TypeDef.references, List.mem_append, List.mem_map_of_mem hf, or_true])

/-! ### Bases -/

/-- A type has the same base type. -/
theorem baseType?_eq (hd : d ∈ c.types) : c'.baseType? d = c.baseType? d := by
  unfold baseType?
  cases hbase : d.baseType with
  | none => rfl
  | some base => exact h.resolve?_eq (h.namesOnly_baseType hd hbase)

/-- A walk from base to base is the same in both compilations. -/
theorem baseWalk {visited : List String} {next : Option TypeDef} {chain : List TypeDef}
    (hnext : ∀ b ∈ next, b ∈ c.types) (hwalk : c.BaseWalk visited next chain) :
    c'.BaseWalk visited next chain := by
  induction hwalk with
  | root => exact .root
  | met hmet => exact .met hmet
  | step hfresh _ ih =>
      have hrest := ih fun e he => Derives.mem_types he
      rw [← h.baseType?_eq (hnext _ rfl)] at hrest
      exact .step hfresh hrest

omit h in
/-- The bases of a type belong to its compilation. -/
theorem mem_types_of_mem_baseChain (hd : d ∈ c.types) {a : TypeDef} (ha : a ∈ c.baseChain d) :
    a ∈ c.types :=
  Inherits.mem_types hd ((mem_baseChain_iff hd).1 (List.mem_cons_of_mem _ ha))

/-- **A type has the same chain of bases.** -/
theorem baseChain_eq (hd : d ∈ c.types) : c'.baseChain d = c.baseChain d := by
  have hwalk := h.baseWalk (fun e he => Derives.mem_types he) (baseWalk_baseChain hd)
  rw [baseChain, h.baseType?_eq hd]
  exact hwalk.baseChainFrom_eq (length_le_of_nodup (List.Nodup.of_map _ hwalk.nodup.1)
    fun a ha => h.mem_types (mem_types_of_mem_baseChain hd ha))

/-- The same attribute is found on a type or its bases. -/
theorem findFlattened?_eq (hd : d ∈ c.types) (className : String) :
    c'.findFlattened? d className = c.findFlattened? d className := by
  rw [findFlattened?, findFlattened?, h.baseChain_eq hd]

/-- An attribute is found, on a type or its bases, in both or in neither. -/
theorem hasFlattened_eq (hd : d ∈ c.types) (className : String) :
    c'.hasFlattened d className = c.hasFlattened d className := by
  rw [hasFlattened, hasFlattened, h.findFlattened?_eq hd]

/-- A method is overridden, by a type or its bases, in both or in neither. -/
theorem overridesMethod_eq (hd : d ∈ c.types) (name : String) (arity : Nat) :
    c'.overridesMethod d name arity = c.overridesMethod d name arity := by
  rw [overridesMethod, overridesMethod, h.baseChain_eq hd]

/-! ### The configuration -/

/-- Either compilation is refused for the same well-known type, or none is. -/
theorem requireWellKnownTypes_eq : c'.requireWellKnownTypes = c.requireWellKnownTypes := by
  have hfound : (wellKnownTypes.find? fun name => !c'.contains name) =
      wellKnownTypes.find? fun name => !c.contains name := by
    rw [← List.head?_filter, ← List.head?_filter, List.filter_congr fun name hname => ?_]
    rw [h.contains_eq (h.wellKnown name hname)]
  rw [requireWellKnownTypes, requireWellKnownTypes, hfound]

/-- The same libraries are found. -/
theorem detect_eq : Capabilities.detect c' = Capabilities.detect c := by
  have hprobed : ∀ name ∈ probedNames, c'.contains name = c.contains name :=
    fun name hname => h.contains_eq (h.probed name hname)
  rw [Capabilities.detect, Capabilities.detect, hprobed, hprobed, hprobed, hprobed, hprobed,
    hprobed] <;> simp [probedNames]

/-- The directives resolve to the same configuration, or to the same problem. -/
theorem resolve_eq (engine : PatternEngine) :
    Config.resolve c' engine = Config.resolve c engine := by
  rw [Config.resolve, Config.resolve, h.assembly_eq, h.detect_eq]

/-- An immutable type gets equality in both or in neither. -/
theorem generatesEquality_eq (hd : d ∈ c.types) (config : Config) :
    config.generatesEquality c' d = config.generatesEquality c d := by
  rw [Config.generatesEquality, Config.generatesEquality, h.findFlattened?_eq hd]

end Agrees

end Compilation

end Companion
