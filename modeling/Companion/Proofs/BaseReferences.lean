import Companion.Proofs.ArgumentFlow
import Companion.Proofs.BaseOrder

/-!
# References to Bases

A type knows its bases in two ways: as a chain of definitions, and as references that name them with
the arguments that the type gives them. Both walks start from the declared base type and stop before
a name they have met. One reads each base type as it is declared, the other with arguments put in
for parameters; this does not change which definition is named, so the walks go side by side. The
references go one step further where the last base type is not known.

The arguments put in are those of the level below, which are put in already. So no parameter of a
base is left over, provided that each base reference has an argument for each parameter.

## Main results

* `TypeRef.mem_parameters_bind`: the parameters that occur where arguments are put in.
* `BaseWalk.map_resolve?_baseRefsFrom`: the references and the definitions go side by side.
* `FitsIn.of_mem_baseRefsFrom`: no reference mentions a parameter of a base.
* `baseRefs_follow_baseChain`: both together, for a type.
-/

namespace Companion

namespace TypeRef

/-! ### The parameters within a reference -/

mutual

/-- The names of the type parameters that occur in a reference. -/
def parameters : TypeRef → List String
  | named _ args => parametersAll args
  | array element _ => element.parameters
  | parameter name => [name]
  | tuple elements => parametersAll elements

/-- The names of the type parameters that occur in references. -/
def parametersAll : List TypeRef → List String
  | [] => []
  | t :: ts => t.parameters ++ parametersAll ts

end

@[simp] theorem mem_parametersAll {p : String} {ts : List TypeRef} :
    p ∈ parametersAll ts ↔ ∃ t ∈ ts, p ∈ t.parameters := by
  induction ts with
  | nil => simp [parametersAll]
  | cons t ts ih => simp [parametersAll, ih]

/-- The parameters of an argument occur in the reference. -/
theorem mem_parameters_of_mem_args {t arg : TypeRef} (harg : arg ∈ t.args) {p : String}
    (hp : p ∈ arg.parameters) : p ∈ t.parameters := by
  cases t with
  | named name args => exact mem_parametersAll.2 ⟨arg, harg, hp⟩
  | array | parameter | tuple => cases harg

mutual

/-- **The parameters that occur where references are put for parameters** are those of the
references put in, and those for which none is given. -/
theorem mem_parameters_bind {σ : String → Option TypeRef} {p : String} : ∀ t : TypeRef,
    p ∈ (t.bind σ).parameters ↔
      ∃ q ∈ t.parameters, p ∈ ((σ q).getD (parameter q)).parameters
  | named _ args => by
      simp only [bind, parameters]
      exact mem_parametersAll_bindAll args
  | array element _ => by
      simp only [bind, parameters]
      exact mem_parameters_bind element
  | parameter name => by simp [bind, parameters]
  | tuple elements => by
      simp only [bind, parameters]
      exact mem_parametersAll_bindAll elements

theorem mem_parametersAll_bindAll {σ : String → Option TypeRef} {p : String} :
    ∀ ts : List TypeRef, p ∈ parametersAll (bindAll σ ts) ↔
      ∃ q ∈ parametersAll ts, p ∈ ((σ q).getD (parameter q)).parameters
  | [] => by simp [bindAll, parametersAll]
  | t :: ts => by
      simp only [bindAll, parametersAll, List.mem_append, mem_parameters_bind t,
        mem_parametersAll_bindAll ts, or_and_right, exists_or]

end

/-- With an argument for each parameter, what occurs after putting the arguments in occurs in one of
them. -/
theorem exists_of_mem_parameters_substitute {t : TypeRef} {params : List TypeParameter}
    {args : List TypeRef} (hlength : args.length = params.length)
    (ht : ∀ q ∈ t.parameters, q ∈ params.map (·.name)) {p : String}
    (hp : p ∈ (t.substitute params args).parameters) : ∃ arg ∈ args, p ∈ arg.parameters := by
  obtain ⟨q, hq, hp⟩ := (mem_parameters_bind t).1 hp
  obtain ⟨i, hi⟩ : ∃ i, params.findIdx? (·.name == q) = some i := by
    obtain ⟨param, hparam, hname⟩ := List.mem_map.1 (ht q hq)
    rw [← Option.isSome_iff_exists, List.findIdx?_isSome, List.any_eq_true]
    exact ⟨param, hparam, beq_iff_eq.2 hname⟩
  have hbound : i < args.length := by
    rw [hlength]
    exact (List.findIdx?_eq_some_iff_getElem.1 hi).1
  rw [argumentOf_eq, hi, Option.bind_some, List.getElem?_eq_getElem hbound, Option.getD_some] at hp
  exact ⟨args[i], List.getElem_mem hbound, hp⟩

end TypeRef

namespace Compilation

variable {c : Compilation} {d : TypeDef}

/-- Whether all declared base types are named references. -/
def NamesBases (c : Compilation) : Prop :=
  ∀ d ∈ c.types, ∀ base ∈ d.baseType, base.definitionName?.isSome = true

instance (c : Compilation) : Decidable c.NamesBases :=
  inferInstanceAs (Decidable
    (∀ d ∈ c.types, ∀ base ∈ d.baseType, base.definitionName?.isSome = true))

/-- Putting arguments into a named reference keeps the name, and the number of its arguments. -/
theorem NamesBases.substitute (h : c.NamesBases) (hd : d ∈ c.types) {base : TypeRef}
    (hbase : d.baseType = some base) (params : List TypeParameter) (args : List TypeRef) :
    (base.substitute params args).definitionName? = base.definitionName? ∧
      (base.substitute params args).args.length = base.args.length := by
  have hnamed := h d hd base hbase
  cases base with
  | named name as =>
      simp [TypeRef.substitute, TypeRef.bind, TypeRef.bindAll_eq_map, TypeRef.definitionName?,
        TypeRef.args]
  | array | parameter | tuple => cases hnamed

/-! ### References beside definitions -/

/-- Whether a type declares a base type that is not known. -/
def hasUnknownBase (c : Compilation) (d : TypeDef) : Bool :=
  d.baseType.isSome && (c.baseType? d).isNone

/-- Whether a reference, if there is one, names the base type that a type declares. -/
def NamesBaseOf (d : TypeDef) (base : Option TypeRef) : Prop :=
  base.map (·.definitionName?) = d.baseType.map (·.definitionName?)

/-- A reference that names the base type of a type is there if the type declares one. -/
theorem NamesBaseOf.isSome_eq {base : Option TypeRef} (h : NamesBaseOf d base) :
    base.isSome = d.baseType.isSome := by
  rw [← Option.isSome_map (f := (·.definitionName?)), h, Option.isSome_map]

/-- A reference that names the base type of a type resolves to the definition of the base type. -/
theorem NamesBaseOf.bind_resolve?_eq {base : Option TypeRef} (h : NamesBaseOf d base) :
    base.bind c.resolve? = c.baseType? d := by
  have hresolve : ∀ t : Option TypeRef,
      t.bind c.resolve? = (t.map (·.definitionName?)).bind (·.bind c.type?) := by
    intro t
    cases t <;> rfl
  rw [baseType?, hresolve, hresolve, h]

/-- **The references go beside the walk** from base to base: they resolve to what the walk lists.
One more follows where the last type declares a base type that is not known. -/
theorem BaseWalk.map_resolve?_baseRefsFrom (hnamed : c.NamesBases) {visited : List String}
    {next : Option TypeDef} {chain : List TypeDef} (h : c.BaseWalk visited next chain)
    (hnext : c.baseType? d = next) {base : Option TypeRef} (hbase : NamesBaseOf d base) {steps : ℕ}
    (hsteps : chain.length < steps) :
    (c.baseRefsFrom steps visited base).map c.resolve? =
      chain.map some ++
        if c.hasUnknownBase (chain.getLast?.getD d) then [none] else [] := by
  obtain ⟨steps, rfl⟩ : ∃ k, steps = k + 1 := ⟨steps - 1, by omega⟩
  induction h generalizing d base steps with
  | root =>
      have hdeclared := hbase.isSome_eq
      cases base with
      | none => simp [baseRefsFrom, hasUnknownBase, ← hdeclared]
      | some t =>
          have ht : c.resolve? t = none := hbase.bind_resolve?_eq.trans hnext
          simp [baseRefsFrom, hasUnknownBase, ← hdeclared, ht, hnext]
  | met hmet =>
      obtain ⟨t, rfl, ht⟩ := Option.bind_eq_some_iff.1 (hbase.bind_resolve?_eq.trans hnext)
      simp [baseRefsFrom, hasUnknownBase, ht, hmet, hnext]
  | @step visited b chain hfresh _ ih =>
      obtain ⟨t, rfl, ht⟩ := Option.bind_eq_some_iff.1 (hbase.bind_resolve?_eq.trans hnext)
      have hnext' : NamesBaseOf b (b.baseType.map (·.substitute b.typeParameters t.args)) := by
        rw [NamesBaseOf, Option.map_map]
        exact Option.map_congr fun base hbase =>
          (hnamed.substitute (Derives.mem_types hnext) hbase _ _).1
      rw [List.length_cons] at hsteps
      obtain ⟨steps, rfl⟩ : ∃ k, steps = k + 1 := ⟨steps - 1, by omega⟩
      have hrest := ih rfl hnext' steps (by omega)
      rw [baseRefsFrom, ht]
      simp only [if_neg hfresh, List.map_cons, ht, hrest, List.cons_append, List.getLast?_cons,
        Option.getD_some]

/-! ### Parameters of the bases -/

/-- Whether a base reference has an argument for each parameter of its definition and mentions only
the parameters given. -/
def FitsIn (c : Compilation) (names : List String) (base : TypeRef) : Prop :=
  (∀ b ∈ c.resolve? base, base.args.length = b.typeParameters.length) ∧
    ∀ p ∈ base.parameters, p ∈ names

instance (c : Compilation) (names : List String) (base : TypeRef) :
    Decidable (c.FitsIn names base) :=
  inferInstanceAs (Decidable ((∀ b ∈ c.resolve? base, base.args.length = b.typeParameters.length) ∧
    ∀ p ∈ base.parameters, p ∈ names))

/-- Whether all declared base references fit in where they are declared. -/
def BasesFit (c : Compilation) : Prop :=
  ∀ d ∈ c.types, ∀ base ∈ d.baseType, c.FitsIn d.parameterNames base

instance (c : Compilation) : Decidable c.BasesFit :=
  inferInstanceAs (Decidable (∀ d ∈ c.types, ∀ base ∈ d.baseType, c.FitsIn d.parameterNames base))

/-- Where a reference fits in, so does the base reference of its definition with the arguments put
in. -/
theorem FitsIn.substitute (hnamed : c.NamesBases) (hfit : c.BasesFit) {names : List String}
    {t : TypeRef} (ht : c.FitsIn names t) (hd : c.resolve? t = some d) {base : TypeRef}
    (hbase : d.baseType = some base) :
    c.FitsIn names (base.substitute d.typeParameters t.args) := by
  have htypes : d ∈ c.types := (resolve?_eq_some_iff.1 hd).1
  obtain ⟨hlength, hparameters⟩ := hfit d htypes base hbase
  obtain ⟨hname, hargs⟩ := hnamed.substitute htypes hbase d.typeParameters t.args
  constructor
  · rw [resolve?, hname, hargs]
    exact hlength
  · intro p hp
    obtain ⟨arg, harg, hp⟩ :=
      TypeRef.exists_of_mem_parameters_substitute (ht.1 d hd) hparameters hp
    exact ht.2 p (TypeRef.mem_parameters_of_mem_args harg hp)

/-- **No reference mentions a parameter of a base**: all fit in where the first one does. -/
theorem FitsIn.of_mem_baseRefsFrom (hnamed : c.NamesBases) (hfit : c.BasesFit)
    {names : List String} {steps : ℕ} {visited : List String} {base : Option TypeRef}
    (hbase : ∀ t ∈ base, c.FitsIn names t) :
    ∀ t ∈ c.baseRefsFrom steps visited base, c.FitsIn names t := by
  induction steps generalizing visited base with
  | zero => cases base <;> simp [baseRefsFrom]
  | succ steps ih =>
      cases base with
      | none => simp [baseRefsFrom]
      | some t =>
          have ht : c.FitsIn names t := hbase t rfl
          rw [baseRefsFrom]
          split
          · simpa using ht
          · next d hd =>
              split
              · simp
              · refine List.forall_mem_cons.2 ⟨ht, ih ?_⟩
                rintro u hu
                obtain ⟨declared, hdeclared, rfl⟩ := Option.map_eq_some_iff.1 hu
                exact ht.substitute hnamed hfit hd hdeclared

/-- **The references to the bases of a type follow its chain**, in a compilation whose base types
are all named references: they resolve to the definitions of the chain in order, and one more that
resolves to nothing follows if the last of these definitions declares a base type that is not known.
If each base reference has an argument for each parameter of its definition and mentions only
parameters of the type that declares it, all parameters in the references are those of the type. -/
theorem baseRefs_follow_baseChain (hnamed : c.NamesBases) (hd : d ∈ c.types) :
    (c.baseRefs d).map c.resolve? =
        (c.baseChain d).map some ++
          (if c.hasUnknownBase ((c.baseChain d).getLast?.getD d) then [none] else []) ∧
      (c.BasesFit → ∀ t ∈ c.baseRefs d, ∀ p ∈ t.parameters, p ∈ d.parameterNames) := by
  constructor
  · refine (baseWalk_baseChain hd).map_resolve?_baseRefsFrom hnamed rfl rfl ?_
    exact Nat.lt_succ_of_le (length_baseChain_le hd)
  · intro hfit t ht
    exact (FitsIn.of_mem_baseRefsFrom hnamed hfit (hfit d hd) t ht).2

/-- A generic class, which derives from a construction of a generic class. -/
def genericLeaf : TypeDef :=
  derivedClass "Leaf" ["T"] (.named "Lib.Middle`1" [.array (.parameter "T") 1])

/-- Generic classes above one another; nothing is known of the last base type. -/
def genericProgram : Program :=
  .onSmallCore [genericLeaf,
    derivedClass "Middle" ["U"]
      (.named "Lib.Root`2" [.named "System.Int32" [], .parameter "U"]),
    derivedClass "Root" ["V", "T"] (.named "Missing.Base`1" [.parameter "T"])]

/-- References along a chain whose end is not known, in terms of the parameter of the class
below. -/
theorem baseRefs_of_genericLeaf :
    ∃ c, ofProgram genericProgram = .ok c ∧ c.NamesBases ∧ genericLeaf ∈ c.types ∧ c.BasesFit ∧
      c.baseRefs genericLeaf = [.named "Lib.Middle`1" [.array (.parameter "T") 1],
        .named "Lib.Root`2" [.named "System.Int32" [], .array (.parameter "T") 1],
        .named "Missing.Base`1" [.array (.parameter "T") 1]] ∧
      (c.baseRefs genericLeaf).map c.resolve? = (c.baseChain genericLeaf).map some ++ [none] ∧
      ∀ t ∈ c.baseRefs genericLeaf, ∀ p ∈ t.parameters, p ∈ genericLeaf.parameterNames := by
  obtain ⟨c, -, -, hc, -, -, hcheck⟩ := Program.exists_run genericProgram
    (fun c _ _ => decide (c.NamesBases ∧ c.BasesFit ∧
      c.hasUnknownBase ((c.baseChain genericLeaf).getLast?.getD genericLeaf) = true ∧
      c.baseRefs genericLeaf = [.named "Lib.Middle`1" [.array (.parameter "T") 1],
        .named "Lib.Root`2" [.named "System.Int32" [], .array (.parameter "T") 1],
        .named "Missing.Base`1" [.array (.parameter "T") 1]]))
    (by decide +kernel)
  obtain ⟨hnamed, hfit, hunknown, hrefs⟩ := of_decide_eq_true hcheck
  obtain ⟨c', hc', htypes⟩ := exists_ofProgram_eq_ok (p := genericProgram) (by decide +kernel)
  obtain rfl : c = c' := Except.ok.inj (hc.symm.trans hc')
  have hleaf : genericLeaf ∈ c.types := by
    rw [htypes]
    exact List.mem_append_right _ (List.mem_append_right _ List.mem_cons_self)
  obtain ⟨hresolved, hparameters⟩ := baseRefs_follow_baseChain hnamed hleaf
  rw [hunknown, if_pos rfl] at hresolved
  exact ⟨c, hc, hnamed, hleaf, hfit, hrefs, hresolved, hparameters hfit⟩

end Compilation

end Companion
