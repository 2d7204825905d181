import Companion.Compilation.Inheritance
import Companion.Proofs.Lookup
import Mathlib.Data.List.Perm.Subperm
import Mathlib.Logic.Relation

/-!
# Base Chains as Reachability

A type derives from the definition that its base reference resolves to, if there is one. The chain
of bases follows this step with a record of the names it has met, so that it ends on base lists
that run in a circle too; what it lists is everything the step leads to. Questions about bases at
any distance can so be asked of the relation, and no circle needs to be excluded.

`BaseWalk` is the walk without its count of steps. Everything about the chain is proved by induction
on it, once it is known to end.

## Main results

* `baseWalk_baseChainFrom`: the count of steps never cuts a chain short, since the types met are
  distinct types of the compilation.
* `mem_baseChain_iff`: a type and its chain are what the base step reaches from it.
* `overridesMethod_iff`: a method is overridden for a type when a type it inherits from declares
  the override.
-/

namespace Companion

/-- Whether a type declares an override of a method of the name with so many parameters. -/
def TypeDef.declaresOverride (d : TypeDef) (name : String) (arity : Nat) : Bool :=
  d.methods.any fun m => m.isOverride && m.name == name && m.parameters.length == arity

namespace Compilation

/-- The base step: the second type is the definition of the base type of the first. -/
def Derives (c : Compilation) (d a : TypeDef) : Prop := c.baseType? d = some a

/-- Everything that a type has by inheritance: the type itself and its bases at any distance. -/
abbrev Inherits (c : Compilation) : TypeDef → TypeDef → Prop := Relation.ReflTransGen c.Derives

variable {c : Compilation}

/-- A type derives from one definition at most. -/
theorem Derives.unique {d a b : TypeDef} (ha : c.Derives d a) (hb : c.Derives d b) : a = b :=
  Option.some.inj (Eq.trans (Eq.symm ha) hb)

/-- The definition of a base type is one of the types of the compilation. -/
theorem Derives.mem_types {d a : TypeDef} (h : c.Derives d a) : a ∈ c.types := by
  obtain ⟨base, -, hbase⟩ := Option.bind_eq_some_iff.1 h
  exact (resolve?_eq_some_iff.1 hbase).1

/-- What a type of a compilation inherits from is in the compilation too. -/
theorem Inherits.mem_types {d a : TypeDef} (hd : d ∈ c.types) (h : c.Inherits d a) :
    a ∈ c.types := by
  induction h with
  | refl => exact hd
  | tail _ hstep _ => exact hstep.mem_types

/-- A reference is to a root type exactly when its definition is one. -/
theorem isRoot_iff {base : TypeRef} {b : TypeDef}
    (h : c.resolve? base = some b) : base.isRoot = true ↔ b.fullName ∈ rootTypes := by
  have hname := (resolve?_eq_some_iff.1 h).2
  simp only [TypeRef.isRoot, TypeRef.isNamed, hname, List.any_eq_true, beq_iff_eq,
    Option.some.injEq]
  exact ⟨fun ⟨root, hroot, heq⟩ => heq ▸ hroot, fun hroot => ⟨_, hroot, rfl⟩⟩

/-! ### Following the chain -/

/-- Distinct types of a compilation are no more than all its types. -/
theorem length_le_of_nodup {path : List TypeDef} (hnodup : path.Nodup)
    (hpath : ∀ x ∈ path, x ∈ c.types) : path.length ≤ c.types.length := by
  have hsub : path.Subperm c.types := hnodup.subperm hpath
  simpa [types] using hsub.length_le

/-- **The walk from base to base**, by the rules it goes on and ends with: given the names visited
and the next base, it lists some definitions. -/
inductive BaseWalk (c : Compilation) : List String → Option TypeDef → List TypeDef → Prop
  /-- There is no base, or none that is known. -/
  | root {visited : List String} : BaseWalk c visited none []
  /-- The base has been visited. -/
  | met {visited : List String} {b : TypeDef} (h : b.fullName ∈ visited) :
      BaseWalk c visited (some b) []
  /-- The base is new, and the walk goes on with its own base. -/
  | step {visited : List String} {b : TypeDef} {chain : List TypeDef} (h : b.fullName ∉ visited)
      (rest : BaseWalk c (b.fullName :: visited) (c.baseType? b) chain) :
      BaseWalk c visited (some b) (b :: chain)

namespace BaseWalk

variable {visited : List String} {next : Option TypeDef} {chain : List TypeDef}

/-- A count of steps that the walk does not exceed makes no difference. -/
theorem baseChainFrom_eq (h : c.BaseWalk visited next chain) {steps : ℕ}
    (hsteps : chain.length ≤ steps) : c.baseChainFrom steps visited next = chain := by
  induction h generalizing steps with
  | root => cases steps <;> rfl
  | met h => cases steps <;> simp [baseChainFrom, h]
  | step h _ ih =>
      cases steps with
      | zero => simp at hsteps
      | succ steps => rw [baseChainFrom, if_neg h, ih (by simpa using hsteps)]

/-- A walk lists only what the base step reaches. -/
theorem inherits (h : c.BaseWalk visited next chain) {d a : TypeDef} (hnext : c.baseType? d = next)
    (ha : a ∈ chain) : Relation.TransGen c.Derives d a := by
  induction h generalizing d with
  | root | met => cases ha
  | step _ _ ih =>
      rcases List.mem_cons.1 ha with rfl | ha
      · exact .single hnext
      · exact .head hnext (ih rfl ha)

/-- A walk lists no name twice, and none that has been visited. -/
theorem nodup (h : c.BaseWalk visited next chain) :
    (chain.map (·.fullName)).Nodup ∧ ∀ a ∈ chain, a.fullName ∉ visited := by
  induction h with
  | root | met => simp
  | @step visited b chain hfresh _ ih =>
      obtain ⟨hnodup, hrest⟩ := ih
      have hnew : b.fullName ∉ chain.map (·.fullName) := by
        intro hmem
        obtain ⟨a, ha, hname⟩ := List.mem_map.1 hmem
        exact hrest a ha (hname ▸ List.mem_cons_self)
      exact ⟨List.nodup_cons.2 ⟨hnew, hnodup⟩,
        List.forall_mem_cons.2 ⟨hfresh, fun a ha hin => hrest a ha (List.mem_cons_of_mem _ hin)⟩⟩

/-- What has been visited and the rest of the walk are closed under the base step, given that the
step leads from the types visited to one of them or to the next. -/
theorem closed (h : c.BaseWalk visited next chain) (path : List TypeDef)
    (hvisited : visited = path.map (·.fullName)) (hpath : ∀ x ∈ path, x ∈ c.types)
    (hnext : ∀ b ∈ next, b ∈ c.types)
    (hclosed : ∀ x ∈ path, ∀ y, c.Derives x y → y ∈ path ∨ y ∈ next) :
    ∀ x ∈ path ++ chain, ∀ y, c.Derives x y → y ∈ path ++ chain := by
  induction h generalizing path with
  | root => simpa using hclosed
  | @met visited b hmet =>
      -- the base is one of the types visited: names are theirs alone
      rw [hvisited] at hmet
      obtain ⟨e, he, hname⟩ := List.mem_map.1 hmet
      obtain rfl : e = b := eq_of_fullName_eq (hpath e he) (hnext b rfl) hname
      intro x hx y hy
      rw [List.append_nil] at hx ⊢
      rcases hclosed x hx y hy with hin | hin
      · exact hin
      · obtain rfl : e = y := Option.some.inj hin
        exact he
  | @step visited b chain hfresh _ ih =>
      have hrest := ih (b :: path) (by rw [hvisited, List.map_cons])
        (List.forall_mem_cons.2 ⟨hnext b rfl, hpath⟩) (fun e he => Derives.mem_types he)
        (by
          refine List.forall_mem_cons.2 ⟨fun y hy => .inr hy, fun x hx y hy => ?_⟩
          rcases hclosed x hx y hy with hin | hin
          · exact .inl (List.mem_cons_of_mem _ hin)
          · obtain rfl : b = y := Option.some.inj hin
            exact .inl List.mem_cons_self)
      simpa only [List.mem_append, List.mem_cons, or_assoc, or_left_comm] using hrest

end BaseWalk

/-- **The walk ends on its own**, since no type is met twice: the count of steps cannot run out
before. -/
theorem baseWalk_baseChainFrom :
    ∀ (steps : ℕ) (path : List TypeDef) (next : Option TypeDef),
      path.Nodup → (∀ x ∈ path, x ∈ c.types) → (∀ b ∈ next, b ∈ c.types) →
      c.types.length < steps + path.length →
      c.BaseWalk (path.map (·.fullName)) next
        (c.baseChainFrom steps (path.map (·.fullName)) next) := by
  intro steps
  induction steps with
  | zero =>
      intro path next hnodup hpath _ hroom
      have := length_le_of_nodup hnodup hpath
      omega
  | succ steps ih =>
      intro path next hnodup hpath hnext hroom
      cases next with
      | none => exact .root
      | some b =>
          by_cases hmet : b.fullName ∈ path.map (·.fullName)
          · rw [baseChainFrom, if_pos hmet]
            exact .met hmet
          · have hfresh : b ∉ path := fun h => hmet (List.mem_map_of_mem h)
            rw [baseChainFrom, if_neg hmet]
            exact .step hmet (ih (b :: path) (c.baseType? b) (List.nodup_cons.2 ⟨hfresh, hnodup⟩)
              (List.forall_mem_cons.2 ⟨hnext b rfl, hpath⟩) (fun e he => Derives.mem_types he)
              (by rw [List.length_cons]; omega))

/-- The chain of a type is what the walk from its base lists. -/
theorem baseWalk_baseChain {d : TypeDef} (hd : d ∈ c.types) :
    c.BaseWalk [d.fullName] (c.baseType? d) (c.baseChain d) :=
  baseWalk_baseChainFrom c.types.length [d] (c.baseType? d) (List.nodup_singleton d)
    (by simpa using hd) (fun e he => Derives.mem_types he) (by simp)

/-- **A type and its base chain** are what the base step reaches from the type. -/
theorem mem_baseChain_iff {d a : TypeDef} (hd : d ∈ c.types) :
    a ∈ d :: c.baseChain d ↔ c.Inherits d a := by
  constructor
  · intro h
    rcases List.mem_cons.1 h with rfl | h
    · exact .refl
    · exact ((baseWalk_baseChain hd).inherits rfl h).to_reflTransGen
  · have hclosed := (baseWalk_baseChain hd).closed [d] rfl (by simpa using hd)
      (fun e he => Derives.mem_types he) (by simpa using fun y hy => .inr hy)
    intro h
    induction h with
    | refl => exact List.mem_cons_self
    | tail _ hstep ih => exact hclosed _ ih _ hstep

/-! ### Ancestors and overrides -/

/-- The strict ancestors of a type short of the root types. -/
def Ancestor (c : Compilation) : TypeDef → TypeDef → Prop :=
  Relation.TransGen fun d a => c.Derives d a ∧ a.fullName ∉ rootTypes

/-- An ancestor is inherited through the base type, which is no root type. -/
theorem Ancestor.exists_base {d a : TypeDef} (h : c.Ancestor d a) :
    ∃ b, c.Derives d b ∧ b.fullName ∉ rootTypes ∧ c.Inherits b a := by
  obtain ⟨b, hstep, hrest⟩ := Relation.TransGen.head'_iff.1 h
  exact ⟨b, hstep.1, hstep.2, hrest.lift id fun _ _ hstep => hstep.1⟩

/-- An ancestor is no root type. -/
theorem Ancestor.not_root {d a : TypeDef} (h : c.Ancestor d a) : a.fullName ∉ rootTypes := by
  cases h with
  | single hstep => exact hstep.2
  | tail _ hstep => exact hstep.2

/-- An ancestor is a type of the compilation. -/
theorem Ancestor.mem_types {d a : TypeDef} (h : c.Ancestor d a) : a ∈ c.types := by
  cases h with
  | single hstep => exact hstep.1.mem_types
  | tail _ hstep => exact hstep.1.mem_types

/-- **A type overrides a method** when it or a base at any distance other than the root object
declares the override. -/
theorem overridesMethod_iff {d : TypeDef} (hd : d ∈ c.types) {name : String} {arity : Nat} :
    c.overridesMethod d name arity = true ↔
      ∃ a, c.Inherits d a ∧ a.fullName ≠ "System.Object" ∧
        a.declaresOverride name arity = true := by
  simp only [overridesMethod, List.any_filter, List.any_eq_true, mem_baseChain_iff hd]
  refine exists_congr fun a => and_congr_right fun _ => ?_
  simp [TypeDef.declaresOverride]

end Compilation

end Companion
