import Companion.Immutable.Validation
import Companion.Proofs.References
import Companion.Proofs.Worklist
import Mathlib.Algebra.BigOperators.Group.Finset.Piecewise
import Mathlib.Algebra.Order.BigOperators.Group.Finset
import Mathlib.Algebra.Order.BigOperators.Group.List
import Mathlib.Algebra.Order.Group.Nat
import Mathlib.Algebra.Order.Ring.Nat
import Mathlib.Data.List.Dedup

/-!
# The Parts of a Type That Are Examined

An entity may hold a type only if all its parts may be held: its arguments and elements, what
those are made of, and for a type parameter its constraints. `checkedParts` lists them breadth
first, in a number of steps fixed in advance. The steps suffice, whatever circles the constraints
run in: each part of the type or of a constraint is queued once as a part of another one, and each
constraint once more for its parameter.

## Main results

* `sum_directParts_le`: how many references are queued on the way.
* `mem_checkedParts_iff`: a reference is examined exactly when it is part of the type at any
  distance.
-/

namespace Companion

/-- The references that are examined after one: the constraints of a parameter, and the arguments
or elements of any other reference. -/
def directParts (scope : List TypeParameter) : TypeRef → List TypeRef
  | .parameter name => constraintsOf scope name
  | t => t.parts

/-- One reference is part of another one, at any distance: by way of arguments and elements, and of
the constraints of parameters. -/
abbrev HasPart (scope : List TypeParameter) : TypeRef → TypeRef → Prop :=
  Worklist.Reaches (directParts scope)

variable {scope : List TypeParameter}

/-- The notes aside, what is queued after a part are its direct parts. -/
theorem map_fst_checkedNext (t : TypeRef) (source : String) :
    (checkedNext scope t source).map (·.1) = directParts scope t := by
  cases t <;> simp [checkedNext, directParts, Function.comp_def]

/-! ### Direct parts are in reach -/

/-- The parts of a reference stand within it. -/
theorem parts_subset_within {t u : TypeRef} (h : u ∈ t.parts) : u ∈ t.within := by
  cases t with
  | named name args =>
      exact List.mem_cons_of_mem _ (TypeRef.mem_withinAll.2 ⟨u, h, u.self_mem_within⟩)
  | array element rank =>
      obtain rfl := List.mem_singleton.1 h
      exact List.mem_cons_of_mem _ u.self_mem_within
  | parameter name => exact absurd h List.not_mem_nil
  | tuple elements =>
      exact List.mem_cons_of_mem _ (TypeRef.mem_withinAll.2 ⟨u, h, u.self_mem_within⟩)

/-- What is in reach of a type has its direct parts in reach. -/
theorem directParts_subset {t u v : TypeRef} (hu : u ∈ Compilation.refsInReach scope t)
    (hv : v ∈ directParts scope u) : v ∈ Compilation.refsInReach scope t := by
  by_cases hparameter : ∃ name, u = .parameter name
  · obtain ⟨name, rfl⟩ := hparameter
    refine List.mem_append_right _ (TypeRef.mem_withinAll.2 ⟨v, ?_, v.self_mem_within⟩)
    exact Compilation.constraintsOf_subset scope name hv
  · have hparts : v ∈ u.parts := by
      cases u with
      | parameter name => exact absurd ⟨name, rfl⟩ hparameter
      | named | array | tuple => exact hv
    exact Compilation.within_subset_refsInReach hu (parts_subset_within hparts)

/-- **The references in reach** include the type, and none of them has a direct part that is not in
reach. -/
theorem refsInReach_closed (scope : List TypeParameter) (t : TypeRef) :
    t ∈ (Compilation.refsInReach scope t).toFinset ∧
      ∀ u ∈ (Compilation.refsInReach scope t).toFinset, ∀ v ∈ directParts scope u,
        v ∈ (Compilation.refsInReach scope t).toFinset := by
  refine ⟨List.mem_toFinset.2 (Compilation.self_mem_refsInReach scope t), fun u hu v hv => ?_⟩
  rw [List.mem_toFinset] at hu ⊢
  exact directParts_subset hu hv

/-! ### Counting what is queued -/

mutual

/-- Each reference within a reference is a direct part of another one, except for the first. -/
theorem sum_parts_within : ∀ t : TypeRef, (t.within.map (·.parts.length)).sum + 1 = t.size
  | .named _ args => by
      have hargs := sum_parts_withinAll args
      rw [TypeRef.within, TypeRef.size, List.map_cons, List.sum_cons]
      change args.length + _ + 1 = _
      omega
  | .array element _ => by
      have helement := sum_parts_within element
      rw [TypeRef.within, TypeRef.size, List.map_cons, List.sum_cons]
      change 1 + _ + 1 = _
      omega
  | .parameter _ => by simp [TypeRef.within, TypeRef.size, TypeRef.parts]
  | .tuple elements => by
      have helements := sum_parts_withinAll elements
      rw [TypeRef.within, TypeRef.size, List.map_cons, List.sum_cons]
      change elements.length + _ + 1 = _
      omega

theorem sum_parts_withinAll : ∀ ts : List TypeRef,
    ((TypeRef.withinAll ts).map (·.parts.length)).sum + ts.length = TypeRef.sizeAll ts
  | [] => by simp [TypeRef.withinAll, TypeRef.sizeAll]
  | t :: ts => by
      have hfirst := sum_parts_within t
      have hrest := sum_parts_withinAll ts
      simp only [TypeRef.withinAll, TypeRef.sizeAll, List.map_append, List.sum_append,
        List.length_cons]
      omega

end

/-- The direct parts of distinct references are no more than those of a list that holds them. -/
theorem sum_parts_toFinset_le (ts : List TypeRef) :
    ∑ t ∈ ts.toFinset, t.parts.length ≤ (ts.map (·.parts.length)).sum := by
  have hdedup : ts.toFinset = ts.dedup.toFinset := by
    ext t
    simp
  calc ∑ t ∈ ts.toFinset, t.parts.length
      = ∑ t ∈ ts.dedup.toFinset, t.parts.length := by rw [← hdedup]
    _ = (ts.dedup.map (·.parts.length)).sum := List.sum_toFinset _ ts.nodup_dedup
    _ ≤ (ts.map (·.parts.length)).sum :=
        List.Sublist.sum_le_sum (ts.dedup_sublist.map _) fun _ _ => Nat.zero_le _

/-- The constraints that a reference stands for, if it is a parameter. -/
def parameterConstraints (scope : List TypeParameter) : TypeRef → List TypeRef
  | .parameter name => constraintsOf scope name
  | _ => []

/-- The constraints of distinct parameters are no more than those in scope. -/
theorem sum_constraints_le (F : Finset TypeRef) (scope : List TypeParameter) :
    ∑ t ∈ F, (parameterConstraints scope t).length ≤
      (scope.flatMap (·.constraints)).length := by
  induction scope with
  | nil =>
      have hnone : ∀ t, parameterConstraints [] t = [] := by
        rintro (_ | _ | _ | _) <;> rfl
      simp [hnone]
  | cons p scope ih =>
      -- a parameter looked up is the first one or is looked up among the others
      have hfirst : ∀ t, (parameterConstraints (p :: scope) t).length ≤
          (if t = .parameter p.name then p.constraints.length else 0) +
            (parameterConstraints scope t).length := by
        rintro (_ | _ | name | _)
        · exact Nat.zero_le _
        · exact Nat.zero_le _
        · by_cases hname : p.name = name
          · subst hname
            simp [parameterConstraints, constraintsOf]
          · simp [parameterConstraints, constraintsOf, hname]
        · exact Nat.zero_le _
      calc ∑ t ∈ F, (parameterConstraints (p :: scope) t).length
          ≤ ∑ t ∈ F, ((if t = .parameter p.name then p.constraints.length else 0) +
              (parameterConstraints scope t).length) := Finset.sum_le_sum fun t _ => hfirst t
        _ = (if .parameter p.name ∈ F then p.constraints.length else 0) +
              ∑ t ∈ F, (parameterConstraints scope t).length := by
            rw [Finset.sum_add_distrib, Finset.sum_ite_eq']
        _ ≤ p.constraints.length + (scope.flatMap (·.constraints)).length := by
            refine Nat.add_le_add ?_ ih
            split <;> omega
        _ = ((p :: scope).flatMap (·.constraints)).length := by
            rw [List.flatMap_cons, List.length_append]

/-- **How many references are queued** while the parts of a type are examined. -/
theorem sum_directParts_le (scope : List TypeParameter) (t : TypeRef) :
    ∑ u ∈ (Compilation.refsInReach scope t).toFinset, (directParts scope u).length + 1 ≤
      checkSteps scope t := by
  have hsplit : ∀ u, (directParts scope u).length =
      u.parts.length + (parameterConstraints scope u).length := by
    rintro (_ | _ | _ | _) <;> simp [directParts, parameterConstraints, TypeRef.parts]
  have hparts := sum_parts_toFinset_le (Compilation.refsInReach scope t)
  have hconstraints := sum_constraints_le (Compilation.refsInReach scope t).toFinset scope
  have hwithin := sum_parts_within t
  have hscope := sum_parts_withinAll (scope.flatMap (·.constraints))
  rw [Compilation.refsInReach, List.map_append, List.sum_append] at hparts
  simp only [hsplit, Finset.sum_add_distrib]
  rw [checkSteps]
  rw [Compilation.refsInReach] at hconstraints ⊢
  omega

/-! ### What is examined -/

/-- **The parts that are examined** are all there are, at any distance. -/
theorem mem_checkedParts_iff {t u : TypeRef} {source : String} :
    (∃ note, (u, note) ∈ checkedParts scope t source) ↔ HasPart scope t u := by
  obtain ⟨hstart, hclosed⟩ := refsInReach_closed scope t
  have hlisted : u ∈ (checkedParts scope t source).map (·.1) ↔ HasPart scope t u :=
    Worklist.mem_exploreFrom_iff map_fst_checkedNext hclosed hstart source
      (sum_directParts_le scope t)
  rw [← hlisted, List.mem_map]
  exact ⟨fun ⟨note, h⟩ => ⟨_, h, rfl⟩, fun ⟨⟨_, note⟩, h, heq⟩ => ⟨note, heq ▸ h⟩⟩

end Companion
