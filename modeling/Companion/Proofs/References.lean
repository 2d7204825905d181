import Companion.Compilation.Immutability
import Mathlib.Data.List.Basic

/-!
# The References Within a Reference

Whatever a check of immutability meets is part of the reference it started with or of a constraint
in scope. These parts are listed here; there are as many of them as the size says, so the list
bounds what a check can meet.

## Main results

* `TypeRef.within_trans`: a part of a part is a part.
* `Compilation.within_subset_refsInReach`: a part of a reference in reach is in reach.
* `Compilation.length_refsInReach`: the depth allowed to a check exceeds the number of references
  in reach.
-/

namespace Companion

namespace TypeRef

mutual

/-- The references within a reference, itself first. -/
def within : TypeRef → List TypeRef
  | .named name args => .named name args :: withinAll args
  | .array element rank => .array element rank :: within element
  | .parameter name => [.parameter name]
  | .tuple elements => .tuple elements :: withinAll elements

/-- The references within a list of references. -/
def withinAll : List TypeRef → List TypeRef
  | [] => []
  | t :: ts => within t ++ withinAll ts

end

/-- A reference is within itself. -/
theorem self_mem_within (t : TypeRef) : t ∈ t.within := by
  cases t <;> simp [within]

/-- What is within a list of references is within one of them. -/
theorem mem_withinAll {u : TypeRef} {ts : List TypeRef} :
    u ∈ withinAll ts ↔ ∃ t ∈ ts, u ∈ t.within := by
  induction ts with
  | nil => simp [withinAll]
  | cons t ts ih => simp [withinAll, ih]

mutual

/-- There are as many references within a reference as its size says. -/
theorem length_within : ∀ t : TypeRef, t.within.length = t.size
  | .named _ args => by simp [within, size, length_withinAll args]
  | .array element _ => by simp [within, size, length_within element]
  | .parameter _ => by simp [within, size]
  | .tuple elements => by simp [within, size, length_withinAll elements]

theorem length_withinAll : ∀ ts : List TypeRef, (withinAll ts).length = sizeAll ts
  | [] => by simp [withinAll, sizeAll]
  | t :: ts => by simp [withinAll, sizeAll, length_within t, length_withinAll ts]

end

mutual

/-- **A part of a part is a part.** -/
theorem within_trans {u v : TypeRef} (hv : v ∈ u.within) :
    ∀ t : TypeRef, u ∈ t.within → v ∈ t.within
  | .named _ args, hu => by
      rw [within, List.mem_cons] at hu ⊢
      rcases hu with rfl | hu
      · rwa [within, List.mem_cons] at hv
      · exact .inr (within_transAll hv args hu)
  | .array element _, hu => by
      rw [within, List.mem_cons] at hu ⊢
      rcases hu with rfl | hu
      · rwa [within, List.mem_cons] at hv
      · exact .inr (within_trans hv element hu)
  | .parameter _, hu => by
      rw [within, List.mem_singleton] at hu
      rwa [hu] at hv
  | .tuple elements, hu => by
      rw [within, List.mem_cons] at hu ⊢
      rcases hu with rfl | hu
      · rwa [within, List.mem_cons] at hv
      · exact .inr (within_transAll hv elements hu)

theorem within_transAll {u v : TypeRef} (hv : v ∈ u.within) :
    ∀ ts : List TypeRef, u ∈ withinAll ts → v ∈ withinAll ts
  | [], hu => by simp [withinAll] at hu
  | t :: ts, hu => by
      rw [withinAll, List.mem_append] at hu ⊢
      rcases hu with hu | hu
      · exact .inl (within_trans hv t hu)
      · exact .inr (within_transAll hv ts hu)

end

end TypeRef

namespace Compilation

variable {scope : List TypeParameter}

/-- The references that a check can meet: those within the reference checked, and those within the
constraints in scope. -/
def refsInReach (scope : List TypeParameter) (t : TypeRef) : List TypeRef :=
  t.within ++ TypeRef.withinAll (scope.flatMap (·.constraints))

/-- A reference is in reach of itself. -/
theorem self_mem_refsInReach (scope : List TypeParameter) (t : TypeRef) :
    t ∈ refsInReach scope t :=
  List.mem_append_left _ t.self_mem_within

/-- The depth allowed to a check exceeds the number of references in reach. -/
theorem length_refsInReach (scope : List TypeParameter) (t : TypeRef) :
    (refsInReach scope t).length < immutabilityDepth scope t := by
  rw [refsInReach, List.length_append, TypeRef.length_within, TypeRef.length_withinAll,
    immutabilityDepth]
  omega

/-- A part of a reference in reach is in reach. -/
theorem within_subset_refsInReach {t u v : TypeRef} (hu : u ∈ refsInReach scope t)
    (hv : v ∈ u.within) : v ∈ refsInReach scope t := by
  rw [refsInReach, List.mem_append] at hu ⊢
  rcases hu with hu | hu
  · exact .inl (TypeRef.within_trans hv t hu)
  · exact .inr (TypeRef.within_transAll hv _ hu)

/-- The constraints of a parameter are in scope. -/
theorem constraintsOf_subset (scope : List TypeParameter) (name : String) :
    constraintsOf scope name ⊆ scope.flatMap (·.constraints) := by
  intro u hu
  rw [constraintsOf] at hu
  cases hfound : scope.find? (·.name == name) with
  | none => simp [hfound] at hu
  | some p =>
      rw [hfound] at hu
      exact List.mem_flatMap.2 ⟨p, List.mem_of_find?_eq_some hfound, hu⟩

end Compilation

end Companion
