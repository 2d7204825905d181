import Companion.Model.Spelling
import Mathlib.Data.List.Basic

/-!
# How Spelled Arrays Are Read

Source code writes an array type as its element type, which is no array, and a rank specifier for
each array: square brackets with a comma less than the array has dimensions. The specifiers are read
from left to right, and the first one belongs to the outermost array: `int[][,]` is an array of
two-dimensional arrays.

A reference to an array of arrays is spelled from the inside out, each array behind its elements. So
the specifiers are written in the opposite order, and the text is read as the reference with its
ranks reversed.

## Main results

* `display_eq`: the specifiers that a spelled array has.
* `readRanks_specifiers`: reading undoes writing.
* `readsAs_display_iff`: what a spelled array is read as, and when it is read as what it is.
* `jagged_array_misread`: an array of two-dimensional arrays, which is spelled as a two-dimensional
  array of arrays.
-/

namespace Companion

namespace TypeRef

/-! ### Arrays of arrays -/

/-- The ranks of an array, of the arrays that are its elements, and so on: the outermost first. -/
def ranks : TypeRef → List UInt8
  | array element rank => rank :: element.ranks
  | _ => []

/-- What the innermost arrays are made of. -/
def innermost : TypeRef → TypeRef
  | array element _ => element.innermost
  | t => t

/-- What the innermost arrays are made of is no array. -/
theorem isArray_innermost : ∀ t : TypeRef, t.innermost.isArray = false
  | array element _ => isArray_innermost element
  | named _ _ | parameter _ | tuple _ => rfl

/-- Arrays of the ranks given over some elements, the outermost first. -/
def arrays (ranks : List UInt8) (element : TypeRef) : TypeRef :=
  ranks.foldr (fun rank t => array t rank) element

/-- A reference is made of its ranks and of what its innermost arrays are made of. -/
theorem arrays_ranks_innermost : ∀ t : TypeRef, arrays t.ranks t.innermost = t
  | array element rank => congrArg (array · rank) (arrays_ranks_innermost element)
  | named _ _ | parameter _ | tuple _ => rfl

/-- Arrays over what is no array have the ranks given. -/
theorem ranks_arrays {element : TypeRef} (h : element.isArray = false) (ranks : List UInt8) :
    (arrays ranks element).ranks = ranks := by
  induction ranks with
  | nil =>
      cases element with
      | array => cases h
      | named | parameter | tuple => rfl
  | cons rank ranks ih => exact congrArg (rank :: ·) ih

/-! ### Rank specifiers -/

/-- The specifier of a number of dimensions. -/
def specifier (dimensions : ℕ) : List Char :=
  '[' :: (List.replicate (dimensions - 1) ',' ++ [']'])

/-- Read rank specifiers, from left to right. The state tells how many dimensions the specifier
being read has so far; `none` is between two specifiers. -/
def readRanks : Option ℕ → List Char → Option (List ℕ)
  | none, [] => some []
  | none, '[' :: cs => readRanks (some 1) cs
  | some n, ',' :: cs => readRanks (some (n + 1)) cs
  | some n, ']' :: cs => (readRanks none cs).map (n :: ·)
  | _, _ => none

/-- Each comma is one more dimension. -/
theorem readRanks_commas (n k : ℕ) (rest : List Char) :
    readRanks (some n) (List.replicate k ',' ++ ']' :: rest) =
      (readRanks none rest).map ((n + k) :: ·) := by
  induction k generalizing n with
  | zero => simp [readRanks]
  | succ k ih =>
      rw [List.replicate_succ, List.cons_append, readRanks, ih, Nat.add_right_comm, Nat.add_assoc]

/-- Reading undoes writing, for one dimension or more. -/
theorem readRanks_specifiers {dimensions : List ℕ} (h : ∀ n ∈ dimensions, 1 ≤ n) :
    readRanks none (dimensions.flatMap specifier) = some dimensions := by
  induction dimensions with
  | nil => rfl
  | cons n ns ih =>
      obtain ⟨hn, hns⟩ := List.forall_mem_cons.1 h
      rw [List.flatMap_cons, specifier, List.cons_append, List.append_assoc, List.singleton_append,
        readRanks, readRanks_commas, ih hns, Nat.add_sub_cancel' hn, Option.map_some]

/-- **What a text is read as**: the text of the innermost elements, which are no array, and behind
it rank specifiers, the first of which belongs to the outermost array. -/
def ReadsAs (text : String) (t : TypeRef) : Prop :=
  ∃ specifiers : List Char, text = t.innermost.display ++ String.ofList specifiers ∧
    readRanks none specifiers = some (t.ranks.map (·.toNat))

/-! ### Spelled arrays -/

/-- **A spelled reference** has a specifier for each of its ranks, the outermost last. -/
theorem display_eq : ∀ t : TypeRef, t.display =
    t.innermost.display ++ String.ofList ((t.ranks.reverse.map (·.toNat)).flatMap specifier)
  | array element rank => by
      have helement := display_eq element
      rw [display] at helement ⊢
      rw [spell, helement, ranks, innermost, ← String.toList_inj]
      simp [Text.replicate, specifier]
  | named _ _ | parameter _ | tuple _ => by simp [ranks, innermost]

/-- A spelled reference is read with its ranks reversed. -/
theorem readsAs_display_of_innermost_eq {t u : TypeRef} (hranks : ∀ r ∈ t.ranks, 1 ≤ r)
    (hinnermost : u.innermost = t.innermost) :
    ReadsAs t.display u ↔ u.ranks = t.ranks.reverse := by
  have hread : readRanks none ((t.ranks.reverse.map (·.toNat)).flatMap specifier) =
      some (t.ranks.reverse.map (·.toNat)) := by
    refine readRanks_specifiers fun n hn => ?_
    obtain ⟨r, hr, rfl⟩ := List.mem_map.1 hn
    exact UInt8.le_iff_toNat_le.1 (hranks r (List.mem_reverse.1 hr))
  constructor
  · rintro ⟨specifiers, htext, hspecifiers⟩
    rw [display_eq t, hinnermost, String.append_right_inj] at htext
    rw [← String.ofList_injective htext, hread, Option.some.injEq] at hspecifiers
    have hinj : Function.Injective UInt8.toNat := fun _ _ => UInt8.toNat_inj.1
    exact (List.map_injective_iff.2 hinj hspecifiers).symm
  · intro hreversed
    rw [ReadsAs, hreversed, hinnermost]
    exact ⟨_, display_eq t, hread⟩

/-- **A spelled array** is read as one array only over the same elements: the one with the ranks
reversed. So it is read as what it is exactly if its ranks are the same from both ends. -/
theorem readsAs_display_iff (t : TypeRef) (h : ∀ r ∈ t.ranks, 1 ≤ r) :
    (∀ u : TypeRef, u.innermost = t.innermost →
        (ReadsAs t.display u ↔ u = arrays t.ranks.reverse t.innermost)) ∧
      (ReadsAs t.display t ↔ t.ranks.reverse = t.ranks) := by
  refine ⟨fun u hu => ?_, (readsAs_display_of_innermost_eq h rfl).trans eq_comm⟩
  rw [readsAs_display_of_innermost_eq h hu]
  constructor
  · intro hreversed
    rw [← hreversed, ← hu, arrays_ranks_innermost]
  · rintro rfl
    exact ranks_arrays t.isArray_innermost _

/-- A three-dimensional array of arrays of three-dimensional arrays. -/
def evenArray : TypeRef := .array (.array (.array (.named "System.Int32" []) 3) 1) 3

/-- Its ranks are the same from both ends, so it is read as what it is. -/
theorem even_array_read : (∀ r ∈ evenArray.ranks, 1 ≤ r) ∧ evenArray.display = "int[,,][][,,]" ∧
    ReadsAs evenArray.display evenArray := by
  have hranks : ∀ r ∈ evenArray.ranks, 1 ≤ r := by simp [evenArray, ranks]
  exact ⟨hranks, by decide +kernel, (readsAs_display_iff evenArray hranks).2.2 rfl⟩

/-- An array of two-dimensional arrays. -/
def jaggedArray : TypeRef := .array (.array (.named "System.Int32" []) 2) 1

/-- **An array that is spelled as another one**: an array of two-dimensional arrays is read as a
two-dimensional array of arrays. -/
theorem jagged_array_misread : jaggedArray.display = "int[,][]" ∧
    ReadsAs jaggedArray.display (.array (.array (.named "System.Int32" []) 1) 2) ∧
    ¬ ReadsAs jaggedArray.display jaggedArray := by
  have hreads : ∀ u : TypeRef, u.innermost = jaggedArray.innermost →
      (ReadsAs jaggedArray.display u ↔ u.ranks = [2, 1]) := fun u hu =>
    readsAs_display_of_innermost_eq (by simp [jaggedArray, ranks]) hu
  have hother := hreads (.array (.array (.named "System.Int32" []) 1) 2) rfl
  refine ⟨by decide +kernel, hother.2 rfl, fun hself => ?_⟩
  exact absurd ((hreads jaggedArray rfl).1 hself) (by decide)

end TypeRef

end Companion
