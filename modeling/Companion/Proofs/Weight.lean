import Companion.Proofs.References
import Mathlib.Data.FinEnum
import Mathlib.Data.Finite.Prod
import Mathlib.Data.Nat.Digits.Defs
import Mathlib.Data.Set.Finite.Lattice
import Mathlib.Data.Set.Finite.List
import Mathlib.Tactic.Ring

/-!
# The Weight of a Reference

There are infinitely many references, and finitely many of any given weight: the weight counts the
references within a reference and codes of the names in it. It is used to show that a set of
references is finite, or that it is not.

Putting arguments for parameters multiplies the weight by no more than the heaviest argument
weighs. An argument that is put for a parameter properly within a reference is lighter than the
result.

## Main results

* `finite_weight_le`: finitely many references weigh no more than a given bound.
* `weight_bind_le`: how heavy a reference gets when arguments are put in.
* `weight_lt_weight_bind`: an argument put in below the top adds to the weight.
-/

namespace Companion

/-- A number for a name, different for each: its characters are the digits. -/
def nameCode (name : String) : ℕ :=
  Nat.ofDigits (UInt32.size + 1) (name.toList.map fun char => char.toNat + 1)

/-- Different names have different codes. -/
theorem nameCode_injective : Function.Injective nameCode := by
  have hdigits : ∀ name : String, Nat.digits (UInt32.size + 1) (nameCode name) =
      name.toList.map fun char => char.toNat + 1 := by
    intro name
    refine Nat.digits_ofDigits _ (by decide) _ ?_ ?_
    · rintro _ hdigit
      obtain ⟨char, -, rfl⟩ := List.mem_map.1 hdigit
      exact Nat.succ_lt_succ char.val.toNat_lt_size
    · intro hne
      obtain ⟨char, -, hlast⟩ := List.mem_map.1 (List.getLast_mem hne)
      rw [← hlast]
      exact Nat.succ_ne_zero _
  have hchar : Function.Injective fun char : Char => char.toNat + 1 := by
    intro a b hab
    rw [← Char.ofNat_toNat a, Nat.succ.inj hab, Char.ofNat_toNat]
  intro name name' h
  have hcodes : (name.toList.map fun char => char.toNat + 1) =
      name'.toList.map fun char => char.toNat + 1 := by
    rw [← hdigits name, ← hdigits name', h]
  exact String.toList_inj.1 (hchar.list_map hcodes)

/-- Only finitely many names have codes up to a bound. -/
theorem finite_nameCode_le (n : ℕ) : {name | nameCode name ≤ n}.Finite :=
  (Set.finite_le_nat n).preimage nameCode_injective.injOn

namespace TypeRef

/-- The definitions that an array is a construction of, and of no other ones. -/
def arrayDefinitions : List String :=
  ["System.Array", "System.Collections.Generic.IList`1",
    "System.Collections.Generic.IReadOnlyList`1"]

mutual

/-- The weight of a reference. An array weighs as much as the references that its supertypes
are. -/
def weight : TypeRef → ℕ
  | named name args => nameCode name + weightAll args + 1
  | array element _ => (arrayDefinitions.map nameCode).sum + weight element + 1
  | parameter name => nameCode name + 1
  | tuple elements => weightAll elements + 1

/-- The weight of a list of references. -/
def weightAll : List TypeRef → ℕ
  | [] => 0
  | t :: ts => weight t + weightAll ts

end

/-- Every reference weighs something. -/
theorem weight_pos (t : TypeRef) : 0 < t.weight := by
  cases t <;> simp only [weight] <;> omega

/-- Each reference of a list is as heavy as the list at most. -/
theorem weight_le_weightAll {t : TypeRef} {ts : List TypeRef} (h : t ∈ ts) :
    t.weight ≤ weightAll ts := by
  induction ts with
  | nil => exact absurd h List.not_mem_nil
  | cons u us ih =>
      rw [weightAll]
      rcases List.mem_cons.1 h with rfl | h
      · exact Nat.le_add_right ..
      · exact (ih h).trans (Nat.le_add_left ..)

/-- **Finitely many references** weigh no more than a given bound, and so do finitely many
lists. -/
theorem finite_weight_le (n : ℕ) :
    {t | weight t ≤ n}.Finite ∧ {ts | weightAll ts ≤ n}.Finite := by
  induction n with
  | zero =>
      constructor
      · refine Set.finite_empty.subset fun t ht => ?_
        exact absurd ht (Nat.not_le.2 t.weight_pos)
      · refine (Set.finite_singleton []).subset fun ts hts => ?_
        cases ts with
        | nil => rfl
        | cons t ts =>
            have hpos := t.weight_pos
            have hnone : t.weight + weightAll ts ≤ 0 := hts
            omega
  | succ n ih =>
      obtain ⟨hrefs, hlists⟩ := ih
      have hnames := finite_nameCode_le n
      have hmore : {t | weight t ≤ n + 1}.Finite := by
        refine ((((hnames.image2 named hlists).union
          (hrefs.image2 array (Set.finite_univ (α := UInt8)))).union
          (hnames.image parameter)).union (hlists.image tuple)).subset fun t ht => ?_
        change t.weight ≤ n + 1 at ht
        cases t with
        | named name args =>
            rw [weight] at ht
            have hname : nameCode name ≤ n := by omega
            have hargs : weightAll args ≤ n := by omega
            exact .inl (.inl (.inl ⟨name, hname, args, hargs, rfl⟩))
        | array element rank =>
            rw [weight] at ht
            have helement : element.weight ≤ n := by omega
            exact .inl (.inl (.inr ⟨element, helement, rank, Set.mem_univ _, rfl⟩))
        | parameter name =>
            rw [weight] at ht
            have hname : nameCode name ≤ n := by omega
            exact .inl (.inr ⟨name, hname, rfl⟩)
        | tuple elements =>
            rw [weight] at ht
            have helements : weightAll elements ≤ n := by omega
            exact .inr ⟨elements, helements, rfl⟩
      refine ⟨hmore, ((hmore.image2 List.cons hlists).insert []).subset fun ts hts => ?_⟩
      change weightAll ts ≤ n + 1 at hts
      cases ts with
      | nil => exact .inl rfl
      | cons t ts =>
          rw [weightAll] at hts
          have hpos := t.weight_pos
          have hfirst : t.weight ≤ n + 1 := by omega
          have hrest : weightAll ts ≤ n := by omega
          exact .inr ⟨t, hfirst, ts, hrest, rfl⟩

/-! ### Putting arguments in -/

variable {σ : String → Option TypeRef}

mutual

/-- **Putting arguments in** multiplies the weight by no more than the heaviest of them weighs. -/
theorem weight_bind_le {m : ℕ} (hm : 0 < m) :
    ∀ t : TypeRef, (∀ name, .parameter name ∈ t.within → ∀ u, σ name = some u → u.weight ≤ m) →
      (t.bind σ).weight ≤ t.weight * m
  | .named name args, h => by
      have hargs := weightAll_bindAll_le hm args fun name hname =>
        h name (List.mem_cons_of_mem _ hname)
      have hname := Nat.le_mul_of_pos_right (nameCode name + 1) hm
      simp only [bind, weight]
      calc nameCode name + weightAll (bindAll σ args) + 1
          ≤ (nameCode name + 1) * m + weightAll args * m := by omega
        _ = (nameCode name + weightAll args + 1) * m := by ring
  | .array element rank, h => by
      have helement := weight_bind_le hm element fun name hname =>
        h name (List.mem_cons_of_mem _ hname)
      have hnames := Nat.le_mul_of_pos_right ((arrayDefinitions.map nameCode).sum + 1) hm
      simp only [bind, weight]
      calc (arrayDefinitions.map nameCode).sum + (element.bind σ).weight + 1
          ≤ ((arrayDefinitions.map nameCode).sum + 1) * m + element.weight * m := by omega
        _ = ((arrayDefinitions.map nameCode).sum + element.weight + 1) * m := by ring
  | .parameter name, h => by
      cases hname : σ name with
      | none =>
          simp only [bind, hname, Option.getD_none]
          exact Nat.le_mul_of_pos_right _ hm
      | some u =>
          have hu := h name (self_mem_within _) u hname
          simp only [bind, hname, Option.getD_some]
          exact hu.trans (Nat.le_mul_of_pos_left _ (weight_pos _))
  | .tuple elements, h => by
      have helements := weightAll_bindAll_le hm elements fun name hname =>
        h name (List.mem_cons_of_mem _ hname)
      simp only [bind, weight]
      calc weightAll (bindAll σ elements) + 1
          ≤ weightAll elements * m + m := by omega
        _ = (weightAll elements + 1) * m := by ring

theorem weightAll_bindAll_le {m : ℕ} (hm : 0 < m) :
    ∀ ts : List TypeRef,
      (∀ name, .parameter name ∈ withinAll ts → ∀ u, σ name = some u → u.weight ≤ m) →
        weightAll (bindAll σ ts) ≤ weightAll ts * m
  | [], _ => by simp [bindAll, weightAll]
  | t :: ts, h => by
      have hfirst := weight_bind_le hm t fun name hname => h name (List.mem_append_left _ hname)
      have hrest := weightAll_bindAll_le hm ts fun name hname =>
        h name (List.mem_append_right _ hname)
      simp only [bindAll, weightAll]
      calc (t.bind σ).weight + weightAll (bindAll σ ts)
          ≤ t.weight * m + weightAll ts * m := by omega
        _ = (t.weight + weightAll ts) * m := by ring

end

mutual

/-- An argument that is put in is part of the result, so it is no heavier. -/
theorem weight_le_weight_bind {name : String} {u : TypeRef} (hu : σ name = some u) :
    ∀ t : TypeRef, .parameter name ∈ t.within → u.weight ≤ (t.bind σ).weight
  | .named _ args, h => by
      have hargs := weight_le_weightAll_bindAll hu args (by simpa [within] using h)
      simp only [bind, weight]
      omega
  | .array element _, h => by
      have helement := weight_le_weight_bind hu element (by simpa [within] using h)
      simp only [bind, weight]
      omega
  | .parameter name', h => by
      obtain rfl : name = name' := by simpa [within] using h
      simp only [bind, hu, Option.getD_some, le_refl]
  | .tuple elements, h => by
      have helements := weight_le_weightAll_bindAll hu elements (by simpa [within] using h)
      simp only [bind, weight]
      omega

theorem weight_le_weightAll_bindAll {name : String} {u : TypeRef} (hu : σ name = some u) :
    ∀ ts : List TypeRef, .parameter name ∈ withinAll ts → u.weight ≤ weightAll (bindAll σ ts)
  | [], h => by simp [withinAll] at h
  | t :: ts, h => by
      simp only [bindAll, weightAll]
      rcases List.mem_append.1 h with h | h
      · exact (weight_le_weight_bind hu t h).trans (Nat.le_add_right ..)
      · exact (weight_le_weightAll_bindAll hu ts h).trans (Nat.le_add_left ..)

end

/-- **An argument put in below the top** is lighter than the result. -/
theorem weight_lt_weight_bind {name : String} {u : TypeRef} (hu : σ name = some u)
    {t : TypeRef} (h : .parameter name ∈ t.within) (hne : t ≠ .parameter name) :
    u.weight < (t.bind σ).weight := by
  cases t with
  | named _ args =>
      have hargs := weight_le_weightAll_bindAll hu args (by simpa [within] using h)
      simp only [bind, weight]
      omega
  | array element _ =>
      have helement := weight_le_weight_bind hu element (by simpa [within] using h)
      simp only [bind, weight]
      omega
  | parameter name' =>
      obtain rfl : name = name' := by simpa [within] using h
      exact absurd rfl hne
  | tuple elements =>
      have helements := weight_le_weightAll_bindAll hu elements (by simpa [within] using h)
      simp only [bind, weight]
      omega

end TypeRef

end Companion
