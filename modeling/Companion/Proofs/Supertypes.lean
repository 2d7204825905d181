import Companion.Proofs.ArgumentFlow
import Companion.Proofs.Generation

/-!
# Whether the Walk over Supertypes Ends

The supertypes of a reference are explored breadth first, and no reference is visited twice. A
base list that runs in a circle need not keep the walk from ending, but it can: what is visited
are constructed references, and `class Chain<T> : Chain<Chain<T>>` has a new one at each level.
What matters is whether an argument grows on such a circle.

## Main results

* `mem_supertypesIn_iff`: what a walk lists that ends in time.
* `walkEnds_iff_finite`: a walk ends exactly when finitely many references are above its start.
* `walks_end_iff`: when the walks over a compilation end.
* `chain_walk_never_ends`: a compilation with a walk that does not.
-/

namespace Companion.Compilation

/-- The walk over the supertypes of a reference, after `n` steps. -/
def walk (c : Compilation) (scope : List TypeParameter) (t : TypeRef) (n : ℕ) :
    Worklist.Progress TypeRef Unit :=
  (Worklist.step fun node _ => (c.directSupertypes scope node).map (·, ()))^[n]
    (Worklist.begin t ())

/-- Whether the walk over the supertypes of a reference ends: whether its queue becomes empty
after some number of steps. -/
def WalkEnds (c : Compilation) (scope : List TypeParameter) (t : TypeRef) : Prop :=
  ∃ n, (c.walk scope t n).queue = []

variable {c : Compilation} {scope : List TypeParameter}

theorem map_fst_next (node : TypeRef) :
    ((c.directSupertypes scope node).map (·, ())).map (·.1) = c.directSupertypes scope node := by
  rw [List.map_map]
  exact List.map_id _

/-- The supertypes are what the walk has visited after its last step. -/
theorem supertypesIn_eq_walk (t : TypeRef) :
    c.supertypesIn scope t = (c.walk scope t Worklist.stepLimit).visitedNodes.reverse := by
  rw [Worklist.Progress.visitedNodes, ← List.map_reverse]
  exact congrArg (List.map (·.1))
    (Worklist.exploreFrom_eq_iterate Worklist.stepLimit (Worklist.begin t ()))

/-- The supertypes of a reference whose walk ends in time are the references above it. -/
theorem mem_supertypesIn_iff {t u : TypeRef}
    (h : (c.walk scope t Worklist.stepLimit).queue = []) :
    u ∈ c.supertypesIn scope t ↔ c.Above scope t u := by
  have hwalk := (Worklist.explored_begin (c.directSupertypes scope) t ()).after_steps
    (fun node _ => map_fst_next node) Worklist.stepLimit
  rw [supertypesIn_eq_walk, List.mem_reverse]
  exact hwalk.mem_visitedNodes_iff h

/-- **A walk ends** exactly when finitely many references are above its start. -/
theorem walkEnds_iff_finite (t : TypeRef) :
    c.WalkEnds scope t ↔ {u | c.Above scope t u}.Finite :=
  Worklist.ends_iff_finite (fun node _ => map_fst_next node) t ()

/-! ### When walks end -/

/-- **A walk ends** exactly when finitely many references are above its start. **All walks over a
compilation end**, provided that no definition lists a bare parameter as its supertype, exactly
when no argument grows on a circle of base and interface lists. -/
theorem walks_end_iff (c : Compilation) :
    (∀ scope t, c.WalkEnds scope t ↔ {u | c.Above scope t u}.Finite) ∧
      (c.DerivesFromTypes → ((∀ scope t, c.WalkEnds scope t) ↔ ¬ c.HasGrowingCircle)) := by
  refine ⟨fun scope => walkEnds_iff_finite, fun htypes => ⟨?_, fun hcircle scope t => ?_⟩⟩
  · rintro hends ⟨p, q, hwraps, hback⟩
    have hfinite := (walkEnds_iff_finite _).1
      (hends [] (.named p.1 (List.replicate (p.2 + 1) (.tuple []))))
    refine infinite_above_of_circle hwraps hback [] (u := .tuple []) ?_ hfinite
    simp
  · exact (walkEnds_iff_finite t).2 (finite_above htypes hcircle scope t)

/-- A class of a program, by its parameters and its base type. -/
def derivedClass (name : String) (params : List String) (base : TypeRef) : TypeDef where
  «namespace» := "Lib"
  name := name
  typeParameters := params.map fun p => { name := p }
  baseType := some base

/-- Two classes that derive from each other: every walk ends, as no argument is handed on. -/
theorem walks_end_on_circle_of_bases :
    ∃ c, Compilation.ofProgram (.onSmallCore [derivedClass "A" [] (.named "Lib.B" []),
        derivedClass "B" [] (.named "Lib.A" [])]) = .ok c ∧
      c.DerivesFromTypes ∧ ∀ scope t, c.WalkEnds scope t := by
  obtain ⟨c, hc, htypes⟩ := exists_ofProgram_eq_ok
    (p := .onSmallCore [derivedClass "A" [] (.named "Lib.B" []),
      derivedClass "B" [] (.named "Lib.A" [])]) (by decide +kernel)
  have hplain : c.DerivesFromTypes := by
    have hlisted : ∀ d ∈ c.types, ∀ r ∈ d.declaredSupertypes, r.definitionName?.isSome := by
      rw [htypes]
      decide +kernel
    intro d hd r hr name heq
    have hname := hlisted d hd r hr
    rw [heq] at hname
    simp [TypeRef.definitionName?] at hname
  refine ⟨c, hc, hplain, ((walks_end_iff c).2 hplain).2 ?_⟩
  -- no supertype has an argument, so there is no position to wrap one at
  have hbare : ∀ d ∈ c.types, ∀ r ∈ d.declaredSupertypes, ∀ s ∈ r.constructions,
      s.args = [] := by
    rw [htypes]
    decide +kernel
  rintro ⟨p, q, ⟨name, a, ⟨d, ⟨hd, r, hr, args, hconstruction, ha⟩, -⟩, -⟩, -⟩
  obtain rfl : args = [] := hbare d hd r hr _ hconstruction
  cases ha

/-- **A walk that never ends**: above `Chain<int>` is `Chain<Chain<int>>`, and so on. -/
theorem chain_walk_never_ends :
    ∃ c, Compilation.ofProgram (.onSmallCore [derivedClass "Chain" ["T"]
        (.named "Lib.Chain`1" [.named "Lib.Chain`1" [.parameter "T"]])]) = .ok c ∧
      ∀ n, (c.walk [] (.named "Lib.Chain`1" [.named "System.Int32" []]) n).queue ≠ [] := by
  let chain := derivedClass "Chain" ["T"]
    (.named "Lib.Chain`1" [.named "Lib.Chain`1" [.parameter "T"]])
  obtain ⟨c, hc, htypes⟩ := exists_ofProgram_eq_ok (p := .onSmallCore [chain])
    (by decide +kernel)
  have hchain : chain ∈ c.types := by
    rw [htypes]
    exact List.mem_append_right _ (List.mem_append_right _ List.mem_cons_self)
  have hwraps : c.Wraps ("Lib.Chain`1", 0) ("Lib.Chain`1", 0) :=
    ⟨"T", .named "Lib.Chain`1" [.parameter "T"],
      ⟨chain, ⟨hchain, _, List.mem_cons_self, _, List.mem_cons_self, rfl⟩, by decide +kernel,
        by decide +kernel, by decide +kernel⟩, by decide⟩
  refine ⟨c, hc, fun n hqueue => ?_⟩
  exact infinite_above_of_circle hwraps .refl [] rfl ((walkEnds_iff_finite _).1 ⟨n, hqueue⟩)

end Companion.Compilation
