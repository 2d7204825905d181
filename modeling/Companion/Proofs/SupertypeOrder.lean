import Companion.Proofs.BreadthFirst
import Companion.Proofs.Supertypes

/-!
# The Order of Supertypes

A reference has direct supertypes: what its definition lists, with the arguments put in; for an
array, the class of arrays and two collections of its elements; for a parameter, its constraints. A
walk over the supertypes that comes to its end lists all that direct supertypes lead to, breadth
first.

## Main results

* `mem_directSupertypes_iff`: the step of the walk goes to the direct supertypes.
* `supertypesIn_breadthFirst`: what a walk lists that ends, in which order.
-/

namespace Companion.Compilation

/-- The direct supertypes of a reference, in a scope of type parameters. -/
inductive DirectSupertype (c : Compilation) (scope : List TypeParameter) :
    TypeRef → TypeRef → Prop
  /-- The base type of a definition, with the arguments put in. -/
  | base {d : TypeDef} {args : List TypeRef} {base : TypeRef} (hd : d ∈ c.types)
      (hbase : d.baseType = some base) :
      DirectSupertype c scope (.named d.fullName args) (base.substitute d.typeParameters args)
  /-- An interface of a definition, with the arguments put in. -/
  | interface {d : TypeDef} {args : List TypeRef} {interface : TypeRef} (hd : d ∈ c.types)
      (hinterface : interface ∈ d.interfaces) :
      DirectSupertype c scope (.named d.fullName args)
        (interface.substitute d.typeParameters args)
  /-- The class of all arrays. -/
  | array {element : TypeRef} {rank : UInt8} :
      DirectSupertype c scope (.array element rank) (.named "System.Array" [])
  /-- An array is a list of its elements. -/
  | list {element : TypeRef} {rank : UInt8} :
      DirectSupertype c scope (.array element rank)
        (.named "System.Collections.Generic.IList`1" [element])
  /-- An array is a read-only list of its elements. -/
  | readOnlyList {element : TypeRef} {rank : UInt8} :
      DirectSupertype c scope (.array element rank)
        (.named "System.Collections.Generic.IReadOnlyList`1" [element])
  /-- A constraint of the first parameter of the name. -/
  | constraint {name : String} {p : TypeParameter} {constraint : TypeRef}
      (hp : scope.find? (·.name == name) = some p) (hconstraint : constraint ∈ p.constraints) :
      DirectSupertype c scope (.parameter name) constraint

variable {c : Compilation} {scope : List TypeParameter}

/-- The step of the walk goes to the direct supertypes. -/
theorem mem_directSupertypes_iff {t u : TypeRef} :
    u ∈ c.directSupertypes scope t ↔ c.DirectSupertype scope t u := by
  constructor
  · intro h
    cases t with
    | named name args =>
        cases hresolve : c.resolve? (.named name args) with
        | none => simp [directSupertypes, hresolve] at h
        | some d =>
            obtain ⟨hd, hname⟩ := resolve?_eq_some_iff.1 hresolve
            obtain rfl : name = d.fullName := Option.some.inj hname
            rw [directSupertypes_named hd] at h
            obtain ⟨r, hr, rfl⟩ := List.mem_map.1 h
            rcases List.mem_append.1 hr with hbase | hinterface
            · exact .base hd (Option.mem_toList.1 hbase)
            · exact .interface hd hinterface
    | array element rank =>
        simp only [directSupertypes, List.mem_cons, List.not_mem_nil, or_false] at h
        rcases h with rfl | rfl | rfl
        · exact .array
        · exact .list
        · exact .readOnlyList
    | parameter name =>
        simp only [directSupertypes, constraintsOf] at h
        cases hp : scope.find? (·.name == name) with
        | none => simp [hp] at h
        | some p => exact .constraint hp (by simpa [hp] using h)
    | tuple elements => exact absurd h List.not_mem_nil
  · intro h
    cases h with
    | base hd hbase =>
        rw [directSupertypes_named hd]
        exact List.mem_map_of_mem (List.mem_append_left _ (Option.mem_toList.2 hbase))
    | interface hd hinterface =>
        rw [directSupertypes_named hd]
        exact List.mem_map_of_mem (List.mem_append_right _ hinterface)
    | array => simp [directSupertypes]
    | list => simp [directSupertypes]
    | readOnlyList => simp [directSupertypes]
    | constraint hp hconstraint => simpa [directSupertypes, constraintsOf, hp] using hconstraint

/-- A walk that has ended goes on no more. -/
theorem walk_eq_of_queue_eq_nil {t : TypeRef} {n m : ℕ} (h : (c.walk scope t n).queue = [])
    (hle : n ≤ m) : c.walk scope t m = c.walk scope t n := by
  obtain ⟨k, rfl⟩ := Nat.exists_eq_add_of_le hle
  rw [walk, walk, Nat.add_comm, Function.iterate_add_apply]
  exact Worklist.iterate_step_of_queue_eq_nil h k

/-- **The supertypes of a reference**, where the walk over them ends after some number of steps: the
walk lists the reference itself first, no reference twice, exactly those that direct supertypes lead
to, and near ones before far ones. This list is `supertypesIn`, unless the walk takes more steps
than any walk has that fits in memory. -/
theorem supertypesIn_breadthFirst (c : Compilation) (scope : List TypeParameter) (t : TypeRef)
    {n : ℕ} (h : (c.walk scope t n).queue = []) :
    Worklist.IsBreadthFirst (c.DirectSupertype scope) t
        (c.walk scope t n).visitedNodes.reverse ∧
      (n ≤ Worklist.stepLimit →
        c.supertypesIn scope t = (c.walk scope t n).visitedNodes.reverse) := by
  constructor
  · have hsteps : (fun t u => u ∈ c.directSupertypes scope t) = c.DirectSupertype scope := by
      funext t u
      exact propext mem_directSupertypes_iff
    rw [← hsteps]
    exact Worklist.isBreadthFirst_of_queue_eq_nil (fun node _ => map_fst_next node) t () h
  · intro hlimit
    rw [supertypesIn_eq_walk, walk_eq_of_queue_eq_nil h hlimit]

/-- An interface of a program, by the interfaces it extends. -/
def derivedInterface (name : String) (above : List String) : TypeDef where
  «namespace» := "Lib"
  name := name
  kind := .interface
  interfaces := above.map fun a => .named ("Lib." ++ a) []

/-- A class below two interfaces that extend each other, and to which there are several ways. -/
def squareProgram : Program :=
  .onSmallCore [
    { derivedClass "Square" [] (.named "Lib.Rectangle" []) with
      interfaces := [.named "Lib.IShape" []] },
    { derivedClass "Rectangle" [] (.named "System.Object" []) with
      interfaces := [.named "Lib.ISized" [], .named "Lib.IShape" []] },
    derivedInterface "IShape" ["ISized"], derivedInterface "ISized" ["IShape"]]

/-- A walk with several ways to the same supertypes, and a circle above them. -/
theorem supertypes_of_square :
    ∃ c, Compilation.ofProgram squareProgram = .ok c ∧
      (c.walk [] (.named "Lib.Square" []) 10).queue = [] ∧
      Worklist.IsBreadthFirst (c.DirectSupertype []) (.named "Lib.Square" [])
        (c.supertypesIn [] (.named "Lib.Square" [])) := by
  obtain ⟨c, -, -, hc, -, -, hcheck⟩ := Program.exists_run squareProgram
    (fun c _ _ => (c.walk [] (.named "Lib.Square" []) 10).queue.isEmpty) (by decide +kernel)
  have hqueue := List.isEmpty_iff.1 hcheck
  obtain ⟨hlisted, hsupertypes⟩ :=
    supertypesIn_breadthFirst c [] (.named "Lib.Square" []) hqueue
  refine ⟨c, hc, hqueue, ?_⟩
  rw [hsupertypes (by decide)]
  exact hlisted

end Companion.Compilation
