import Companion.Proofs.BaseChain
import Companion.Proofs.Supertypes
import Mathlib.Data.List.Chain

/-!
# The Order of a Base Chain

The chain of a type lists its bases from the nearest one on, each of them once, also where the base
lists run in a circle, or into one that the type itself is not on. What is found for a type by way
of its chain can so be traced to the place of the chain where it is found: behind a base, the chain
of a type goes on as the chain of that base does, short of the types in front of it.

## Main results

* `BaseWalk.isChain`: each base that a walk lists is the base type of the one before it.
* `exists_baseChain_eq_append`: the chain of a base is the rest of the chain, and perhaps some of
  the types nearer than it.
* `findFlattened?_eq_or`: the attribute of a type is that of its nearest base that has one.
* `baseChain_enumerates_bases`: what a chain lists, in which order, and what a type has from it.
-/

namespace Companion.Compilation

variable {c : Compilation} {d b : TypeDef}

/-! ### One base after the other -/

/-- Each base that a walk lists is the base type of the one before it. -/
theorem BaseWalk.isChain {visited : List String} {next : Option TypeDef} {chain : List TypeDef}
    (h : c.BaseWalk visited next chain) (hnext : c.baseType? d = next) :
    (d :: chain).IsChain c.Derives := by
  induction h generalizing d with
  | root | met => exact List.isChain_singleton d
  | step _ _ ih => exact List.isChain_cons_cons.2 ⟨hnext, ih rfl⟩

/-- No type occurs twice in a chain, and none in its own. -/
theorem nodup_cons_baseChain (hd : d ∈ c.types) : (d :: c.baseChain d).Nodup := by
  obtain ⟨hnames, hfresh⟩ := (baseWalk_baseChain hd).nodup
  refine List.nodup_cons.2 ⟨fun hmem => hfresh d hmem (List.mem_singleton_self _), ?_⟩
  exact List.Nodup.of_map _ hnames

/-- A chain is no longer than the list of types. -/
theorem length_baseChain_le (hd : d ∈ c.types) : (c.baseChain d).length ≤ c.types.length :=
  length_le_of_nodup (List.nodup_cons.1 (nodup_cons_baseChain hd)).2 fun _ ha =>
    Inherits.mem_types hd ((mem_baseChain_iff hd).1 (List.mem_cons_of_mem d ha))

/-- Two lists of bases of one type, each of which follows the base step, agree as far as they go. -/
theorem Derives.prefix_or_prefix : ∀ {l l' : List TypeDef} {d : TypeDef},
    (d :: l).IsChain c.Derives → (d :: l').IsChain c.Derives → l <+: l' ∨ l' <+: l
  | [], _, _, _, _ => .inl List.nil_prefix
  | _ :: _, [], _, _, _ => .inr List.nil_prefix
  | a :: l, a' :: l', d, h, h' => by
      obtain ⟨hstep, hrest⟩ := List.isChain_cons_cons.1 h
      obtain ⟨hstep', hrest'⟩ := List.isChain_cons_cons.1 h'
      obtain rfl : a = a' := hstep.unique hstep'
      simpa only [List.cons_prefix_cons, true_and] using prefix_or_prefix hrest hrest'

/-! ### The chain of a base -/

/-- **The chain of a base** is the rest of the chain, and perhaps some of the types nearer than the
base, if the base lists run in a circle. -/
theorem exists_baseChain_eq_append {nearer above : List TypeDef} (hd : d ∈ c.types)
    (hsplit : d :: c.baseChain d = nearer ++ b :: above) :
    ∃ circle, c.baseChain b = above ++ circle ∧ circle ⊆ nearer := by
  have hinherits : c.Inherits d b := (mem_baseChain_iff hd).1 (by simp [hsplit])
  have hb : b ∈ c.types := hinherits.mem_types hd
  have hnodup : (b :: above).Nodup :=
    (List.nodup_append.1 (hsplit ▸ nodup_cons_baseChain hd)).2.1
  have hchain : (d :: c.baseChain d).IsChain c.Derives := (baseWalk_baseChain hd).isChain rfl
  rw [hsplit] at hchain
  have habove : (b :: above).IsChain c.Derives := hchain.right_of_append
  rcases Derives.prefix_or_prefix habove ((baseWalk_baseChain hb).isChain rfl) with
    ⟨circle, heq⟩ | ⟨rest, heq⟩
  · refine ⟨circle, heq.symm, fun a ha => ?_⟩
    have hmem : a ∈ d :: c.baseChain d := (mem_baseChain_iff hd).2 (hinherits.trans
      ((mem_baseChain_iff hb).1 (List.mem_cons_of_mem _ (heq ▸ List.mem_append_right _ ha))))
    have hrest : (b :: above ++ circle).Nodup := by
      rw [List.cons_append, heq]
      exact nodup_cons_baseChain hb
    rw [hsplit] at hmem
    exact (List.mem_append.1 hmem).resolve_right fun hin => (List.nodup_append'.1 hrest).2.2 hin ha
  · -- the chain of the base cannot be shorter: it holds the base of each type that it holds
    cases rest with
    | nil => exact ⟨[], by simpa using heq, List.nil_subset _⟩
    | cons a rest =>
        rw [← heq, ← List.cons_append] at habove hnodup
        have hlast : (b :: c.baseChain b) ≠ [] := List.cons_ne_nil _ _
        have hderives : c.Derives ((b :: c.baseChain b).getLast hlast) a :=
          (List.isChain_append.1 habove).2.2 _ (List.getLast_mem_getLast? hlast) a rfl
        have hin : a ∈ b :: c.baseChain b := (mem_baseChain_iff hb).2
          (((mem_baseChain_iff hb).1 (List.getLast_mem hlast)).tail hderives)
        exact absurd List.mem_cons_self ((List.nodup_append'.1 hnodup).2.2 hin)

/-! ### What a type has from its bases -/

/-- **The attribute of a type** is that of the nearest type before a base that has one, and else the
one that the base has. -/
theorem findFlattened?_eq_or {nearer above : List TypeDef} (hd : d ∈ c.types)
    (hsplit : d :: c.baseChain d = nearer ++ b :: above) (className : String) :
    c.findFlattened? d className =
      (nearer.findSome? fun a => findAttribute? a.attributes className).or
        (c.findFlattened? b className) := by
  obtain ⟨circle, hcircle, hsubset⟩ := exists_baseChain_eq_append hd hsplit
  rw [findFlattened?, findFlattened?, hsplit, hcircle, List.findSome?_append,
    ← List.cons_append, List.findSome?_append]
  cases hnearer : nearer.findSome? fun a => findAttribute? a.attributes className with
  | some a => rfl
  | none =>
      have hnone : (circle.findSome? fun a => findAttribute? a.attributes className) = none :=
        List.findSome?_eq_none_iff.2 fun a ha =>
          List.findSome?_eq_none_iff.1 hnearer a (hsubset ha)
      rw [hnone, Option.or_none]

/-- A type has the attributes that its bases have. -/
theorem hasFlattened_of_mem_baseChain (hd : d ∈ c.types) (hb : b ∈ c.baseChain d)
    {className : String} (h : c.hasFlattened b className = true) :
    c.hasFlattened d className = true := by
  obtain ⟨nearer, above, hsplit⟩ := List.append_of_mem (List.mem_cons_of_mem d hb)
  rw [hasFlattened, findFlattened?_eq_or hd hsplit, Option.isSome_or, Bool.or_eq_true]
  exact .inr h

/-- A type overrides the methods that its bases override. -/
theorem overridesMethod_of_mem_baseChain (hd : d ∈ c.types) (hb : b ∈ c.baseChain d)
    {name : String} {arity : ℕ} (h : c.overridesMethod b name arity = true) :
    c.overridesMethod d name arity = true := by
  have hinherits : c.Inherits d b := (mem_baseChain_iff hd).1 (List.mem_cons_of_mem d hb)
  obtain ⟨a, ha, hoverride⟩ := (overridesMethod_iff (hinherits.mem_types hd)).1 h
  exact (overridesMethod_iff hd).2 ⟨a, hinherits.trans ha, hoverride⟩

/-- **A base chain enumerates the bases of a type**, whether or not the base lists run in a circle:
no count of steps cuts it short, it holds no type twice and not the type itself, each base is the
base type of the one before it, and together with the type these are all types that base types lead
to. So what is found for a base is found for the type: an attribute, unless a nearer type has
another one, and an override of a method. -/
theorem baseChain_enumerates_bases (hd : d ∈ c.types) :
    (∀ steps, c.types.length ≤ steps →
        c.baseChainFrom steps [d.fullName] (c.baseType? d) = c.baseChain d) ∧
      (d :: c.baseChain d).Nodup ∧
      (d :: c.baseChain d).IsChain c.Derives ∧
      (∀ a, a ∈ d :: c.baseChain d ↔ c.Inherits d a) ∧
      (∀ nearer b above, d :: c.baseChain d = nearer ++ b :: above → ∀ className,
        c.findFlattened? d className =
          (nearer.findSome? fun a => findAttribute? a.attributes className).or
            (c.findFlattened? b className)) ∧
      ∀ b ∈ c.baseChain d,
        (∀ className, c.hasFlattened b className = true → c.hasFlattened d className = true) ∧
          ∀ name arity,
            c.overridesMethod b name arity = true → c.overridesMethod d name arity = true := by
  refine ⟨fun steps hsteps => ?_, nodup_cons_baseChain hd, (baseWalk_baseChain hd).isChain rfl,
    fun a => mem_baseChain_iff hd, fun nearer b above => findFlattened?_eq_or hd,
    fun b hb => ⟨fun className => hasFlattened_of_mem_baseChain hd hb,
      fun name arity => overridesMethod_of_mem_baseChain hd hb⟩⟩
  exact (baseWalk_baseChain hd).baseChainFrom_eq ((length_baseChain_le hd).trans hsteps)

/-- A class that derives from the first of two classes that derive from each other. -/
def circleLeaf : TypeDef := derivedClass "Leaf" [] (.named "Lib.Inner" [])

def circleProgram : Program :=
  .onSmallCore [circleLeaf, derivedClass "Inner" [] (.named "Lib.Outer" []),
    derivedClass "Outer" [] (.named "Lib.Inner" [])]

/-- The chain of a class below a circle goes round it once. -/
theorem baseChain_below_circle :
    ∃ c, ofProgram circleProgram = .ok c ∧ circleLeaf ∈ c.types ∧
      (c.baseChain circleLeaf).map (·.fullName) = ["Lib.Inner", "Lib.Outer"] ∧
      (circleLeaf :: c.baseChain circleLeaf).Nodup ∧
      (circleLeaf :: c.baseChain circleLeaf).IsChain c.Derives ∧
      ∀ a, a ∈ circleLeaf :: c.baseChain circleLeaf ↔ c.Inherits circleLeaf a := by
  obtain ⟨c, -, -, hc, -, -, hcheck⟩ := Program.exists_run circleProgram
    (fun c _ _ => (c.baseChain circleLeaf).map (·.fullName) == ["Lib.Inner", "Lib.Outer"])
    (by decide +kernel)
  obtain ⟨c', hc', htypes⟩ := exists_ofProgram_eq_ok (p := circleProgram) (by decide +kernel)
  obtain rfl : c = c' := Except.ok.inj (hc.symm.trans hc')
  have hleaf : circleLeaf ∈ c.types := by
    rw [htypes]
    exact List.mem_append_right _ (List.mem_append_right _ List.mem_cons_self)
  obtain ⟨-, hnodup, hchain, hreached, -⟩ := baseChain_enumerates_bases hleaf
  exact ⟨c, hc, hleaf, beq_iff_eq.1 hcheck, hnodup, hchain, hreached⟩

end Companion.Compilation
