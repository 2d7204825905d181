import Companion.Proofs.References
import Mathlib.Data.List.Basic

/-!
# The Laws of Substitution

`TypeRef.bind` puts references for parameters, all at once. One replacement after another is one
replacement: what the first puts in is handed to the second, and so are the parameters that the
first leaves as they are. `TypeRef.substitute` is such a replacement, given by the parameters of a
declaration and the arguments at their places; where a name is repeated, its first place counts.

If there is an argument for every parameter within a reference, the second of two substitutions
finds nothing to replace but what is within the arguments. This is what makes it right to put
arguments in level by level on the way from a type to its bases.

## Main results

* `TypeRef.bind_bind`: one replacement after another.
* `TypeRef.bind_congr`: a reference depends on what is put for the parameters within it only.
* `TypeRef.substitution_laws`: one substitution after another, and the substitution that puts each
  parameter for itself.
-/

namespace Companion.TypeRef

variable {σ τ : String → Option TypeRef}

/-! ### Replacements -/

mutual

/-- **One replacement after another** is one replacement. -/
theorem bind_bind : ∀ t : TypeRef,
    (t.bind σ).bind τ = t.bind fun name => ((σ name).map (bind τ)).or (τ name)
  | .named name args => by simp only [bind, bindAll_bindAll args]
  | .array element rank => by simp only [bind, bind_bind element]
  | .parameter name => by cases h : σ name <;> simp [bind, h]
  | .tuple elements => by simp only [bind, bindAll_bindAll elements]

theorem bindAll_bindAll : ∀ ts : List TypeRef,
    bindAll τ (bindAll σ ts) = bindAll (fun name => ((σ name).map (bind τ)).or (τ name)) ts
  | [] => rfl
  | t :: ts => by simp only [bindAll, bind_bind t, bindAll_bindAll ts]

end

mutual

/-- Replacements that agree on the parameters within a reference agree on the reference. -/
theorem bind_congr : ∀ t : TypeRef,
    (∀ name, .parameter name ∈ t.within → (parameter name).bind σ = (parameter name).bind τ) →
      t.bind σ = t.bind τ
  | .named name args, h => by
      simp only [bind, bindAll_congr args fun name hname => h name (List.mem_cons_of_mem _ hname)]
  | .array element rank, h => by
      simp only [bind, bind_congr element fun name hname => h name (List.mem_cons_of_mem _ hname)]
  | .parameter name, h => h name (self_mem_within _)
  | .tuple elements, h => by
      simp only [bind,
        bindAll_congr elements fun name hname => h name (List.mem_cons_of_mem _ hname)]

theorem bindAll_congr : ∀ ts : List TypeRef,
    (∀ name, .parameter name ∈ withinAll ts →
      (parameter name).bind σ = (parameter name).bind τ) → bindAll σ ts = bindAll τ ts
  | [], _ => rfl
  | t :: ts, h => by
      simp only [bindAll, bind_congr t fun name hname => h name (List.mem_append_left _ hname),
        bindAll_congr ts fun name hname => h name (List.mem_append_right _ hname)]

end

mutual

/-- A replacement that has nothing to put leaves a reference as it is. -/
theorem bind_none : ∀ t : TypeRef, t.bind (fun _ => none) = t
  | .named name args => by simp only [bind, bindAll_none args]
  | .array element rank => by simp only [bind, bind_none element]
  | .parameter name => rfl
  | .tuple elements => by simp only [bind, bindAll_none elements]

theorem bindAll_none : ∀ ts : List TypeRef, bindAll (fun _ => none) ts = ts
  | [] => rfl
  | t :: ts => by simp only [bindAll, bind_none t, bindAll_none ts]

end

/-! ### Arguments for parameters -/

variable {ps : List TypeParameter} {as : List TypeRef}

/-- What is done to all arguments is done to the argument of each parameter. -/
theorem argumentOf_map (f : TypeRef → TypeRef) (name : String) :
    argumentOf ps (as.map f) name = (argumentOf ps as name).map f := by
  rw [argumentOf, argumentOf, List.zip_map_right, List.find?_map, Option.map_map, Option.map_map]
  rfl

/-- Where there are as many arguments as parameters, each parameter has one. -/
theorem isSome_argumentOf (hlength : ps.length ≤ as.length) {name : String}
    (hname : name ∈ ps.map (·.name)) : (argumentOf ps as name).isSome = true := by
  obtain ⟨p, hp, rfl⟩ := List.mem_map.1 hname
  have hnames : (ps.zip as).map (·.1) = ps := List.map_fst_zip hlength
  obtain ⟨placed, hplaced, rfl⟩ := List.mem_map.1 (hnames.symm ▸ hp)
  rw [argumentOf, Option.isSome_map, List.find?_isSome]
  exact ⟨placed, hplaced, beq_self_eq_true _⟩

/-- Among references to the parameters themselves, each parameter finds its own name. -/
theorem eq_parameter_of_argumentOf {name : String} {u : TypeRef}
    (h : argumentOf ps (ps.map fun p => parameter p.name) name = some u) : u = parameter name := by
  obtain ⟨⟨p, arg⟩, hfound, rfl⟩ := Option.map_eq_some_iff.1 h
  have hname : p.name = name := by simpa using List.find?_some hfound
  have hplaced := List.mem_of_find?_eq_some hfound
  rw [← List.map_prod_left_eq_zip] at hplaced
  obtain ⟨q, -, hq⟩ := List.mem_map.1 hplaced
  obtain ⟨rfl, rfl⟩ := Prod.mk.inj hq
  rw [hname]

/-! ### The laws -/

/-- One substitution after another, the first one with an argument for every parameter within the
reference, is the first one with the second one done to its arguments. -/
theorem substitute_substitute {t : TypeRef} {qs : List TypeParameter} {bs : List TypeRef}
    (hlength : ps.length ≤ as.length)
    (hwithin : ∀ name, .parameter name ∈ t.within → name ∈ ps.map (·.name)) :
    (t.substitute ps as).substitute qs bs = t.substitute ps (as.map (·.substitute qs bs)) := by
  rw [substitute, substitute, bind_bind]
  refine bind_congr t fun name hname => ?_
  obtain ⟨u, hu⟩ := Option.isSome_iff_exists.1 (isSome_argumentOf hlength (hwithin name hname))
  simp only [bind, argumentOf_map, hu, Option.map_some, Option.some_or, substitute]

/-- Parameters put for themselves leave a reference as it is. -/
theorem substitute_parameters (t : TypeRef) :
    t.substitute ps (ps.map fun p => .parameter p.name) = t := by
  rw [substitute]
  refine (bind_congr t fun name _ => ?_).trans (bind_none t)
  cases hname : argumentOf ps (ps.map fun p => parameter p.name) name with
  | none => simp only [bind, hname]
  | some u =>
      simp only [bind, hname, Option.getD_some, Option.getD_none]
      exact eq_parameter_of_argumentOf hname

/-- **The laws of substitution.** If the parameters within a reference are among those of a
declaration, and there are at least as many arguments as parameters, then putting the arguments in
and substituting in the result is putting in the arguments with the substitution done to each of
them, also where names of parameters are repeated and where the arguments mention parameters of
the same names. Putting in the parameters of a declaration for themselves changes nothing. -/
theorem substitution_laws (t : TypeRef) (ps : List TypeParameter) :
    (∀ (qs : List TypeParameter) (as bs : List TypeRef), ps.length ≤ as.length →
      (∀ name, .parameter name ∈ t.within → name ∈ ps.map (·.name)) →
        (t.substitute ps as).substitute qs bs = t.substitute ps (as.map (·.substitute qs bs))) ∧
      t.substitute ps (ps.map fun p => .parameter p.name) = t :=
  ⟨fun _ _ _ => substitute_substitute, substitute_parameters t⟩

/-- Parameters of which the last one repeats the name of the first. -/
def repeatedParameters : List TypeParameter := [{ name := "T" }, { name := "U" }, { name := "T" }]

/-- Arguments that mention the parameters they are put for, the other way round. -/
def crossedArguments : List TypeRef :=
  [.parameter "U", .array (.parameter "T") 1, .named "System.Object" []]

/-- A reference with parameters at several depths. -/
def nestedParameters : TypeRef :=
  .named "Lib.Map`2" [.parameter "T", .tuple [.parameter "U", .parameter "T"]]

/-- The arguments put for the parameters are not searched again, and a second substitution goes into
the arguments only. -/
theorem crossed_arguments_substituted :
    repeatedParameters.length ≤ crossedArguments.length ∧
      (∀ name, .parameter name ∈ nestedParameters.within →
        name ∈ repeatedParameters.map (·.name)) ∧
      (nestedParameters.substitute repeatedParameters crossedArguments).substitute
          repeatedParameters [.named "System.String" [], .named "System.Int32" []] =
        nestedParameters.substitute repeatedParameters (crossedArguments.map
          (·.substitute repeatedParameters
            [.named "System.String" [], .named "System.Int32" []])) ∧
      nestedParameters.substitute repeatedParameters crossedArguments =
        .named "Lib.Map`2" [.parameter "U", .tuple [.array (.parameter "T") 1, .parameter "U"]] ∧
      (nestedParameters.substitute repeatedParameters crossedArguments).substitute
          repeatedParameters [.named "System.String" [], .named "System.Int32" []] =
        .named "Lib.Map`2" [.named "System.Int32" [],
          .tuple [.array (.named "System.String" []) 1, .named "System.Int32" []]] := by
  have hlength : repeatedParameters.length ≤ crossedArguments.length := by decide
  have hwithin : ∀ name, .parameter name ∈ nestedParameters.within →
      name ∈ repeatedParameters.map (·.name) := by
    intro name hname
    simpa [nestedParameters, within, withinAll, repeatedParameters] using hname
  exact ⟨hlength, hwithin,
    (substitution_laws nestedParameters repeatedParameters).1 repeatedParameters crossedArguments _
      hlength hwithin,
    by decide, by decide⟩

end Companion.TypeRef
