import Companion.Lifecycle.Methods
import Mathlib.Data.List.Basic
import Mathlib.Data.List.Forall2
import Mathlib.Data.List.Nodup

/-!
# Merging the Parameters of Methods

The construction methods of a class are called by one method, which has each parameter name once.
The first use of a name decides on its type and default value, and a later use that differs is a
conflict between the two methods. Required parameters come before those with a default value, so the
first uses are split into two groups, and within a group they stay in order.

Uses are told apart by their place in the list of all uses: a method may use a name twice, and two
methods may use it in the same way.

## Main results

* `mem_firstUses_iff`, `pairwise_firstUses`: the first uses of names, and their order.
* `merges_mergedParameters`: what is in the merged list, and in which order.
* `conflictsAt_iff`: which uses are conflicts.
* `parameters_merged_by_name`: both together, and what the merged list has when there is no
  conflict.
-/

namespace Companion

/-- The results of a function that may fail, beside the places where it does not. -/
theorem exists_places_filterMap {α β : Type} (f : α → Option β) (l : List α) :
    ∃ places : List Nat, places.Pairwise (· < ·) ∧
      (∀ place, place ∈ places ↔ ∃ b a, l[place]? = some a ∧ f a = some b) ∧
      List.Forall₂ (fun place b => ∃ a, l[place]? = some a ∧ f a = some b) places
        (l.filterMap f) := by
  induction l with
  | nil => exact ⟨[], by simp⟩
  | cons a l ih =>
      obtain ⟨places, hsorted, hmem, hresults⟩ := ih
      have hshifted : (places.map (· + 1)).Pairwise (· < ·) :=
        List.pairwise_map.2 (hsorted.imp fun hlt => by omega)
      have hrest : List.Forall₂ (fun place b => ∃ x, (a :: l)[place]? = some x ∧ f x = some b)
          (places.map (· + 1)) (l.filterMap f) := by
        simpa [List.forall₂_map_left_iff] using hresults
      cases hfa : f a with
      | none =>
          refine ⟨places.map (· + 1), hshifted, fun place => ?_, by simpa [hfa] using hrest⟩
          cases place with
          | zero => simp [hfa]
          | succ place => simpa using hmem place
      | some b =>
          refine ⟨0 :: places.map (· + 1), ?_, fun place => ?_, ?_⟩
          · exact List.pairwise_cons.2 ⟨by simp, hshifted⟩
          · cases place with
            | zero => simp [hfa]
            | succ place => simpa using hmem place
          · rw [List.filterMap_cons_some hfa]
            exact .cons ⟨a, rfl, hfa⟩ hrest

/-! ### First uses -/

section FirstUses

variable (uses : List (Parameter × Method))

/-- The first use of a name is kept. -/
theorem find?_firstUses (name : String) :
    (firstUses uses).find? (·.1.name == name) = uses.find? (·.1.name == name) := by
  induction uses with
  | nil => rfl
  | cons use uses ih =>
      rw [firstUses]
      by_cases hname : use.1.name = name
      · simp [hname]
      · rw [List.find?_cons_of_neg (by simpa using hname),
          List.find?_cons_of_neg (by simpa using hname), ← ih, List.find?_filter]
        congr 1
        funext other
        by_cases hother : other.1.name = name
        · simp [hother, Ne.symm hname]
        · simp [hother]

/-- No name is kept twice. -/
theorem nodup_names_firstUses : ((firstUses uses).map (·.1.name)).Nodup := by
  induction uses with
  | nil => exact List.nodup_nil
  | cons use uses ih =>
      rw [firstUses, List.map_cons, List.nodup_cons]
      refine ⟨?_, ih.sublist (List.filter_sublist.map _)⟩
      simp

/-- What is kept is the first use of its name. -/
theorem mem_firstUses_iff {use : Parameter × Method} :
    use ∈ firstUses uses ↔ uses.find? (·.1.name == use.1.name) = some use := by
  rw [← find?_firstUses]
  constructor
  · intro hmem
    have hfound : ((firstUses uses).find? (·.1.name == use.1.name)).isSome := by
      rw [List.find?_isSome]
      exact ⟨use, hmem, by simp⟩
    obtain ⟨other, hother⟩ := Option.isSome_iff_exists.1 hfound
    have hname : other.1.name = use.1.name := by simpa using List.find?_some hother
    rw [hother, List.inj_on_of_nodup_map (nodup_names_firstUses uses)
      (List.mem_of_find?_eq_some hother) hmem hname]
  · exact List.mem_of_find?_eq_some

/-- Names are kept in the order in which they are used first. -/
theorem pairwise_firstUses :
    (firstUses uses).Pairwise fun a b =>
      uses.findIdx (·.1.name == a.1.name) < uses.findIdx (·.1.name == b.1.name) := by
  induction uses with
  | nil => exact .nil
  | cons use uses ih =>
      rw [firstUses, List.pairwise_cons]
      have hlater : ∀ other ∈ (firstUses uses).filter fun other => other.1.name != use.1.name,
          (use :: uses).findIdx (·.1.name == other.1.name) =
            uses.findIdx (·.1.name == other.1.name) + 1 := by
        intro other hother
        have hne : other.1.name ≠ use.1.name := by simpa using List.of_mem_filter hother
        rw [List.findIdx_cons, beq_eq_false_iff_ne.2 hne.symm, cond_false]
      constructor
      · intro other hother
        rw [hlater other hother, List.findIdx_cons, beq_self_eq_true, cond_true]
        exact Nat.succ_pos _
      · refine (ih.filter _).imp_of_mem fun ha hb hlt => ?_
        rw [hlater _ ha, hlater _ hb]
        omega

end FirstUses

/-! ### The merged list -/

section Merging

variable (methods : List Method)

/-- The first use of a parameter name. -/
def firstUse? (name : String) : Option (Parameter × Method) :=
  (parameterUses methods).find? (·.1.name == name)

/-- The place of the first use of a parameter name among all uses. -/
def firstPlace (name : String) : Nat := (parameterUses methods).findIdx (·.1.name == name)

/-- Whether a list of parameters merges those of methods: it has each name once, as the first use
of the name has it, required parameters first and both groups in the order of the first uses. -/
structure Merges (merged : List Parameter) : Prop where
  nodup : (merged.map (·.name)).Nodup
  mem_names : ∀ name, name ∈ merged.map (·.name) ↔ ∃ m ∈ methods, ∃ p ∈ m.parameters, p.name = name
  first : ∀ p ∈ merged, ∃ m, firstUse? methods p.name = some (p, m)
  requiredFirst : merged.Pairwise fun p q => q.defaultValue = none → p.defaultValue = none
  inOrder : merged.Pairwise fun p q =>
    (p.defaultValue = none ↔ q.defaultValue = none) →
      firstPlace methods p.name < firstPlace methods q.name

/-- Whether the use of a parameter name at a place is a conflict: the name was used before, with
another type or default value. -/
def ConflictsAt (place : Nat) (conflict : ParameterConflict) : Prop :=
  ∃ kept p, firstUse? methods conflict.name = some (kept, conflict.first) ∧
    firstPlace methods conflict.name < place ∧
    (parameterUses methods)[place]? = some (p, conflict.second) ∧ p.name = conflict.name ∧
    (p.type ≠ kept.type ∨ p.defaultValue ≠ kept.defaultValue)

variable {methods}

/-- The uses of parameters are those of all methods. -/
theorem mem_parameterUses_iff {p : Parameter} {m : Method} :
    (p, m) ∈ parameterUses methods ↔ m ∈ methods ∧ p ∈ m.parameters := by
  simp only [parameterUses, List.mem_flatMap, List.mem_map, Prod.mk.injEq]
  constructor
  · rintro ⟨m', hm, p', hp, rfl, rfl⟩
    exact ⟨hm, hp⟩
  · rintro ⟨hm, hp⟩
    exact ⟨m, hm, p, hp, rfl, rfl⟩

/-- A parameter is kept where it is the first use of its name. -/
theorem mem_mergedParameters_iff {p : Parameter} :
    p ∈ mergedParameters methods ↔ ∃ m, firstUse? methods p.name = some (p, m) := by
  have hkept : p ∈ mergedParameters methods ↔
      p ∈ (firstUses (parameterUses methods)).map (·.1) := by
    rw [mergedParameters, List.mem_append, List.mem_filter, List.mem_filter, ← and_or_left]
    cases p.defaultValue <;> simp
  rw [hkept, List.mem_map]
  constructor
  · rintro ⟨⟨_, m⟩, huse, rfl⟩
    exact ⟨m, (mem_firstUses_iff _).1 huse⟩
  · rintro ⟨m, hm⟩
    exact ⟨(p, m), (mem_firstUses_iff _).2 hm, rfl⟩

/-- Merging keeps to the parameters of the methods. -/
theorem mem_of_mem_mergedParameters {p : Parameter} (h : p ∈ mergedParameters methods) :
    ∃ m ∈ methods, p ∈ m.parameters := by
  obtain ⟨m, hm⟩ := mem_mergedParameters_iff.1 h
  exact ⟨m, mem_parameterUses_iff.1 (List.mem_of_find?_eq_some hm)⟩

/-- A name that is used has a first use. -/
theorem exists_firstUse? {m : Method} {p : Parameter} (hm : m ∈ methods) (hp : p ∈ m.parameters) :
    ∃ kept first, firstUse? methods p.name = some (kept, first) ∧ kept.name = p.name := by
  have hfound : (firstUse? methods p.name).isSome := by
    rw [firstUse?, List.find?_isSome]
    exact ⟨(p, m), mem_parameterUses_iff.2 ⟨hm, hp⟩, by simp⟩
  obtain ⟨⟨kept, first⟩, hfirst⟩ := Option.isSome_iff_exists.1 hfound
  exact ⟨kept, first, hfirst, by simpa using List.find?_some hfirst⟩

/-- Within a group, the first uses keep their order. -/
theorem pairwise_group (group : Parameter → Bool) :
    (((firstUses (parameterUses methods)).map (·.1)).filter group).Pairwise fun p q =>
      firstPlace methods p.name < firstPlace methods q.name :=
  List.Pairwise.filter _ (List.pairwise_map.2 (pairwise_firstUses (parameterUses methods)))

variable (methods) in
/-- **The merged list** has the names that are used, each as it is used first. -/
theorem merges_mergedParameters : Merges methods (mergedParameters methods) where
  nodup := by
    have hperm :
        (mergedParameters methods).Perm ((firstUses (parameterUses methods)).map (·.1)) := by
      have hsplit := List.filter_append_perm (fun p : Parameter => p.defaultValue.isNone)
        ((firstUses (parameterUses methods)).map (·.1))
      simpa [mergedParameters, Function.comp_def] using hsplit
    rw [(hperm.map _).nodup_iff, List.map_map]
    exact nodup_names_firstUses _
  mem_names name := by
    rw [List.mem_map]
    constructor
    · rintro ⟨p, hp, rfl⟩
      obtain ⟨m, hm, hpm⟩ := mem_of_mem_mergedParameters hp
      exact ⟨m, hm, p, hpm, rfl⟩
    · rintro ⟨m, hm, p, hp, rfl⟩
      obtain ⟨kept, first, hfirst, hname⟩ := exists_firstUse? hm hp
      exact ⟨kept, mem_mergedParameters_iff.2 ⟨first, hname ▸ hfirst⟩, hname⟩
  first p hp := mem_mergedParameters_iff.1 hp
  requiredFirst := by
    rw [mergedParameters, List.pairwise_append]
    refine ⟨(pairwise_group _).imp_of_mem fun hp _ _ _ => ?_,
      (pairwise_group _).imp_of_mem fun _ hq _ hnone => ?_, fun p hp q _ _ => ?_⟩
    · simpa using List.of_mem_filter hp
    · simp [hnone] at hq
    · simpa using List.of_mem_filter hp
  inOrder := by
    rw [mergedParameters, List.pairwise_append]
    refine ⟨(pairwise_group _).imp_of_mem fun _ _ hlt _ => hlt,
      (pairwise_group _).imp_of_mem fun _ _ hlt _ => hlt, fun p hp q hq halike => ?_⟩
    -- A required parameter and an optional one are not of one group.
    have hrequired : p.defaultValue = none := by simpa using List.of_mem_filter hp
    simp [halike.1 hrequired] at hq

/-! ### Conflicts -/

variable (methods) in
/-- What is wrong with a use, if it differs from the first one of its name. -/
def conflict? (use : Parameter × Method) : Option ParameterConflict :=
  match firstUse? methods use.1.name with
  | some (kept, first) => if kept = use.1 then none else some ⟨use.1.name, first, use.2⟩
  | none => none

variable (methods) in
/-- The conflicts are those of the uses, in order. -/
theorem parameterConflicts_eq :
    parameterConflicts methods = (parameterUses methods).filterMap (conflict? methods) := by
  simp only [parameterConflicts, find?_firstUses]
  rfl

/-- A use is in conflict with the first one of its name, if that has another type or default. -/
theorem conflict?_eq_some_iff {p : Parameter} {m : Method} {conflict : ParameterConflict} :
    conflict? methods (p, m) = some conflict ↔
      p.name = conflict.name ∧ m = conflict.second ∧
        ∃ kept, firstUse? methods conflict.name = some (kept, conflict.first) ∧ kept ≠ p := by
  rw [conflict?]
  constructor
  · split
    · next kept first hfirst =>
        split
        · simp
        · next hne =>
            rintro ⟨⟩
            exact ⟨rfl, rfl, kept, hfirst, hne⟩
    · simp
  · rintro ⟨hname, rfl, kept, hfirst, hne⟩
    obtain ⟨name, first, second⟩ := conflict
    obtain rfl : p.name = name := hname
    rw [hfirst]
    exact if_neg hne

/-- A use that differs from the first one of its name stands behind it. -/
theorem conflictsAt_iff {place : Nat} {conflict : ParameterConflict} :
    ConflictsAt methods place conflict ↔
      ∃ use, (parameterUses methods)[place]? = some use ∧
        conflict? methods use = some conflict := by
  constructor
  · rintro ⟨kept, p, hfirst, -, huse, hname, hdiffers⟩
    refine ⟨_, huse, conflict?_eq_some_iff.2 ⟨hname, rfl, kept, hfirst, ?_⟩⟩
    rintro rfl
    simp at hdiffers
  · rintro ⟨⟨p, m⟩, huse, hconflict⟩
    obtain ⟨hname, rfl, kept, hfirst, hne⟩ := conflict?_eq_some_iff.1 hconflict
    have hkept : kept.name = conflict.name := by simpa using List.find?_some hfirst
    refine ⟨kept, p, hfirst, ?_, huse, hname, ?_⟩
    · have hle : firstPlace methods conflict.name ≤ place := by
        by_contra hlt
        obtain ⟨hplace, hget⟩ := List.getElem?_eq_some_iff.1 huse
        have hother := List.not_of_lt_findIdx (Nat.not_le.1 hlt)
        simp [hget, hname] at hother
      refine Nat.lt_of_le_of_ne hle ?_
      rintro rfl
      rw [firstUse?, List.find?_eq_getElem?_findIdx] at hfirst
      rw [firstPlace, hfirst] at huse
      exact hne (Prod.mk.inj (Option.some.inj huse)).1
    · by_contra hsame
      rw [not_or, not_not, not_not] at hsame
      obtain ⟨htype, hdefault⟩ := hsame
      obtain ⟨name, type, defaultValue⟩ := p
      obtain ⟨name', type', defaultValue'⟩ := kept
      simp_all

/-- A parameter that is no conflict is in the merged list. -/
theorem conflict?_eq_none_iff {p : Parameter} {m : Method} (hm : m ∈ methods)
    (hp : p ∈ m.parameters) : conflict? methods (p, m) = none ↔ p ∈ mergedParameters methods := by
  obtain ⟨kept, first, hfirst, -⟩ := exists_firstUse? hm hp
  simp only [conflict?, mem_mergedParameters_iff, hfirst, ite_eq_left_iff, reduceCtorEq, imp_false,
    not_not, Option.some.injEq, Prod.mk.injEq, exists_and_left, exists_eq', and_true]

end Merging

/-- **Parameters are merged by name.** The merged list has the names that are used, each once and as
it is used first, required parameters first and either group in the order of the first uses. There
is one conflict for each later use that differs from the first one, in their order, between the two
methods. Without conflicts the merged list has every parameter as its method has it. -/
theorem parameters_merged_by_name (methods : List Method) :
    Merges methods (mergedParameters methods) ∧
      (∃ places : List Nat, places.Pairwise (· < ·) ∧
        (∀ place, place ∈ places ↔ ∃ conflict, ConflictsAt methods place conflict) ∧
        List.Forall₂ (ConflictsAt methods) places (parameterConflicts methods)) ∧
      (parameterConflicts methods = [] ↔
        ∀ m ∈ methods, ∀ p ∈ m.parameters, p ∈ mergedParameters methods) := by
  refine ⟨merges_mergedParameters methods, ?_, ?_⟩
  · obtain ⟨places, hsorted, hmem, hresults⟩ :=
      exists_places_filterMap (conflict? methods) (parameterUses methods)
    rw [parameterConflicts_eq]
    simp only [← conflictsAt_iff] at hmem hresults
    exact ⟨places, hsorted, hmem, hresults⟩
  · simp only [parameterConflicts_eq, List.filterMap_eq_nil_iff, Prod.forall, mem_parameterUses_iff]
    constructor
    · exact fun hnone m hm p hp => (conflict?_eq_none_iff hm hp).1 (hnone p m ⟨hm, hp⟩)
    · exact fun hmerged p m ⟨hm, hp⟩ => (conflict?_eq_none_iff hm hp).2 (hmerged m hm p hp)

end Companion
