import Companion.Proofs.Agreement.Entity
import Companion.Proofs.Generation

/-!
# Plans of Compilations That Agree

The order of a plan goes by the names of the types, so a list of types with names of their own has
one order only, whatever order it came in; and leaving types out of an ordered list leaves the order
of the others. When compilations agree and the second one holds further types, what its plans and
units have for the types of the first one is what the first one has.

## Main results

* `TypeDef.filter_inOrder`: types left out before or after ordering.
* `Compilation.Agrees.filter_targets`: the targets of each generator, the further types left out.
* `Compilation.Agrees.artifact_eq`: a target has the same unit in both runs.
* `Compilation.Agrees.filter_units`: the units of a run, those of the further types left out.
-/

namespace Companion

/-! ### The order of a plan -/

namespace TypeDef

/-- A type precedes another one by its name, and by its full name where the names are the same. -/
theorem precedes_iff {d e : TypeDef} :
    d.precedes e = true ↔ d.name < e.name ∨ d.name = e.name ∧ d.fullName ≤ e.fullName := by
  simp [precedes]

/-- Of two types, one precedes the other. -/
theorem precedes_total (d e : TypeDef) : d.precedes e = true ∨ e.precedes d = true := by
  rw [precedes_iff, precedes_iff]
  by_cases hname : d.name = e.name
  · simpa [hname] using String.le_total d.fullName e.fullName
  · rcases String.le_total d.name e.name with hle | hle
    · exact .inl (.inl (Std.lt_of_le_of_ne hle hname))
    · exact .inr (.inl (Std.lt_of_le_of_ne hle (Ne.symm hname)))

/-- The order of a plan is transitive. -/
theorem precedes_trans {d e f : TypeDef} (hde : d.precedes e = true) (hef : e.precedes f = true) :
    d.precedes f = true := by
  rw [precedes_iff] at *
  rcases hde with hde | ⟨hde, hde'⟩ <;> rcases hef with hef | ⟨hef, hef'⟩
  · exact .inl (String.lt_trans hde hef)
  · exact .inl (hef ▸ hde)
  · exact .inl (hde ▸ hef)
  · exact .inr ⟨hde.trans hef, String.le_trans hde' hef'⟩

/-- Types that precede each other have one name. -/
theorem fullName_eq_of_precedes {d e : TypeDef} (hde : d.precedes e = true)
    (hed : e.precedes d = true) : d.fullName = e.fullName := by
  rw [precedes_iff] at *
  rcases hde with hde | ⟨hname, hde⟩ <;> rcases hed with hed | ⟨hname', hed⟩
  · exact absurd (String.lt_trans hde hed) (String.lt_irrefl _)
  · exact absurd (hname' ▸ hde) (String.lt_irrefl _)
  · exact absurd (hname ▸ hed) (String.lt_irrefl _)
  · exact String.le_antisymm hde hed

/-- Whether types stand in the order of a plan. -/
abbrev Ordered (ds : List TypeDef) : Prop := ds.Pairwise fun d e => d.precedes e = true

/-- To insert a type into types in order leaves them in order. -/
theorem ordered_insertOrdered (d : TypeDef) {ds : List TypeDef} (h : Ordered ds) :
    Ordered (d.insertOrdered ds) := by
  induction ds with
  | nil => exact List.pairwise_singleton _ d
  | cons e es ih =>
      obtain ⟨he, hes⟩ := List.pairwise_cons.1 h
      simp only [insertOrdered]
      split
      · next hde =>
          refine List.pairwise_cons.2 ⟨List.forall_mem_cons.2 ⟨hde, fun f hf => ?_⟩, h⟩
          exact precedes_trans hde (he f hf)
      · next hde =>
          have hed : e.precedes d = true := (precedes_total d e).resolve_left hde
          refine List.pairwise_cons.2 ⟨fun f hf => ?_, ih hes⟩
          rcases List.mem_cons.1 ((insertOrdered_perm d es).mem_iff.1 hf) with rfl | hf
          · exact hed
          · exact he f hf

/-- **Types in order** stand in the order of a plan. -/
theorem ordered_inOrder (ds : List TypeDef) : Ordered (inOrder ds) := by
  induction ds with
  | nil => exact List.Pairwise.nil
  | cons d ds ih => exact ordered_insertOrdered d ih

/-- **Types left out** of an ordered list leave the others in their order, which is the only one
that types with names of their own have. -/
theorem filter_inOrder {ds es : List TypeDef} {keep : TypeDef → Bool}
    (hperm : (ds.filter keep).Perm es) (hnames : (es.map (·.fullName)).Nodup) :
    (inOrder ds).filter keep = inOrder es := by
  have hsame : ((inOrder ds).filter keep).Perm (inOrder es) :=
    (((inOrder_perm ds).filter keep).trans hperm).trans (inOrder_perm es).symm
  refine hsame.eq_of_pairwise (fun a b ha hb hab hba => ?_) ((ordered_inOrder ds).filter keep)
    (ordered_inOrder es)
  have hmem : ∀ a ∈ inOrder es, a ∈ es := fun a ha => (inOrder_perm es).mem_iff.1 ha
  exact List.inj_on_of_nodup_map hnames (hmem a (hsame.mem_iff.1 ha)) (hmem b hb)
    (fullName_eq_of_precedes hab hba)

end TypeDef

/-! ### Units with their types -/

/-- The units of a run in order, each with the type it is written for. -/
def Plan.units (c : Compilation) (config : Config) : List (TypeDef × Artifact) :=
  [Generator.equality, .immutable, .lifecycle].flatMap fun generator =>
    ((Plan.of c config).targets generator).map fun d => (d, Plan.artifact c config generator d)

/-- The units with their types are the units. -/
theorem Plan.map_snd_units (c : Compilation) (config : Config) :
    (Plan.units c config).map (·.2) = (Plan.of c config).artifacts c config := by
  simp [Plan.units, Plan.artifacts, Plan.targets, Plan.artifact, Function.comp_def]

/-! ### What compilations that agree have in common -/

namespace Compilation.Agrees

variable {known : Set String} {c c' : Compilation} (h : c.Agrees known c') {d : TypeDef}
  (config : Config)

include h

/-- A generator wants a type in both or in neither. -/
theorem wants_eq (generator : Generator) (hd : d ∈ c.types) :
    Plan.wants c' config generator d = Plan.wants c config generator d := by
  cases generator with
  | equality =>
      simp only [Plan.wants, Plan.wantsEquality, h.requestsImmutable_eq hd,
        h.generatesEquality_eq hd, h.requestsEquality_eq hd]
  | immutable => simp only [Plan.wants, h.requestsImmutable_eq hd]
  | lifecycle => rfl

/-- A type of the first compilation is a target in both or in none. -/
theorem mem_targets_iff (generator : Generator) (hd : d ∈ c.types) :
    d ∈ (Plan.of c' config).targets generator ↔ d ∈ (Plan.of c config).targets generator := by
  rw [Plan.mem_targets_iff, Plan.mem_targets_iff, h.wants_eq config generator hd]
  simp only [hd, h.mem_types hd, true_and]

/-- **The targets of a generator** are the same, the further types left out. -/
theorem filter_targets (generator : Generator) {keep : TypeDef → Bool}
    (hkeep : ∀ d, d ∈ c.types ↔ d ∈ c'.types ∧ keep d = true) :
    ((Plan.of c' config).targets generator).filter keep =
      (Plan.of c config).targets generator := by
  have hnames : ∀ (c : Compilation) wanted,
      (((c.types.filter (·.origin == .source)).filter wanted).map (·.fullName)).Nodup :=
    fun c wanted => c.nodup_map_fullName.sublist
      (List.Sublist.map _ (List.filter_sublist.trans List.filter_sublist))
  rw [Plan.targets_of, Plan.targets_of, Plan.select, Plan.select]
  refine TypeDef.filter_inOrder ((List.perm_ext_iff_of_nodup ?_ ?_).2 fun d => ?_) (hnames c _)
  · exact (List.Nodup.of_map _ (hnames c' _)).filter keep
  · exact List.Nodup.of_map _ (hnames c _)
  · simp only [List.mem_filter, hkeep d]
    constructor
    · rintro ⟨⟨⟨hd, hsource⟩, hwants⟩, hkept⟩
      exact ⟨⟨⟨hd, hkept⟩, hsource⟩,
        h.wants_eq config generator ((hkeep d).2 ⟨hd, hkept⟩) ▸ hwants⟩
    · rintro ⟨⟨⟨hd, hkept⟩, hsource⟩, hwants⟩
      exact ⟨⟨⟨hd, hsource⟩,
        (h.wants_eq config generator ((hkeep d).2 ⟨hd, hkept⟩)).symm ▸ hwants⟩, hkept⟩

/-- A type of the first compilation is planned in both runs or in none. -/
theorem contains_targetNames (generator : Generator) (hd : d ∈ c.types) :
    (targetNames ((Plan.of c' config).targets generator)).contains d.fullName =
      (targetNames ((Plan.of c config).targets generator)).contains d.fullName := by
  rw [Bool.eq_iff_iff, List.contains_iff_mem, List.contains_iff_mem, targetNames, targetNames,
    ← Plan.mem_targets_iff_fullName_mem generator hd,
    ← Plan.mem_targets_iff_fullName_mem generator (h.mem_types hd),
    h.mem_targets_iff config generator hd]

/-- **A type has the same unit** in both runs. -/
theorem artifact_eq (generator : Generator) (hd : d ∈ c.types) :
    Plan.artifact c' config generator d = Plan.artifact c config generator d := by
  have hpass : ∀ generator, Pass.Agrees known
      ⟨c, config, targetNames ((Plan.of c config).targets generator)⟩
      ⟨c', config, targetNames ((Plan.of c' config).targets generator)⟩ := fun generator =>
    ⟨h, rfl, fun d hd => h.contains_targetNames config generator hd⟩
  cases generator with
  | equality => exact (hpass .equality).equalityArtifact_eq hd
  | immutable => exact (hpass .immutable).immutableArtifact_eq hd
  | lifecycle => exact h.lifecycleArtifact_eq hd

/-- **The units of a run** are the same, those of the further types left out. -/
theorem filter_units (keep : TypeDef → Bool)
    (hkeep : ∀ d, d ∈ c.types ↔ d ∈ c'.types ∧ keep d = true) :
    (Plan.units c' config).filter (fun unit => keep unit.1) = Plan.units c config := by
  rw [Plan.units, Plan.units, List.filter_flatMap]
  refine List.flatMap_congr fun generator _ => ?_
  rw [List.filter_map, ← h.filter_targets config generator hkeep]
  refine List.map_congr_left fun d hd => ?_
  obtain ⟨htarget, hkept⟩ := List.mem_filter.1 hd
  rw [h.artifact_eq config generator ((hkeep d).2 ⟨(Plan.mem_targets_iff.1 htarget).1, hkept⟩)]

end Compilation.Agrees

end Companion
