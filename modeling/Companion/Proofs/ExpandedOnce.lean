import Companion.Proofs.CheckedParts
import Companion.Proofs.Immutability

/-!
# References Are Expanded Once

Constraints of parameters may run in a circle, so a check does not get to smaller references by
going from a reference to those it hangs on. It ends because it expands no reference twice, and
because all it meets is in reach: within the reference it starts with, or within a constraint in
scope. The references in reach that have not been expanded are one fewer with each expansion.

This is so for the immutability check, which is recursive, and for the examination of the parts of
a type, which keeps a queue. The functions that run bound the depth and the steps by a count. Here
the check is written down without the count, as the relation `CheckRun`: a run that does not end
has no derivation. A run comes with its visits, one for each call, in the order of the calls.

## Main results

* `CheckRun.unique`: a check has one run at most.
* `CheckRun.reaches`: what a run visits, it can reach.
* `CheckRun.nodup_expandedRefs`: a run expands no reference twice.
* `exists_checkRun`: the depth is never used up, so what the check computes is the end of a run.
* `checks_end_expanding_once`: the check and the examination end, all they meet is in reach, and
  they expand no reference twice.
-/

namespace Companion

namespace Compilation

/-! ### Records and visits -/

/-- The references on which there is a verdict. -/
def Verdicts.recordedRefs (seen : Verdicts) : List TypeRef := seen.map (·.1)

@[simp] theorem Verdicts.recordedRefs_cons (t : TypeRef) (verdict : Bool) (seen : Verdicts) :
    Verdicts.recordedRefs ((t, verdict) :: seen) = t :: seen.recordedRefs := rfl

/-- A look-up finds nothing just where there is no verdict. -/
theorem Verdicts.lookup_eq_none_iff {seen : Verdicts} {t : TypeRef} :
    seen.lookup t = none ↔ t ∉ seen.recordedRefs := by
  simp only [List.lookup_eq_none_iff, recordedRefs, List.mem_map, bne_iff_ne]
  exact ⟨fun h ⟨p, hp, heq⟩ => h p hp heq.symm, fun h p hp heq => h ⟨p, hp, heq.symm⟩⟩

/-- A call of the immutability check: for which reference, and whether it is expanded, because
there is no verdict on it yet. -/
structure Visit where
  ref : TypeRef
  isExpanded : Bool

/-- The references that are expanded, in order. -/
def expandedRefs (visits : List Visit) : List TypeRef :=
  (visits.filter (·.isExpanded)).map (·.ref)

@[simp] theorem expandedRefs_expanded (t : TypeRef) (visits : List Visit) :
    expandedRefs (⟨t, true⟩ :: visits) = t :: expandedRefs visits := rfl

@[simp] theorem expandedRefs_append (visits visits' : List Visit) :
    expandedRefs (visits ++ visits') = expandedRefs visits ++ expandedRefs visits' := by
  rw [expandedRefs, List.filter_append, List.map_append, expandedRefs, expandedRefs]

/-! ### Runs of the check -/

/-- What is to be checked: one reference, or several up to the first one with the verdict `stop`. -/
inductive CheckTask where
  | one (t : TypeRef)
  | each (stop : Bool) (ts : List TypeRef)

/-- The references that a task calls the check for. -/
def CheckTask.refs : CheckTask → List TypeRef
  | one t => [t]
  | each _ ts => ts

/-- **A run of the immutability check**, with the record it starts with, its task, its verdict, the
record it ends with, and its visits. A reference that is expanded is taken for immutable on record
while it is checked; its verdict is recorded when that is over. -/
inductive CheckRun (c : Compilation) (scope : List TypeParameter) (rules : ImmutabilityRules) :
    Verdicts → CheckTask → Bool → Verdicts → List Visit → Prop
  /-- A verdict on record is given again. -/
  | met {seen : Verdicts} {t : TypeRef} {verdict : Bool} (hmet : seen.lookup t = some verdict) :
      CheckRun c scope rules seen (.one t) verdict seen [⟨t, false⟩]
  /-- A reference is expanded whose rule needs no calls. -/
  | settled {seen : Verdicts} {t : TypeRef} {verdict : Bool} (hnew : seen.lookup t = none)
      (hrule : c.immutabilityRule scope rules t = .settled verdict) :
      CheckRun c scope rules seen (.one t) verdict ((t, verdict) :: (t, true) :: seen) [⟨t, true⟩]
  /-- A reference is expanded that hangs on all of some references. -/
  | all {seen seen' : Verdicts} {t : TypeRef} {parts : List TypeRef} {verdict : Bool}
      {visits : List Visit} (hnew : seen.lookup t = none)
      (hrule : c.immutabilityRule scope rules t = .all parts)
      (hparts :
        CheckRun c scope rules ((t, true) :: seen) (.each false parts) verdict seen' visits) :
      CheckRun c scope rules seen (.one t) verdict ((t, verdict) :: seen') (⟨t, true⟩ :: visits)
  /-- A reference is expanded that hangs on one of some references. -/
  | any {seen seen' : Verdicts} {t : TypeRef} {parts : List TypeRef} {verdict : Bool}
      {visits : List Visit} (hnew : seen.lookup t = none)
      (hrule : c.immutabilityRule scope rules t = .any parts)
      (hparts :
        CheckRun c scope rules ((t, true) :: seen) (.each true parts) verdict seen' visits) :
      CheckRun c scope rules seen (.one t) verdict ((t, verdict) :: seen') (⟨t, true⟩ :: visits)
  /-- No verdict was `stop`. -/
  | done {seen : Verdicts} {stop : Bool} :
      CheckRun c scope rules seen (.each stop []) (!stop) seen []
  /-- The first reference has the verdict `stop`, so the others are not looked at. -/
  | stopped {seen seen' : Verdicts} {stop : Bool} {t : TypeRef} {ts : List TypeRef}
      {visits : List Visit} (hfirst : CheckRun c scope rules seen (.one t) stop seen' visits) :
      CheckRun c scope rules seen (.each stop (t :: ts)) stop seen' visits
  /-- The first reference has the other verdict. -/
  | next {seen seen' seen'' : Verdicts} {stop verdict : Bool} {t : TypeRef} {ts : List TypeRef}
      {visits visits' : List Visit}
      (hfirst : CheckRun c scope rules seen (.one t) (!stop) seen' visits)
      (hrest : CheckRun c scope rules seen' (.each stop ts) verdict seen'' visits') :
      CheckRun c scope rules seen (.each stop (t :: ts)) verdict seen'' (visits ++ visits')

variable {c : Compilation} {scope : List TypeParameter} {rules : ImmutabilityRules}
  {seen seen' : Verdicts} {task : CheckTask} {verdict : Bool} {visits : List Visit}

namespace CheckRun

/-- **A check has one run at most.** -/
theorem unique (h : c.CheckRun scope rules seen task verdict seen' visits) :
    ∀ {verdict₂ : Bool} {seen₂ : Verdicts} {visits₂ : List Visit},
      c.CheckRun scope rules seen task verdict₂ seen₂ visits₂ →
        verdict = verdict₂ ∧ seen' = seen₂ ∧ visits = visits₂ := by
  induction h with
  | met hmet =>
      intro _ _ _ h₂
      cases h₂ with
      | met hmet₂ => exact ⟨Option.some.inj (hmet.symm.trans hmet₂), rfl, rfl⟩
      | settled hnew | all hnew | any hnew => simp [hmet] at hnew
  | settled hnew hrule =>
      intro _ _ _ h₂
      cases h₂ with
      | met hmet₂ => simp [hnew] at hmet₂
      | settled _ hrule₂ =>
          obtain rfl := ImmutabilityRule.settled.inj (hrule.symm.trans hrule₂)
          exact ⟨rfl, rfl, rfl⟩
      | all _ hrule₂ | any _ hrule₂ => simp [hrule] at hrule₂
  | all hnew hrule _ ih =>
      intro _ _ _ h₂
      cases h₂ with
      | met hmet₂ => simp [hnew] at hmet₂
      | settled _ hrule₂ | any _ hrule₂ => simp [hrule] at hrule₂
      | all _ hrule₂ hparts₂ =>
          obtain rfl := ImmutabilityRule.all.inj (hrule.symm.trans hrule₂)
          obtain ⟨rfl, rfl, rfl⟩ := ih hparts₂
          exact ⟨rfl, rfl, rfl⟩
  | any hnew hrule _ ih =>
      intro _ _ _ h₂
      cases h₂ with
      | met hmet₂ => simp [hnew] at hmet₂
      | settled _ hrule₂ | all _ hrule₂ => simp [hrule] at hrule₂
      | any _ hrule₂ hparts₂ =>
          obtain rfl := ImmutabilityRule.any.inj (hrule.symm.trans hrule₂)
          obtain ⟨rfl, rfl, rfl⟩ := ih hparts₂
          exact ⟨rfl, rfl, rfl⟩
  | done =>
      intro _ _ _ h₂
      cases h₂
      exact ⟨rfl, rfl, rfl⟩
  | stopped _ ih =>
      intro _ _ _ h₂
      cases h₂ with
      | stopped hfirst₂ => exact ih hfirst₂
      | next hfirst₂ => simpa using (ih hfirst₂).1
  | next _ _ ihfirst ihrest =>
      intro _ _ _ h₂
      cases h₂ with
      | stopped hfirst₂ => simpa using (ihfirst hfirst₂).1
      | next hfirst₂ hrest₂ =>
          obtain ⟨-, rfl, rfl⟩ := ihfirst hfirst₂
          obtain ⟨rfl, rfl, rfl⟩ := ihrest hrest₂
          exact ⟨rfl, rfl, rfl⟩

/-- **What a run visits can be reached** from a reference of its task. -/
theorem reaches (h : c.CheckRun scope rules seen task verdict seen' visits) :
    ∀ visit ∈ visits, ∃ t ∈ task.refs, c.Reaches scope rules t visit.ref := by
  induction h with
  | met | settled =>
      intro visit hvisit
      obtain rfl := List.mem_singleton.1 hvisit
      exact ⟨_, List.mem_singleton_self _, .refl⟩
  | @all _ _ t parts _ _ _ hrule _ ih | @any _ _ t parts _ _ _ hrule _ ih =>
      intro visit hvisit
      refine ⟨t, List.mem_singleton_self t, ?_⟩
      rcases List.mem_cons.1 hvisit with rfl | hvisit
      · exact .refl
      · obtain ⟨u, hu, hreached⟩ := ih visit hvisit
        have hstep : c.HangsOn scope rules t u := by
          rw [HangsOn, hrule]
          exact hu
        exact .head hstep hreached
  | done => exact fun _ hvisit => absurd hvisit List.not_mem_nil
  | stopped _ ih =>
      intro visit hvisit
      obtain ⟨u, hu, hreached⟩ := ih visit hvisit
      obtain rfl := List.mem_singleton.1 hu
      exact ⟨u, List.mem_cons_self, hreached⟩
  | next _ _ ihfirst ihrest =>
      intro visit hvisit
      rcases List.mem_append.1 hvisit with hvisit | hvisit
      · obtain ⟨u, hu, hreached⟩ := ihfirst visit hvisit
        obtain rfl := List.mem_singleton.1 hu
        exact ⟨u, List.mem_cons_self, hreached⟩
      · obtain ⟨u, hu, hreached⟩ := ihrest visit hvisit
        exact ⟨u, List.mem_cons_of_mem _ hu, hreached⟩

/-- At the end of a run there are verdicts on what had one before and on what was expanded. -/
theorem mem_recordedRefs_iff (h : c.CheckRun scope rules seen task verdict seen' visits)
    (u : TypeRef) : u ∈ seen'.recordedRefs ↔ u ∈ seen.recordedRefs ∨ u ∈ expandedRefs visits := by
  induction h with
  | met | done => simp [expandedRefs]
  | settled => simp [Verdicts.recordedRefs, expandedRefs, or_comm]
  | all _ _ _ ih | any _ _ _ ih =>
      rw [Verdicts.recordedRefs_cons, List.mem_cons, ih, Verdicts.recordedRefs_cons, List.mem_cons,
        expandedRefs_expanded, List.mem_cons]
      tauto
  | stopped _ ih => exact ih
  | next _ _ ihfirst ihrest =>
      rw [ihrest, ihfirst, expandedRefs_append, List.mem_append, or_assoc]

/-- **A run expands no reference twice**, and none on which there is a verdict at its start. -/
theorem nodup_expandedRefs (h : c.CheckRun scope rules seen task verdict seen' visits) :
    (expandedRefs visits).Nodup ∧ ∀ u ∈ expandedRefs visits, u ∉ seen.recordedRefs := by
  induction h with
  | met | done => simp [expandedRefs]
  | settled hnew => simpa [expandedRefs] using Verdicts.lookup_eq_none_iff.1 hnew
  | @all seen _ t _ _ visits hnew _ _ ih | @any seen _ t _ _ visits hnew _ _ ih =>
      obtain ⟨hnodup, hfresh⟩ := ih
      -- while the reference is expanded there is a verdict on it
      have hbelow : ∀ u ∈ expandedRefs visits, u ≠ t ∧ u ∉ seen.recordedRefs := fun u hu =>
        not_or.1 (List.mem_cons.not.1 (hfresh u hu))
      rw [expandedRefs_expanded, List.nodup_cons, List.forall_mem_cons]
      exact ⟨⟨fun ht => (hbelow _ ht).1 rfl, hnodup⟩, Verdicts.lookup_eq_none_iff.1 hnew,
        fun u hu => (hbelow u hu).2⟩
  | stopped _ ih => exact ih
  | @next seen _ _ _ _ _ _ visits visits' hfirst _ ihfirst ihrest =>
      obtain ⟨hnodup, hfresh⟩ := ihfirst
      obtain ⟨hnodup', hfresh'⟩ := ihrest
      have hlater : ∀ u ∈ expandedRefs visits', u ∉ seen.recordedRefs ∧ u ∉ expandedRefs visits :=
        fun u hu => not_or.1 ((hfirst.mem_recordedRefs_iff u).not.1 (hfresh' u hu))
      rw [expandedRefs_append, List.nodup_append', List.forall_mem_append]
      exact ⟨⟨hnodup, hnodup', fun u hu hu' => (hlater u hu').2 hu⟩, hfresh,
        fun u hu => (hlater u hu).1⟩

end CheckRun

/-! ### The depth is never used up -/

/-- The references in reach on which there is no verdict. -/
def pending (scope : List TypeParameter) (start : TypeRef) (seen : Verdicts) : Finset TypeRef :=
  (refsInReach scope start).toFinset.filter (· ∉ seen.recordedRefs)

variable {start : TypeRef}

/-- Expanding a reference leaves one fewer to be expanded. -/
theorem card_pending_cons_lt {t : TypeRef} (ht : t ∈ refsInReach scope start)
    (hnew : t ∉ seen.recordedRefs) (verdict : Bool) :
    (pending scope start ((t, verdict) :: seen)).card < (pending scope start seen).card := by
  refine Finset.card_lt_card (Finset.ssubset_iff_of_subset ?_ |>.2 ⟨t, ?_, ?_⟩)
  · intro u hu
    simp only [pending, Finset.mem_filter, Verdicts.recordedRefs_cons, List.mem_cons,
      not_or] at hu ⊢
    exact ⟨hu.1, hu.2.2⟩
  · exact Finset.mem_filter.2 ⟨List.mem_toFinset.2 ht, hnew⟩
  · simp [pending, Verdicts.recordedRefs]

/-- A run takes references off those to be expanded, and adds none. -/
theorem CheckRun.pending_subset (h : c.CheckRun scope rules seen task verdict seen' visits) :
    pending scope start seen' ⊆ pending scope start seen := by
  intro u hu
  rw [pending, Finset.mem_filter, h.mem_recordedRefs_iff, not_or] at hu
  exact Finset.mem_filter.2 ⟨hu.1, hu.2.1⟩

/-- A check of several references, up to the first one with the verdict `stop`. -/
def checkEach (stop : Bool) (check : Verdicts → TypeRef → Bool × Verdicts) :
    Verdicts → List TypeRef → Bool × Verdicts
  | seen, [] => (!stop, seen)
  | seen, t :: ts =>
    if (check seen t).1 = stop then check seen t else checkEach stop check (check seen t).2 ts

section Several

variable {check : Verdicts → TypeRef → Bool × Verdicts} {ts : List TypeRef}

/-- The check that all references pass goes on until one fails. -/
theorem checkAll_eq_checkEach : checkAll check seen ts = checkEach false check seen ts := by
  induction ts generalizing seen with
  | nil => rfl
  | cons t ts ih =>
      rw [checkAll, checkEach]
      rcases check seen t with ⟨_ | _, _⟩
      · rfl
      · exact ih

/-- The check that any reference passes goes on until one does. -/
theorem checkAny_eq_checkEach : checkAny check seen ts = checkEach true check seen ts := by
  induction ts generalizing seen with
  | nil => rfl
  | cons t ts ih =>
      rw [checkAny, checkEach]
      rcases check seen t with ⟨_ | _, _⟩
      · exact ih
      · rfl

/-- Runs for the references of a list, one after the other, make up a run for the list. -/
theorem exists_checkRun_each {S : Finset TypeRef} (stop : Bool)
    (hcheck : ∀ t ∈ ts, ∀ seen, pending scope start seen ⊆ S →
      ∃ visits, c.CheckRun scope rules seen (.one t) (check seen t).1 (check seen t).2 visits) :
    ∀ seen, pending scope start seen ⊆ S →
      ∃ visits, c.CheckRun scope rules seen (.each stop ts) (checkEach stop check seen ts).1
        (checkEach stop check seen ts).2 visits := by
  induction ts with
  | nil => exact fun seen _ => ⟨[], .done⟩
  | cons t ts ih =>
      intro seen hseen
      obtain ⟨hfirst, hrest⟩ := List.forall_mem_cons.1 hcheck
      obtain ⟨visits, hrun⟩ := hfirst seen hseen
      rw [checkEach]
      split
      · next hstop =>
          rw [hstop] at hrun ⊢
          exact ⟨visits, .stopped hrun⟩
      · next hgoes =>
          obtain ⟨visits', hrun'⟩ := ih hrest (check seen t).2 (hrun.pending_subset.trans hseen)
          rw [Bool.eq_not_of_ne hgoes] at hrun
          exact ⟨visits ++ visits', .next hrun hrun'⟩

end Several

/-- **The depth is never used up** if it exceeds the number of references in reach that are still to
be expanded: what the check computes is the end of a run. -/
theorem exists_checkRun (depth : ℕ) :
    ∀ seen t, t ∈ refsInReach scope start → (pending scope start seen).card < depth →
      ∃ visits, c.CheckRun scope rules seen (.one t) (c.checkImmutable scope rules depth seen t).1
        (c.checkImmutable scope rules depth seen t).2 visits := by
  induction depth with
  | zero => exact fun _ _ _ hdepth => absurd hdepth (Nat.not_lt_zero _)
  | succ depth ih =>
      intro seen t ht hdepth
      rw [checkImmutable]
      cases hknown : seen.lookup t with
      | some verdict => exact ⟨_, .met hknown⟩
      | none =>
          have hfewer := card_pending_cons_lt ht (Verdicts.lookup_eq_none_iff.1 hknown) true
          have hparts : ∀ u ∈ (c.immutabilityRule scope rules t).parts, ∀ seen',
              pending scope start seen' ⊆ pending scope start ((t, true) :: seen) →
                ∃ visits, c.CheckRun scope rules seen' (.one u)
                  (c.checkImmutable scope rules depth seen' u).1
                  (c.checkImmutable scope rules depth seen' u).2 visits := by
            intro u hu seen' hsubset
            have hcard := Finset.card_le_card hsubset
            exact ih seen' u (HangsOn.mem_refsInReach ht hu) (by omega)
          cases hrule : c.immutabilityRule scope rules t with
          | settled verdict => exact ⟨_, .settled hknown hrule⟩
          | all parts =>
              rw [hrule] at hparts
              obtain ⟨visits, hrun⟩ := exists_checkRun_each false hparts _ (Finset.Subset.refl _)
              rw [← checkAll_eq_checkEach] at hrun
              exact ⟨_, .all hknown hrule hrun⟩
          | any parts =>
              rw [hrule] at hparts
              obtain ⟨visits, hrun⟩ := exists_checkRun_each true hparts _ (Finset.Subset.refl _)
              rw [← checkAny_eq_checkEach] at hrun
              exact ⟨_, .any hknown hrule hrun⟩

/-- What `isImmutable` gives is the end of a run. -/
theorem exists_checkRun_isImmutable (c : Compilation) (scope : List TypeParameter)
    (rules : ImmutabilityRules) (t : TypeRef) :
    ∃ visits, c.CheckRun scope rules [] (.one t) (c.isImmutable scope rules t)
      (c.checkImmutable scope rules (immutabilityDepth scope t) [] t).2 visits := by
  refine exists_checkRun (immutabilityDepth scope t) [] t (self_mem_refsInReach scope t) ?_
  calc (pending scope t []).card
      ≤ (refsInReach scope t).toFinset.card := Finset.card_filter_le _ _
    _ ≤ (refsInReach scope t).length := List.toFinset_card_le _
    _ < immutabilityDepth scope t := length_refsInReach scope t

end Compilation

/-! ### The examination of the parts of a type -/

/-- The examination of the parts of a type after some steps. -/
def examination (scope : List TypeParameter) (t : TypeRef) (source : String) (n : ℕ) :
    Worklist.Progress TypeRef String :=
  (Worklist.step (checkedNext scope))^[n] (Worklist.begin t source)

variable {scope : List TypeParameter}

/-- The parts of a type, at any distance, are in reach. -/
theorem HasPart.mem_refsInReach {t u : TypeRef} (h : HasPart scope t u) :
    u ∈ Compilation.refsInReach scope t := by
  induction h with
  | refl => exact Compilation.self_mem_refsInReach scope t
  | tail _ hpart ih => exact directParts_subset ih hpart

/-- At every point of an examination, nothing has been examined twice and all that is queued is part
of the type. -/
theorem explored_examination (scope : List TypeParameter) (t : TypeRef) (source : String) (n : ℕ) :
    Worklist.Explored (directParts scope) t (examination scope t source n) :=
  (Worklist.explored_begin _ t source).after_steps map_fst_checkedNext n

/-- **The steps are never used up**: the queue is empty behind the last of them. -/
theorem queue_examination_eq_nil (scope : List TypeParameter) (t : TypeRef) (source : String) :
    (examination scope t source (checkSteps scope t)).queue = [] := by
  obtain ⟨hstart, hclosed⟩ := refsInReach_closed scope t
  exact Worklist.queue_iterate_begin_eq_nil map_fst_checkedNext hclosed hstart source
    (sum_directParts_le scope t)

/-- What is listed is what has been examined by then. -/
theorem checkedParts_eq_examination (scope : List TypeParameter) (t : TypeRef) (source : String) :
    checkedParts scope t source =
      (examination scope t source (checkSteps scope t)).visited.reverse :=
  Worklist.exploreFrom_eq_iterate (checkSteps scope t) (Worklist.begin t source)

/-- **The immutability check and the examination of parts end**, whatever circles the constraints
run in. The check has a run, only one, and it ends with the verdict that is computed; all its calls
are for references in reach, and it expands none of them twice. The queue of the examination is
empty after some number of steps, and then what has been examined is listed; all that is ever queued
is in reach, and nothing is examined twice. -/
theorem checks_end_expanding_once (c : Compilation) (scope : List TypeParameter)
    (rules : ImmutabilityRules) (t : TypeRef) (source : String) :
    ((∃ seen visits,
        c.CheckRun scope rules [] (.one t) (c.isImmutable scope rules t) seen visits) ∧
      ∀ verdict seen visits, c.CheckRun scope rules [] (.one t) verdict seen visits →
        verdict = c.isImmutable scope rules t ∧
          (∀ visit ∈ visits, visit.ref ∈ Compilation.refsInReach scope t) ∧
          (Compilation.expandedRefs visits).Nodup) ∧
      (∃ n, (examination scope t source n).queue = [] ∧
        checkedParts scope t source = (examination scope t source n).visited.reverse) ∧
      ∀ n, (∀ u ∈ (examination scope t source n).queuedNodes,
          u ∈ Compilation.refsInReach scope t) ∧
        (examination scope t source n).visitedNodes.Nodup := by
  obtain ⟨visits, hrun⟩ := Compilation.exists_checkRun_isImmutable c scope rules t
  refine ⟨⟨⟨_, visits, hrun⟩, fun verdict seen visits' hrun' => ⟨(hrun'.unique hrun).1, ?_, ?_⟩⟩,
    ⟨_, queue_examination_eq_nil scope t source, checkedParts_eq_examination scope t source⟩,
    fun n => ⟨fun u hu => ?_, (explored_examination scope t source n).nodup⟩⟩
  · intro visit hvisit
    obtain ⟨u, hu, hreached⟩ := hrun'.reaches visit hvisit
    obtain rfl := List.mem_singleton.1 hu
    exact hreached.mem_refsInReach
  · exact hrun'.nodup_expandedRefs.1
  · exact HasPart.mem_refsInReach ((explored_examination scope t source n).reached u (.inr hu))

/-- Two parameters whose constraints run in circles: the tuple that the first must be has an array
of the first one and the second one, which must be the first. -/
def entangledScope : List TypeParameter :=
  [{ name := "T", constraints := [.tuple [.array (.parameter "T") 1, .parameter "U"]] },
    { name := "U", constraints := [.parameter "T"] }]

/-- A run through these circles: of its six calls, two are for the parameter that is still being
checked and end there. -/
theorem entangled_check_ends :
    ∃ seen visits,
      (Compilation.empty {}).CheckRun entangledScope { treatsArraysAsImmutable := true } []
        (.one (.parameter "T")) true seen visits ∧
      visits.map (·.ref) = [.parameter "T", .tuple [.array (.parameter "T") 1, .parameter "U"],
        .array (.parameter "T") 1, .parameter "T", .parameter "U", .parameter "T"] ∧
      (∀ visit ∈ visits,
        visit.ref ∈ Compilation.refsInReach entangledScope (.parameter "T")) ∧
      (Compilation.expandedRefs visits).Nodup := by
  have hrun : (Compilation.empty {}).CheckRun entangledScope { treatsArraysAsImmutable := true }
      [] (.one (.parameter "T")) true _ _ :=
    .any rfl rfl (.stopped (.all rfl rfl (.next (.all rfl rfl (.next (.met rfl) .done))
      (.next (.any rfl rfl (.stopped (.met rfl))) .done))))
  obtain ⟨-, hreach, hnodup⟩ :=
    (checks_end_expanding_once (.empty {}) entangledScope { treatsArraysAsImmutable := true }
      (.parameter "T") "").1.2 _ _ _ hrun
  exact ⟨_, _, hrun, rfl, hreach, hnodup⟩

end Companion
