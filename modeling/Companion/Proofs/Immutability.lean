import Companion.Proofs.References
import Mathlib.Data.List.Perm.Subperm
import Mathlib.Logic.Relation
import Mathlib.Order.FixedPoints
import Mathlib.Order.CompletePartialOrder

/-!
# The Immutability Check Against Its Greatest Fixed Point

The immutability rule says of each reference what its immutability hangs on: nothing more, all of
some references, or one of some. Constraints may run in a circle, so the rule has several
solutions. The intended one is the greatest, in which a circle that nothing speaks against is
immutable; `immutableRefs` is that set.

`isImmutable` walks through the references once. It takes a reference that is still being checked
for immutable, and it keeps the verdicts reached on the way. The two do not go together: a verdict
reached under such an assumption is kept when the assumption is refuted later.

## Main results

* `checkImmutable_refutes`: whatever the walk refutes is outside the greatest fixed point, so
  `isImmutable` accepts every reference of it.
* `checkImmutable_right`: where all that runs in a circle is immutable, the walk decides the fixed
  point. So a wrong verdict takes a circle that something speaks against.
* `isImmutable_iff_mem_immutableRefs_iff`: on everything the check of a reference can meet, the
  verdicts are right exactly when each of them follows by one step of the rule from the verdicts
  on the references it hangs on, asked on their own.
* `stale_verdict_accepted`: three type parameters for which they do not.
-/

namespace Companion.Compilation

/-! ### The rule and its greatest fixed point -/

namespace ImmutabilityRule

/-- The references that a rule hangs on. -/
def parts : ImmutabilityRule → List TypeRef
  | settled _ => []
  | all parts => parts
  | any alternatives => alternatives

/-- Whether a rule is met when the references of a set count as immutable. -/
def Holds (S : Set TypeRef) : ImmutabilityRule → Prop
  | settled immutable => immutable = true
  | all parts => ∀ t ∈ parts, t ∈ S
  | any alternatives => ∃ t ∈ alternatives, t ∈ S

/-- A rule looks only at the references it hangs on. -/
theorem Holds.congr {S T : Set TypeRef} {rule : ImmutabilityRule}
    (h : ∀ t ∈ rule.parts, t ∈ S → t ∈ T) (hS : rule.Holds S) : rule.Holds T := by
  cases rule with
  | settled immutable => exact hS
  | all parts => exact fun t ht => h t ht (hS t ht)
  | any alternatives =>
      obtain ⟨t, ht, htS⟩ := hS
      exact ⟨t, ht, h t ht htS⟩

/-- The more references count as immutable, the more rules are met. -/
theorem Holds.mono {S T : Set TypeRef} (h : S ⊆ T) {rule : ImmutabilityRule}
    (hS : rule.Holds S) : rule.Holds T :=
  hS.congr fun _ _ ht => h ht

end ImmutabilityRule

variable (c : Compilation) (scope : List TypeParameter) (rules : ImmutabilityRules)

/-- One step of the immutability rule: the references whose rule is met by a set. -/
def immutableStep : Set TypeRef →o Set TypeRef where
  toFun S := {t | (c.immutabilityRule scope rules t).Holds S}
  monotone' _ _ h _ ht := ht.mono h

/-- The **immutable references**: the greatest fixed point of the immutability rule. -/
def immutableRefs : Set TypeRef := OrderHom.gfp (c.immutableStep scope rules)

variable {c scope rules}

/-- A reference is immutable exactly when its rule is met by the immutable references. -/
theorem mem_immutableRefs_iff {t : TypeRef} :
    t ∈ c.immutableRefs scope rules ↔
      (c.immutabilityRule scope rules t).Holds (c.immutableRefs scope rules) := by
  have hfix : c.immutableStep scope rules (c.immutableRefs scope rules) =
      c.immutableRefs scope rules := OrderHom.map_gfp _
  exact (Set.ext_iff.1 hfix t).symm

/-- A set whose members meet their rule within the set is a set of immutable references. -/
theorem subset_immutableRefs {S : Set TypeRef}
    (h : ∀ t ∈ S, (c.immutabilityRule scope rules t).Holds S) :
    S ⊆ c.immutableRefs scope rules :=
  OrderHom.le_gfp _ h

/-! ### Checking several references -/

section Several

variable {check : Verdicts → TypeRef → Bool × Verdicts} {I : Verdicts → Prop}
  {R : TypeRef → Bool → Prop}

/-- What a check of each reference does to the record and says of the reference, a check of all
of them does and says, up to the first that fails. -/
theorem checkAll_invariant {ts : List TypeRef}
    (hcheck : ∀ t ∈ ts, ∀ seen, I seen → I (check seen t).2 ∧ R t (check seen t).1) :
    ∀ seen, I seen → I (checkAll check seen ts).2 ∧
      ((checkAll check seen ts).1 = true → ∀ t ∈ ts, R t true) ∧
      ((checkAll check seen ts).1 = false → ∃ t ∈ ts, R t false) := by
  induction ts with
  | nil => exact fun seen hseen => ⟨hseen, by simp, by simp [checkAll]⟩
  | cons t ts ih =>
      intro seen hseen
      obtain ⟨hkept, hsaid⟩ := hcheck t List.mem_cons_self seen hseen
      simp only [checkAll]
      rcases hresult : check seen t with ⟨_ | _, seen'⟩
      · rw [hresult] at hkept hsaid
        exact ⟨hkept, by simp, fun _ => ⟨t, List.mem_cons_self, hsaid⟩⟩
      · rw [hresult] at hkept hsaid
        obtain ⟨hrest, hall, hfails⟩ :=
          ih (fun u hu => hcheck u (List.mem_cons_of_mem _ hu)) seen' hkept
        refine ⟨hrest, fun htrue => List.forall_mem_cons.2 ⟨hsaid, hall htrue⟩, fun hfalse => ?_⟩
        obtain ⟨u, hu, hnot⟩ := hfails hfalse
        exact ⟨u, List.mem_cons_of_mem _ hu, hnot⟩

/-- The same for a check of alternatives, up to the first that succeeds. -/
theorem checkAny_invariant {ts : List TypeRef}
    (hcheck : ∀ t ∈ ts, ∀ seen, I seen → I (check seen t).2 ∧ R t (check seen t).1) :
    ∀ seen, I seen → I (checkAny check seen ts).2 ∧
      ((checkAny check seen ts).1 = true → ∃ t ∈ ts, R t true) ∧
      ((checkAny check seen ts).1 = false → ∀ t ∈ ts, R t false) := by
  induction ts with
  | nil => exact fun seen hseen => ⟨hseen, by simp [checkAny], by simp⟩
  | cons t ts ih =>
      intro seen hseen
      obtain ⟨hkept, hsaid⟩ := hcheck t List.mem_cons_self seen hseen
      simp only [checkAny]
      rcases hresult : check seen t with ⟨_ | _, seen'⟩
      · rw [hresult] at hkept hsaid
        obtain ⟨hrest, hsucceeds, hnone⟩ :=
          ih (fun u hu => hcheck u (List.mem_cons_of_mem _ hu)) seen' hkept
        refine ⟨hrest, fun htrue => ?_, fun hfalse => List.forall_mem_cons.2 ⟨hsaid, hnone hfalse⟩⟩
        obtain ⟨u, hu, hin⟩ := hsucceeds htrue
        exact ⟨u, List.mem_cons_of_mem _ hu, hin⟩
      · rw [hresult] at hkept hsaid
        exact ⟨hkept, fun _ => ⟨t, List.mem_cons_self, hsaid⟩, by simp⟩

/-- A check of all references decides whether they are all in a set, if the check of each of them
decides whether it is. -/
theorem checkAll_decides {S : Set TypeRef} {ts : List TypeRef}
    (hcheck : ∀ t ∈ ts, ∀ seen, I seen →
      I (check seen t).2 ∧ ((check seen t).1 = true ↔ t ∈ S)) :
    ∀ seen, I seen → I (checkAll check seen ts).2 ∧
      ((checkAll check seen ts).1 = true ↔ ∀ t ∈ ts, t ∈ S) := by
  intro seen hseen
  obtain ⟨hkept, hall, hfails⟩ :=
    checkAll_invariant (R := fun t verdict => verdict = true ↔ t ∈ S) hcheck seen hseen
  refine ⟨hkept, fun htrue t ht => (hall htrue t ht).1 rfl, fun hin => ?_⟩
  by_contra hfalse
  obtain ⟨t, ht, hnot⟩ := hfails (Bool.not_eq_true _ ▸ hfalse)
  exact Bool.false_ne_true (hnot.2 (hin t ht))

/-- A check of alternatives decides whether one of them is in a set. -/
theorem checkAny_decides {S : Set TypeRef} {ts : List TypeRef}
    (hcheck : ∀ t ∈ ts, ∀ seen, I seen →
      I (check seen t).2 ∧ ((check seen t).1 = true ↔ t ∈ S)) :
    ∀ seen, I seen → I (checkAny check seen ts).2 ∧
      ((checkAny check seen ts).1 = true ↔ ∃ t ∈ ts, t ∈ S) := by
  intro seen hseen
  obtain ⟨hkept, hsucceeds, hnone⟩ :=
    checkAny_invariant (R := fun t verdict => verdict = true ↔ t ∈ S) hcheck seen hseen
  refine ⟨hkept, fun htrue => ?_, fun ⟨t, ht, hin⟩ => ?_⟩
  · obtain ⟨t, ht, hin⟩ := hsucceeds htrue
    exact ⟨t, ht, hin.1 rfl⟩
  · by_contra hfalse
    exact Bool.false_ne_true ((hnone (Bool.not_eq_true _ ▸ hfalse) t ht).2 hin)

end Several

/-! ### What the walk refutes -/

/-- A record of verdicts that refutes no immutable reference. -/
def Spares (c : Compilation) (scope : List TypeParameter) (rules : ImmutabilityRules)
    (seen : Verdicts) : Prop :=
  ∀ t, seen.lookup t = some false → t ∉ c.immutableRefs scope rules

/-- An entry that refutes no immutable reference may be added to such a record. -/
theorem Spares.cons {seen : Verdicts} (h : c.Spares scope rules seen) {t : TypeRef}
    {verdict : Bool} (ht : verdict = false → t ∉ c.immutableRefs scope rules) :
    c.Spares scope rules ((t, verdict) :: seen) := by
  intro u hu
  by_cases htu : u = t
  · subst htu
    exact ht (by simpa using hu)
  · rw [List.lookup_cons, beq_eq_false_iff_ne.2 htu] at hu
    exact h u hu

/-- **The walk refutes no immutable reference**, however deep it goes and whatever it has met
before. -/
theorem checkImmutable_refutes (depth : Nat) :
    ∀ seen t, c.Spares scope rules seen →
      c.Spares scope rules (c.checkImmutable scope rules depth seen t).2 ∧
        ((c.checkImmutable scope rules depth seen t).1 = false →
          t ∉ c.immutableRefs scope rules) := by
  induction depth with
  | zero => exact fun seen t hseen => ⟨hseen, by simp [checkImmutable]⟩
  | succ depth ih =>
      intro seen t hseen
      rw [checkImmutable]
      cases hknown : seen.lookup t with
      | some verdict =>
          refine ⟨hseen, fun hfalse => hseen t ?_⟩
          rw [hknown]
          exact congrArg some hfalse
      | none =>
          have hopen : c.Spares scope rules ((t, true) :: seen) := hseen.cons (by simp)
          have hrefuted : ∀ {rule}, c.immutabilityRule scope rules t = rule →
              ¬ rule.Holds (c.immutableRefs scope rules) → t ∉ c.immutableRefs scope rules := by
            rintro rule rfl hfails ht
            exact hfails (mem_immutableRefs_iff.1 ht)
          cases hrule : c.immutabilityRule scope rules t with
          | settled verdict =>
              have hfalse : verdict = false → t ∉ c.immutableRefs scope rules := by
                rintro rfl
                exact hrefuted hrule Bool.false_ne_true
              exact ⟨hopen.cons hfalse, hfalse⟩
          | all parts =>
              obtain ⟨hrest, -, hfails⟩ := checkAll_invariant
                (R := fun u verdict => verdict = false → u ∉ c.immutableRefs scope rules)
                (fun u _ seen => ih seen u) _ hopen
              have hfalse := fun h => hrefuted hrule fun hall =>
                let ⟨u, hu, hnot⟩ := hfails h
                hnot rfl (hall u hu)
              exact ⟨hrest.cons hfalse, hfalse⟩
          | any parts =>
              obtain ⟨hrest, -, hfails⟩ := checkAny_invariant
                (R := fun u verdict => verdict = false → u ∉ c.immutableRefs scope rules)
                (fun u _ seen => ih seen u) _ hopen
              have hfalse := fun h => hrefuted hrule fun ⟨u, hu, hin⟩ => hfails h u hu rfl hin
              exact ⟨hrest.cons hfalse, hfalse⟩

/-- The check accepts every immutable reference. -/
theorem isImmutable_of_mem_immutableRefs {t : TypeRef} (h : t ∈ c.immutableRefs scope rules) :
    c.isImmutable scope rules t = true := by
  by_contra hfalse
  have hspares : c.Spares scope rules [] := by simp [Spares]
  exact (checkImmutable_refutes _ [] t hspares).2 (Bool.not_eq_true _ ▸ hfalse) h

/-! ### Where the verdicts are right -/

/-- One reference hangs on another by its rule. -/
def HangsOn (c : Compilation) (scope : List TypeParameter) (rules : ImmutabilityRules)
    (t u : TypeRef) : Prop :=
  u ∈ (c.immutabilityRule scope rules t).parts

/-- Everything that the check of a reference can meet, the reference included. -/
abbrev Reaches (c : Compilation) (scope : List TypeParameter) (rules : ImmutabilityRules) :
    TypeRef → TypeRef → Prop :=
  Relation.ReflTransGen (c.HangsOn scope rules)

/-- What a reference in reach hangs on is in reach. -/
theorem HangsOn.mem_refsInReach {t u v : TypeRef} (hu : u ∈ refsInReach scope t)
    (h : c.HangsOn scope rules u v) : v ∈ refsInReach scope t := by
  have hwithin : v ∈ u.within → v ∈ refsInReach scope t := within_subset_refsInReach hu
  have hwithinAll : ∀ {ts}, v ∈ ts → v ∈ TypeRef.withinAll ts :=
    fun hv => TypeRef.mem_withinAll.2 ⟨v, hv, v.self_mem_within⟩
  rw [HangsOn] at h
  cases u with
  | parameter name =>
      exact List.mem_append_right _ (hwithinAll (constraintsOf_subset scope name h))
  | array element rank =>
      refine hwithin ?_
      simp only [immutabilityRule] at h
      split at h
      · obtain rfl := List.mem_singleton.1 h
        exact List.mem_cons_of_mem _ v.self_mem_within
      · exact absurd h List.not_mem_nil
  | tuple elements => exact hwithin (List.mem_cons_of_mem _ (hwithinAll h))
  | named name args =>
      refine hwithin ?_
      simp only [immutabilityRule] at h
      split at h
      · exact absurd h List.not_mem_nil
      · split at h
        · exact List.mem_cons_of_mem _ (hwithinAll h)
        · exact absurd h List.not_mem_nil

/-- Everything that the check of a reference can meet is in reach. -/
theorem Reaches.mem_refsInReach {t u : TypeRef} (h : c.Reaches scope rules t u) :
    u ∈ refsInReach scope t := by
  induction h with
  | refl => exact self_mem_refsInReach scope t
  | tail _ hstep ih => exact HangsOn.mem_refsInReach ih hstep

/-! ### Circles that are immutable -/

/-- A record of verdicts along a path of references still being checked: these are taken for
immutable, and the verdicts on all others are right. -/
structure RightBut (c : Compilation) (scope : List TypeParameter) (rules : ImmutabilityRules)
    (path : List TypeRef) (seen : Verdicts) : Prop where
  assumed : ∀ o ∈ path, seen.lookup o = some true
  right : ∀ u verdict, seen.lookup u = some verdict → u ∉ path →
    (verdict = true ↔ u ∈ c.immutableRefs scope rules)

/-- A reference is taken for immutable when its check starts. -/
theorem RightBut.enter {path : List TypeRef} {seen : Verdicts}
    (h : c.RightBut scope rules path seen) (t : TypeRef) :
    c.RightBut scope rules (t :: path) ((t, true) :: seen) where
  assumed o ho := by
    by_cases hot : o = t
    · simp [hot]
    · rw [List.lookup_cons, beq_eq_false_iff_ne.2 hot]
      exact h.assumed o ((List.mem_cons.1 ho).resolve_left hot)
  right u v hu hpath := by
    obtain ⟨hut, hrest⟩ := not_or.1 (List.mem_cons.not.1 hpath)
    rw [List.lookup_cons, beq_eq_false_iff_ne.2 hut] at hu
    exact h.right u v hu hrest

/-- A check ends with its verdict recorded, which must be right. -/
theorem RightBut.leave {path : List TypeRef} {seen : Verdicts} {t : TypeRef} {verdict : Bool}
    (h : c.RightBut scope rules (t :: path) seen) (hfresh : t ∉ path)
    (ht : verdict = true ↔ t ∈ c.immutableRefs scope rules) :
    c.RightBut scope rules path ((t, verdict) :: seen) where
  assumed o ho := by
    have hot : o ≠ t := fun h => hfresh (h ▸ ho)
    rw [List.lookup_cons, beq_eq_false_iff_ne.2 hot]
    exact h.assumed o (List.mem_cons_of_mem _ ho)
  right u v hu hpath := by
    by_cases hut : u = t
    · subst hut
      obtain rfl : verdict = v := by simpa using hu
      exact ht
    · rw [List.lookup_cons, beq_eq_false_iff_ne.2 hut] at hu
      exact h.right u v hu fun hmem => (List.mem_cons.1 hmem).elim hut hpath

/-- **Where all circles are immutable the walk is right.** The references being checked are
distinct and in reach, so the depth suffices. One that is met again closes a circle, so it is
immutable as was assumed of it. -/
theorem checkImmutable_right {t : TypeRef}
    (hcircles : ∀ u, c.Reaches scope rules t u →
      Relation.TransGen (c.HangsOn scope rules) u u → u ∈ c.immutableRefs scope rules)
    (depth : Nat) :
    ∀ path x, path.Nodup → (∀ o ∈ path, o ∈ refsInReach scope t ∧
        Relation.TransGen (c.HangsOn scope rules) o x) →
      c.Reaches scope rules t x → (refsInReach scope t).length < depth + path.length →
      ∀ seen, c.RightBut scope rules path seen →
        c.RightBut scope rules path (c.checkImmutable scope rules depth seen x).2 ∧
          ((c.checkImmutable scope rules depth seen x).1 = true ↔
            x ∈ c.immutableRefs scope rules) := by
  induction depth with
  | zero =>
      intro path x hnodup hpath _ hroom
      have := (hnodup.subperm fun o ho => (hpath o ho).1).length_le
      omega
  | succ depth ih =>
      intro path x hnodup hpath hx hroom seen hseen
      rw [checkImmutable]
      cases hknown : seen.lookup x with
      | some verdict =>
          refine ⟨hseen, ?_⟩
          by_cases hmet : x ∈ path
          · obtain rfl : verdict = true :=
              Option.some.inj (hknown.symm.trans (hseen.assumed x hmet))
            exact iff_of_true rfl (hcircles x hx (hpath x hmet).2)
          · exact hseen.right x verdict hknown hmet
      | none =>
          have hfresh : x ∉ path := fun hmet => by simp [hseen.assumed x hmet] at hknown
          have hparts : ∀ u ∈ (c.immutabilityRule scope rules x).parts, ∀ seen,
              c.RightBut scope rules (x :: path) seen →
                c.RightBut scope rules (x :: path) (c.checkImmutable scope rules depth seen u).2 ∧
                  ((c.checkImmutable scope rules depth seen u).1 = true ↔
                    u ∈ c.immutableRefs scope rules) := by
            intro u hu
            refine ih (x :: path) u (List.nodup_cons.2 ⟨hfresh, hnodup⟩)
              (List.forall_mem_cons.2 ⟨⟨hx.mem_refsInReach, .single hu⟩, fun o ho => ?_⟩)
              (hx.tail hu) (by rw [List.length_cons]; omega)
            exact ⟨(hpath o ho).1, (hpath o ho).2.tail hu⟩
          have hopen : c.RightBut scope rules (x :: path) ((x, true) :: seen) := hseen.enter x
          have hright : ∀ {rule}, c.immutabilityRule scope rules x = rule →
              (x ∈ c.immutableRefs scope rules ↔ rule.Holds (c.immutableRefs scope rules)) := by
            rintro rule rfl
            exact mem_immutableRefs_iff
          cases hrule : c.immutabilityRule scope rules x with
          | settled verdict =>
              have hverdict : verdict = true ↔ x ∈ c.immutableRefs scope rules :=
                (hright hrule).symm
              exact ⟨hopen.leave hfresh hverdict, hverdict⟩
          | all parts =>
              rw [hrule] at hparts
              obtain ⟨hrest, hdecides⟩ := checkAll_decides hparts _ hopen
              have hverdict := hdecides.trans (hright hrule).symm
              exact ⟨hrest.leave hfresh hverdict, hverdict⟩
          | any parts =>
              rw [hrule] at hparts
              obtain ⟨hrest, hdecides⟩ := checkAny_decides hparts _ hopen
              have hverdict := hdecides.trans (hright hrule).symm
              exact ⟨hrest.leave hfresh hverdict, hverdict⟩

/-- A reference below which all circles are immutable gets the right verdict. -/
theorem isImmutable_iff_of_circles {t : TypeRef}
    (hcircles : ∀ u, c.Reaches scope rules t u →
      Relation.TransGen (c.HangsOn scope rules) u u → u ∈ c.immutableRefs scope rules) :
    c.isImmutable scope rules t = true ↔ t ∈ c.immutableRefs scope rules :=
  (checkImmutable_right hcircles (immutabilityDepth scope t) [] t List.nodup_nil (by simp) .refl
    (by simpa using length_refsInReach scope t) [] ⟨by simp, by simp⟩).2

/-- The check accepts every immutable reference. **It accepts only those** below a reference where
everything that runs in a circle is immutable, so also where nothing does, and in general exactly
where its verdicts agree with one step of the rule: where each reference is accepted just when its
rule is met by the references that are accepted when asked on their own. For a parameter that is:
just when one of its constraints is. -/
theorem isImmutable_iff_mem_immutableRefs_iff (c : Compilation) (scope : List TypeParameter)
    (rules : ImmutabilityRules) :
    (∀ t ∈ c.immutableRefs scope rules, c.isImmutable scope rules t = true) ∧
      (∀ t, (∀ u, c.Reaches scope rules t u →
          Relation.TransGen (c.HangsOn scope rules) u u → u ∈ c.immutableRefs scope rules) →
        (c.isImmutable scope rules t = true ↔ t ∈ c.immutableRefs scope rules)) ∧
      ∀ t, (∀ u, c.Reaches scope rules t u →
          (c.isImmutable scope rules u = true ↔ u ∈ c.immutableRefs scope rules)) ↔
        ∀ u, c.Reaches scope rules t u →
          (c.isImmutable scope rules u = true ↔
            (c.immutabilityRule scope rules u).Holds
              {v | c.isImmutable scope rules v = true}) := by
  refine ⟨fun t => isImmutable_of_mem_immutableRefs, fun t => isImmutable_iff_of_circles,
    fun t => ⟨fun h u hu => ?_, fun h => ?_⟩⟩
  · -- the references a reachable one hangs on are reachable, so the two sets agree on them
    have hparts : ∀ v ∈ (c.immutabilityRule scope rules u).parts,
        c.isImmutable scope rules v = true ↔ v ∈ c.immutableRefs scope rules :=
      fun v hv => h v (hu.tail hv)
    rw [h u hu, mem_immutableRefs_iff]
    exact ⟨fun hrule => hrule.congr fun v hv => (hparts v hv).2,
      fun hrule => hrule.congr fun v hv => (hparts v hv).1⟩
  · -- the accepted references among the reachable ones meet their rules among themselves
    have hclosed : {u | c.Reaches scope rules t u ∧ c.isImmutable scope rules u = true} ⊆
        c.immutableRefs scope rules := by
      refine subset_immutableRefs fun u hu => ?_
      exact ((h u hu.1).1 hu.2).congr fun v hv haccepted => ⟨hu.1.tail hv, haccepted⟩
    exact fun u hu => ⟨fun haccepted => hclosed ⟨hu, haccepted⟩, isImmutable_of_mem_immutableRefs⟩

/-- Three parameters, of which none is immutable: the tuple that `A` must be has the mutable
`object`, and `B` and `T` must be one of the others. -/
def circularScope : List TypeParameter :=
  [{ name := "A"
     constraints := [.tuple [.parameter "B", .named "System.Object" []]] },
    { name := "B", constraints := [.parameter "A"] },
    { name := "T", constraints := [.parameter "A", .parameter "B"] }]

/-- **A verdict outlives the assumption it was reached under.** While the check of `T` is at `A`,
it takes `A` for immutable and so accepts `B`; `A` is refuted in the end, but the acceptance of
`B` stays, and makes the check accept `T`, though neither of its two constraints is accepted when
asked on its own. -/
theorem stale_verdict_accepted :
    (Compilation.empty {}).isImmutable circularScope {} (.parameter "T") = true ∧
      (Compilation.empty {}).isImmutable circularScope {} (.parameter "A") = false ∧
      (Compilation.empty {}).isImmutable circularScope {} (.parameter "B") = false ∧
      .parameter "T" ∉ (Compilation.empty {}).immutableRefs circularScope {} := by
  refine ⟨by decide +kernel, by decide +kernel, by decide +kernel, fun hT => ?_⟩
  have hA : .parameter "A" ∉ (Compilation.empty {}).immutableRefs circularScope {} := fun h =>
    absurd (isImmutable_of_mem_immutableRefs h) (by decide +kernel)
  have hB : .parameter "B" ∉ (Compilation.empty {}).immutableRefs circularScope {} := fun h =>
    absurd (isImmutable_of_mem_immutableRefs h) (by decide +kernel)
  obtain ⟨u, hu, hin⟩ : (ImmutabilityRule.any [.parameter "A", .parameter "B"]).Holds _ :=
    mem_immutableRefs_iff.1 hT
  simp only [List.mem_cons, List.not_mem_nil, or_false] at hu
  obtain rfl | rfl := hu
  · exact hA hin
  · exact hB hin

end Companion.Compilation
