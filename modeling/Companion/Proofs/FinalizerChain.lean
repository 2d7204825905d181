import Companion.Proofs.BaseChain
import Companion.Proofs.Generation
import Companion.Proofs.LifecycleUnit
import Mathlib.Data.List.Chain

/-!
# One Finalizer for a Chain of Classes

Along a chain of classes the one nearest to the root is to declare the finalizer, and the others are
to override what it calls. A unit takes its class for the one nearest to the root when no base of it
declares a marked method, whether or not that method can be called. The units of the bases go by the
methods that can be called. So the two agree as long as the class that declares a marked method
nearest to the root has one that can be called, and one that derived classes can see.

## Main results

* `emitsFinalizer_iff`, `introducesFinalization_iff`, `overridesFinalization_iff`: what the unit of
  a class in a chain declares.
* `finalizesOnce_iff`: when a chain has one finalizer that runs the methods of all its classes.
* `no_finalizer_below_static_method`: a chain that has none.
-/

namespace Companion

open Piece

/-! ### What a unit declares -/

namespace LifecycleUnit

variable (u : LifecycleUnit)

/-- The header of the finalizer. -/
def finalizerHeader : String := "~" ++ u.definition.name ++ "()"

/-- The ways in which a unit declares an `OnFinalizing()` that derived classes can override. -/
inductive FinalizationForm where
  | introduced
  | overriding

/-- The header of the declaration. -/
def FinalizationForm.header : FinalizationForm → String
  | introduced => "protected virtual void OnFinalizing()"
  | overriding => "protected override void OnFinalizing()"

theorem isHookHeader_finalizerHeader : IsHookHeader u.finalizerHeader := by
  constructor
  · intro rest
    simp [finalizerHeader, String.append_assoc, ← String.toList_inj]
  · intro accessibility rest
    cases accessibility <;>
      simp [finalizerHeader, Accessibility.modifiers, String.append_assoc, ← String.toList_inj]

theorem isHookHeader_finalizationForm (form : FinalizationForm) : IsHookHeader form.header := by
  constructor
  · intro rest
    cases form <;> simp [FinalizationForm.header, ← String.toList_inj]
  · intro accessibility rest
    cases accessibility <;> cases form <;>
      simp [FinalizationForm.header, Accessibility.modifiers, ← String.toList_inj]

/-- The code of a unit hooks into finalization by the blocks of that part, if any method is to be
called. -/
theorem bodiesAll_code_of_not_mem_disposalHeaders {header : String} (h : IsHookHeader header)
    (hother : header ∉ disposalHeaders) :
    bodiesAll header u.code =
      if (u.methods .finalization).isEmpty then [] else bodiesAll header u.finalization := by
  rw [u.bodiesAll_code_of_isHookHeader h, u.bodiesAll_disposal_of_ne hother, List.nil_append]

/-- What a unit writes for finalization, with a base that is finalized and without one. -/
theorem bodiesAll_finalization (header : String) :
    bodiesAll header u.finalization =
      if u.compilation.finalizerBase? u.definition = none then
        (if u.finalizerHeader = header then [[.line "OnFinalizing();"]] else []) ++
          if u.hookModifiers ++ " void OnFinalizing()" = header then [u.calls .finalization] else []
      else if "protected override void OnFinalizing()" = header then
        [.line "base.OnFinalizing();" :: u.calls .finalization]
      else [] := by
  rw [finalization, finalizerHeader]
  cases u.compilation.finalizerBase? u.definition <;> simp

/-- **The finalizer is declared** where methods are to be called and no base seems to have one. -/
theorem bodies_finalizer_ne_nil_iff :
    bodiesAll u.finalizerHeader u.code ≠ [] ↔
      u.methods .finalization ≠ [] ∧ u.compilation.finalizerBase? u.definition = none := by
  have hother : u.finalizerHeader ∉ disposalHeaders := by
    simp [disposalHeaders, finalizerHeader, String.append_assoc, ← String.toList_inj]
  have hmodifiers : u.hookModifiers ++ " void OnFinalizing()" ≠ u.finalizerHeader := by
    rw [hookModifiers]
    cases u.definition.isSealed <;>
      simp [finalizerHeader, String.append_assoc, ← String.toList_inj]
  have hoverriding : "protected override void OnFinalizing()" ≠ u.finalizerHeader := by
    simp [finalizerHeader, String.append_assoc, ← String.toList_inj]
  rw [u.bodiesAll_code_of_not_mem_disposalHeaders u.isHookHeader_finalizerHeader hother,
    bodiesAll_finalization, if_pos rfl, if_neg hmodifiers, if_neg hoverriding]
  cases u.methods .finalization <;> simp

/-- The finalizer has a header of its own. -/
theorem finalizerHeader_ne (form : FinalizationForm) : u.finalizerHeader ≠ form.header := by
  cases form <;>
    simp [FinalizationForm.header, finalizerHeader, String.append_assoc, ← String.toList_inj]

/-- **`OnFinalizing()` is introduced** together with the finalizer. Derived classes can see it
unless the class is sealed. -/
theorem bodies_introducedFinalization_ne_nil_iff :
    bodiesAll FinalizationForm.introduced.header u.code ≠ [] ↔
      u.methods .finalization ≠ [] ∧ u.compilation.finalizerBase? u.definition = none ∧
        u.definition.isSealed = false := by
  rw [u.bodiesAll_code_of_not_mem_disposalHeaders (isHookHeader_finalizationForm _) (by decide),
    bodiesAll_finalization, if_neg (u.finalizerHeader_ne _), hookModifiers]
  cases u.definition.isSealed <;> cases u.methods .finalization <;>
    simp [FinalizationForm.header]

/-- **`OnFinalizing()` is overridden**, with a call to that of the base first, where methods are to
be called and a base seems to have the finalizer. -/
theorem bodies_overridingFinalization :
    bodiesAll FinalizationForm.overriding.header u.code =
      if u.methods .finalization ≠ [] ∧ u.compilation.finalizerBase? u.definition ≠ none then
        [.line "base.OnFinalizing();" :: u.calls .finalization]
      else [] := by
  rw [u.bodiesAll_code_of_not_mem_disposalHeaders (isHookHeader_finalizationForm _) (by decide),
    bodiesAll_finalization, if_neg (u.finalizerHeader_ne _), hookModifiers]
  cases u.definition.isSealed <;> cases u.methods .finalization <;>
    cases u.compilation.finalizerBase? u.definition <;> simp [FinalizationForm.header]

/-- A unit overrides finalization if it has methods to call, and a base to continue. -/
theorem bodies_overridingFinalization_ne_nil_iff :
    bodiesAll FinalizationForm.overriding.header u.code ≠ [] ↔
      u.methods .finalization ≠ [] ∧ u.compilation.finalizerBase? u.definition ≠ none := by
  rw [bodies_overridingFinalization]
  split <;> simp_all

/-- Nothing is declared for finalization where no method is to be called. -/
theorem methods_ne_nil_of_bodies_ne_nil {form : FinalizationForm}
    (h : bodiesAll form.header u.code ≠ []) : u.methods .finalization ≠ [] := by
  rw [u.bodiesAll_code_of_not_mem_disposalHeaders (isHookHeader_finalizationForm _)
    (by cases form <;> decide)] at h
  rintro hnone
  simp [hnone] at h

end LifecycleUnit

/-! ### Chains of classes -/

namespace Compilation

variable {c : Compilation}

/-- The strict bases of a type, at any distance. -/
abbrev HasBase (c : Compilation) : TypeDef → TypeDef → Prop := Relation.TransGen c.Derives

/-- Distinct classes of the sources, each of which derives from the next, with no type of the
sources above the last one. -/
structure IsClassChain (c : Compilation) (chain : List TypeDef) : Prop where
  mem_types : ∀ d ∈ chain, d ∈ c.types
  isClass : ∀ d ∈ chain, d.origin = .source ∧ d.kind = .class
  nodup : chain.Nodup
  derives : chain.IsChain c.Derives
  top : ∀ d ∈ chain.getLast?, ∀ a, c.HasBase d a → a.origin = .metadata

/-- A type that is not above itself has the types above it for its bases. -/
theorem mem_baseChain_iff_hasBase {d a : TypeDef} (hd : d ∈ c.types) (hacyclic : ¬ c.HasBase d d) :
    a ∈ c.baseChain d ↔ c.HasBase d a := by
  constructor
  · exact (baseWalk_baseChain hd).inherits rfl
  · intro h
    rcases List.mem_cons.1 ((mem_baseChain_iff hd).2 h.to_reflTransGen) with rfl | h'
    · exact absurd h hacyclic
    · exact h'

namespace IsClassChain

variable {chain below above : List TypeDef} {d a : TypeDef}

/-- What is left of a chain without its first class is a chain. -/
theorem of_append (h : c.IsClassChain (below ++ d :: above)) : c.IsClassChain (d :: above) where
  mem_types e he := h.mem_types e (List.mem_append_right _ he)
  isClass e he := h.isClass e (List.mem_append_right _ he)
  nodup := (List.nodup_append.1 h.nodup).2.1
  derives := h.derives.right_of_append
  top e he := h.top e (by rw [List.getLast?_append_of_ne_nil _ (List.cons_ne_nil _ _)]; exact he)

/-- Above a class of the chain are the classes behind it, and types compiled elsewhere. -/
theorem mem_or_of_hasBase : ∀ {above : List TypeDef} {d : TypeDef}, c.IsClassChain (d :: above) →
    c.HasBase d a → a ∈ above ∨ a.origin = .metadata := by
  intro above
  induction above with
  | nil => exact fun h ha => .inr (h.top _ rfl _ ha)
  | cons b above ih =>
      intro d h ha
      have hstep : c.Derives d b := (List.isChain_cons_cons.1 h.derives).1
      obtain ⟨b', hstep', hrest⟩ := Relation.TransGen.head'_iff.1 ha
      obtain rfl : b = b' := hstep.unique hstep'
      rcases Relation.reflTransGen_iff_eq_or_transGen.1 hrest with rfl | hbase
      · exact .inl List.mem_cons_self
      · have hsplit : c.IsClassChain ([d] ++ b :: above) := h
        exact (ih (of_append hsplit) hbase).imp_left (List.mem_cons_of_mem _)

/-- The classes behind a class of the chain are above it. -/
theorem hasBase_of_mem (h : c.IsClassChain (d :: above)) (ha : a ∈ above) : c.HasBase d a := by
  have hpairwise : (d :: above).Pairwise c.HasBase :=
    (h.derives.imp fun _ _ => Relation.TransGen.single).pairwise
  exact List.rel_of_pairwise_cons hpairwise ha

/-- No class of a chain is a base of its own. -/
theorem not_hasBase_self (h : c.IsClassChain (d :: above)) : ¬ c.HasBase d d := by
  intro hself
  rcases h.mem_or_of_hasBase hself with hmem | hmetadata
  · exact (List.nodup_cons.1 h.nodup).1 hmem
  · rw [(h.isClass d List.mem_cons_self).1] at hmetadata
    cases hmetadata

/-- **A class finds no base with a finalizer** when no class behind it in the chain declares a
marked method. -/
theorem finalizerBase?_eq_none_iff (h : c.IsClassChain (below ++ d :: above)) :
    c.finalizerBase? d = none ↔ ∀ a ∈ above, a.declaresLifecycle .finalization = false := by
  have h' := h.of_append
  simp only [finalizerBase?, List.find?_eq_none, TypeDef.receivesLifecycle, Bool.and_eq_true,
    beq_iff_eq, not_and, Bool.not_eq_true,
    mem_baseChain_iff_hasBase (h'.mem_types d List.mem_cons_self) h'.not_hasBase_self]
  constructor
  · intro hnone a ha
    exact hnone a (h'.hasBase_of_mem ha) (h'.isClass a (List.mem_cons_of_mem _ ha)).1
  · intro hnone a ha hsource
    rcases h'.mem_or_of_hasBase ha with hmem | hmetadata
    · exact hnone a hmem
    · rw [hsource] at hmetadata
      cases hmetadata

end IsClassChain

/-! ### What the units of a chain declare -/

/-- Whether a class has a method to be called when its instances are finalized. -/
def HasFinalizers (c : Compilation) (d : TypeDef) : Prop :=
  (c.lifecycleUnit d).methods .finalization ≠ []

/-- Whether a class gets a unit that declares the finalizer. -/
def EmitsFinalizer (c : Compilation) (d : TypeDef) : Prop :=
  d.requestsLifecycle = true ∧
    bodiesAll (c.lifecycleUnit d).finalizerHeader (c.lifecycleUnit d).code ≠ []

/-- Whether a class gets a unit that declares an `OnFinalizing()` of the form. -/
def EmitsFinalization (c : Compilation) (d : TypeDef) (form : LifecycleUnit.FinalizationForm) :
    Prop :=
  d.requestsLifecycle = true ∧ bodiesAll form.header (c.lifecycleUnit d).code ≠ []

/-- Whether a class gets a unit that overrides `OnFinalizing()` and calls that of the base first. -/
def OverridesFinalization (c : Compilation) (d : TypeDef) : Prop :=
  d.requestsLifecycle = true ∧
    ∃ body ∈ bodiesAll LifecycleUnit.FinalizationForm.overriding.header (c.lifecycleUnit d).code,
      ∃ rest, body = .line "base.OnFinalizing();" :: rest

/-- Whether one unit of a chain declares the finalizer, that of the class nearest to the root among
those with methods to be called, and all others of these classes override an `OnFinalizing()` that
a unit above them lets them override. -/
def FinalizesOnce (c : Compilation) (chain : List TypeDef) : Prop :=
  ∃ below root above, chain = below ++ root :: above ∧ c.HasFinalizers root ∧
    (∀ a ∈ above, ¬ c.HasFinalizers a) ∧ (∀ d ∈ chain, c.EmitsFinalizer d ↔ d = root) ∧
    ∀ d ∈ chain, c.HasFinalizers d → d ≠ root →
      c.OverridesFinalization d ∧ ∃ a ∈ c.baseChain d, ∃ form, c.EmitsFinalization a form

/-- An override of `OnFinalizing()` calls that of the base first. -/
theorem emitsFinalization_overriding_iff {d : TypeDef} :
    c.EmitsFinalization d .overriding ↔ c.OverridesFinalization d := by
  rw [EmitsFinalization, OverridesFinalization, LifecycleUnit.bodies_overridingFinalization]
  split <;> simp

/-- A method to be called is a marked one. -/
theorem HasFinalizers.declaresLifecycle {d : TypeDef} (h : c.HasFinalizers d) :
    d.declaresLifecycle .finalization = true := by
  obtain ⟨m, hm⟩ := List.exists_mem_of_ne_nil _ h
  have hmarked : m ∈ d.lifecycleMethods .finalization := List.mem_of_mem_filter hm
  obtain ⟨hmethod, hmarks⟩ := List.mem_filter.1 hmarked
  exact List.any_eq_true.2 ⟨m, hmethod, hmarks⟩

/-- A class without marked methods has none to call. -/
theorem not_hasFinalizers_of_unmarked {d : TypeDef}
    (h : d.declaresLifecycle .finalization = false) : ¬ c.HasFinalizers d :=
  fun hcalled => Bool.false_ne_true (h.symm.trans hcalled.declaresLifecycle)

namespace IsClassChain

variable {chain below above : List TypeDef} {d a : TypeDef}

/-- A class of a chain with methods to be called gets a unit. -/
theorem requestsLifecycle (h : c.IsClassChain chain) (hd : d ∈ chain)
    (hcalled : c.HasFinalizers d) : d.requestsLifecycle = true := by
  obtain ⟨hsource, hclass⟩ := h.isClass d hd
  simp [TypeDef.requestsLifecycle, hsource, hclass, LifecycleKind.all, hcalled.declaresLifecycle]

/-- **The finalizer is declared** by a class with methods to be called and no marked method behind
it. -/
theorem emitsFinalizer_iff (h : c.IsClassChain (below ++ d :: above)) :
    c.EmitsFinalizer d ↔
      c.HasFinalizers d ∧ ∀ a ∈ above, a.declaresLifecycle .finalization = false := by
  rw [EmitsFinalizer, LifecycleUnit.bodies_finalizer_ne_nil_iff, ← h.finalizerBase?_eq_none_iff]
  exact ⟨And.right, fun hboth => ⟨h.requestsLifecycle (by simp) hboth.1, hboth⟩⟩

/-- **`OnFinalizing()` is introduced** by the same class, for derived classes to see unless it is
sealed. -/
theorem introducesFinalization_iff (h : c.IsClassChain (below ++ d :: above)) :
    c.EmitsFinalization d .introduced ↔
      c.HasFinalizers d ∧ (∀ a ∈ above, a.declaresLifecycle .finalization = false) ∧
        d.isSealed = false := by
  rw [EmitsFinalization, LifecycleUnit.bodies_introducedFinalization_ne_nil_iff,
    ← h.finalizerBase?_eq_none_iff]
  exact ⟨And.right, fun hall => ⟨h.requestsLifecycle (by simp) hall.1, hall⟩⟩

/-- **`OnFinalizing()` is overridden** by a class with methods to be called and a marked method
behind it, and that of the base is called first. -/
theorem overridesFinalization_iff (h : c.IsClassChain (below ++ d :: above)) :
    c.OverridesFinalization d ↔
      c.HasFinalizers d ∧ ¬ ∀ a ∈ above, a.declaresLifecycle .finalization = false := by
  rw [← emitsFinalization_overriding_iff, EmitsFinalization,
    LifecycleUnit.bodies_overridingFinalization_ne_nil_iff, ← h.finalizerBase?_eq_none_iff]
  exact ⟨And.right, fun hboth => ⟨h.requestsLifecycle (by simp) hboth.1, hboth⟩⟩

end IsClassChain

/-- A class with an `OnFinalizing()` that derived classes can override has methods to be called. -/
theorem EmitsFinalization.hasFinalizers {d : TypeDef} {form : LifecycleUnit.FinalizationForm}
    (h : c.EmitsFinalization d form) : c.HasFinalizers d :=
  LifecycleUnit.methods_ne_nil_of_bodies_ne_nil _ h.2

/-- A class that declares the finalizer has methods to be called. -/
theorem EmitsFinalizer.hasFinalizers {d : TypeDef} (h : c.EmitsFinalizer d) : c.HasFinalizers d :=
  ((c.lifecycleUnit d).bodies_finalizer_ne_nil_iff.1 h.2).1

/-- A type compiled elsewhere has no unit. -/
theorem not_emitsFinalization_of_metadata {a : TypeDef} (h : a.origin = .metadata)
    (form : LifecycleUnit.FinalizationForm) : ¬ c.EmitsFinalization a form := by
  rintro ⟨hrequests, -⟩
  simp [TypeDef.requestsLifecycle, h] at hrequests

/-- Of the members of a list with a property there is a last one. -/
theorem exists_last_of_exists_mem {α : Type} {p : α → Prop} {l : List α} (h : ∃ a ∈ l, p a) :
    ∃ before a after, l = before ++ a :: after ∧ p a ∧ ∀ b ∈ after, ¬ p b := by
  induction l with
  | nil => simp at h
  | cons x l ih =>
      by_cases hrest : ∃ a ∈ l, p a
      · obtain ⟨before, a, after, rfl, ha, hlast⟩ := ih hrest
        exact ⟨x :: before, a, after, rfl, ha, hlast⟩
      · obtain ⟨a, ha, hpa⟩ := h
        rcases List.mem_cons.1 ha with rfl | ha
        · exact ⟨[], a, l, rfl, hpa, fun b hb hpb => hrest ⟨b, hb, hpb⟩⟩
        · exact absurd ⟨a, ha, hpa⟩ hrest

namespace IsClassChain

variable {below above : List TypeDef} {top d : TypeDef}

/-- **The root of a chain that is finalized once** is its last class with a marked method: one
nearer to the leaf sees that method, and one nearer to the root has none to call. -/
theorem hasFinalizers_of_finalizesOnce (h : c.IsClassChain (below ++ top :: above))
    (hmarked : top.declaresLifecycle .finalization = true)
    (hlast : ∀ a ∈ above, a.declaresLifecycle .finalization = false)
    (honce : c.FinalizesOnce (below ++ top :: above)) : c.HasFinalizers top := by
  obtain ⟨before, root, after, hsplit, hroot, -, hfinalizer, -⟩ := honce
  have hmem : root ∈ below ++ top :: above := by simp [hsplit]
  have hemits : c.EmitsFinalizer root := (hfinalizer root hmem).2 rfl
  rcases List.mem_append.1 hmem with hbelow | htop
  · obtain ⟨first, between, rfl⟩ := List.append_of_mem hbelow
    simp only [List.append_assoc, List.cons_append] at h
    obtain ⟨-, hunmarked⟩ := h.emitsFinalizer_iff.1 hemits
    rw [hunmarked top (by simp)] at hmarked
    cases hmarked
  · rcases List.mem_cons.1 htop with rfl | habove
    · exact hroot
    · exact absurd hroot (not_hasFinalizers_of_unmarked (hlast root habove))

/-- **A sealed root leaves nothing to override.** Of the classes before it with methods to be called
the one nearest to it would override an `OnFinalizing()` that no class behind declares. -/
theorem not_hasFinalizers_of_isSealed (h : c.IsClassChain (below ++ top :: above))
    (hmarked : top.declaresLifecycle .finalization = true)
    (hlast : ∀ a ∈ above, a.declaresLifecycle .finalization = false)
    (honce : c.FinalizesOnce (below ++ top :: above)) (hsealed : top.isSealed = true) :
    ∀ d ∈ below, ¬ c.HasFinalizers d := by
  intro e he hcalled
  obtain ⟨first, d, between, rfl, hd, hnone⟩ := exists_last_of_exists_mem ⟨e, he, hcalled⟩
  simp only [List.append_assoc, List.cons_append] at h honce
  have hmem : d ∈ first ++ d :: (between ++ top :: above) := by simp
  obtain ⟨before, root, after, hsplit, -, -, hfinalizer, hoverrides⟩ := honce
  have hne : d ≠ root := by
    intro hroot
    obtain ⟨-, hunmarked⟩ := h.emitsFinalizer_iff.1 ((hfinalizer d hmem).2 hroot)
    rw [hunmarked top (by simp)] at hmarked
    cases hmarked
  obtain ⟨-, a, ha, form, hemits⟩ := hoverrides d hmem hd hne
  have hbehind := (mem_baseChain_iff_hasBase (h.mem_types d hmem) h.of_append.not_hasBase_self).1 ha
  rcases h.of_append.mem_or_of_hasBase hbehind with hchain | hmetadata
  · rcases List.mem_append.1 hchain with hbetween | htop
    · exact hnone a hbetween hemits.hasFinalizers
    · rcases List.mem_cons.1 htop with rfl | habove
      · have htop : c.IsClassChain ((first ++ d :: between) ++ a :: above) := by simpa using h
        cases form with
        | introduced =>
            obtain ⟨-, -, hopen⟩ := htop.introducesFinalization_iff.1 hemits
            rw [hopen] at hsealed
            cases hsealed
        | overriding =>
            rw [emitsFinalization_overriding_iff, htop.overridesFinalization_iff] at hemits
            exact hemits.2 hlast
      · exact not_hasFinalizers_of_unmarked (hlast a habove) hemits.hasFinalizers
  · exact not_emitsFinalization_of_metadata hmetadata form hemits

/-- **An open root is enough.** The classes before it with methods to be called see its marked
method, and override what it introduces. -/
theorem finalizesOnce_of_hasFinalizers (h : c.IsClassChain (below ++ top :: above))
    (hlast : ∀ a ∈ above, a.declaresLifecycle .finalization = false)
    (htop : c.HasFinalizers top)
    (hopen : top.isSealed = false ∨ ∀ d ∈ below, ¬ c.HasFinalizers d) :
    c.FinalizesOnce (below ++ top :: above) := by
  have hunmarked : ∀ a ∈ above, ¬ c.HasFinalizers a :=
    fun a ha => not_hasFinalizers_of_unmarked (hlast a ha)
  have hsees : ∀ d ∈ below, ∃ first between, below = first ++ d :: between ∧
      c.IsClassChain (first ++ d :: (between ++ top :: above)) := by
    intro d hd
    obtain ⟨first, between, rfl⟩ := List.append_of_mem hd
    exact ⟨first, between, rfl, by simpa using h⟩
  refine ⟨below, top, above, rfl, htop, hunmarked, ?_, ?_⟩
  · intro d hd
    constructor
    · intro hemits
      rcases List.mem_append.1 hd with hbelow | hrest
      · obtain ⟨first, between, -, hd⟩ := hsees d hbelow
        have hnone := (hd.emitsFinalizer_iff.1 hemits).2 top (by simp)
        exact absurd htop (not_hasFinalizers_of_unmarked hnone)
      · rcases List.mem_cons.1 hrest with rfl | habove
        · rfl
        · exact absurd hemits.hasFinalizers (hunmarked d habove)
    · rintro rfl
      exact h.emitsFinalizer_iff.2 ⟨htop, hlast⟩
  · intro d hd hcalled hne
    have hbelow : d ∈ below := by
      rcases List.mem_append.1 hd with hbelow | hrest
      · exact hbelow
      · rcases List.mem_cons.1 hrest with rfl | habove
        · exact absurd rfl hne
        · exact absurd hcalled (hunmarked d habove)
    obtain ⟨first, between, -, hd⟩ := hsees d hbelow
    have hoverrides : c.OverridesFinalization d := by
      refine hd.overridesFinalization_iff.2 ⟨hcalled, fun hnone => ?_⟩
      exact not_hasFinalizers_of_unmarked (hnone top (by simp)) htop
    have hopen : top.isSealed = false := hopen.resolve_right fun hnone => hnone d hbelow hcalled
    refine ⟨hoverrides, top, ?_, .introduced, ?_⟩
    · exact (mem_baseChain_iff_hasBase (hd.mem_types d (by simp)) hd.of_append.not_hasBase_self).2
        (hd.of_append.hasBase_of_mem (by simp))
    · exact h.introducesFinalization_iff.2 ⟨htop, hlast, hopen⟩

end IsClassChain

/-- **When a chain is finalized once.** Of the classes of a chain that declare a marked method let
`top` be the one nearest to the root. The chain has one finalizer, which runs the methods of all its
classes, exactly when `top` has a method that can be called, and is not sealed unless it is the only
class that has one. -/
theorem finalizesOnce_iff {chain : List TypeDef} (hchain : c.IsClassChain chain)
    (hcalled : ∃ d ∈ chain, c.HasFinalizers d) :
    ∃ below top above, chain = below ++ top :: above ∧
      top.declaresLifecycle .finalization = true ∧
      (∀ a ∈ above, a.declaresLifecycle .finalization = false) ∧
      (c.FinalizesOnce chain ↔
        c.HasFinalizers top ∧ (top.isSealed = false ∨ ∀ d ∈ below, ¬ c.HasFinalizers d)) := by
  have hmarked : ∃ d ∈ chain, d.declaresLifecycle .finalization = true :=
    hcalled.imp fun _ h => ⟨h.1, h.2.declaresLifecycle⟩
  obtain ⟨below, top, above, rfl, htop, hlast⟩ := exists_last_of_exists_mem hmarked
  simp only [Bool.not_eq_true] at hlast
  refine ⟨below, top, above, rfl, htop, hlast, ?_⟩
  constructor
  · intro honce
    refine ⟨hchain.hasFinalizers_of_finalizesOnce htop hlast honce, ?_⟩
    cases hsealed : top.isSealed with
    | false => exact .inl rfl
    | true => exact .inr (hchain.not_hasFinalizers_of_isSealed htop hlast honce hsealed)
  · rintro ⟨hcallable, hopen⟩
    exact hchain.finalizesOnce_of_hasFinalizers hlast hcallable hopen

/-! ### Chains of two classes -/

/-- Whether a class has methods to be called is told by its own members. -/
theorem hasFinalizers_iff {d : TypeDef} :
    c.HasFinalizers d ↔
      (d.lifecycleMethods .finalization).any (fun m =>
        (m.lifecycleProblem? .finalization d.qualifiedName).isNone) = true := by
  simp [HasFinalizers, lifecycleUnit, LifecycleUnit.methods]

/-- A class with a method marked for finalization, which cannot be called if it is static. -/
def finalizedClass (name : String) (base : Option String) (isStatic : Bool) : TypeDef where
  «namespace» := "Shop"
  name := name
  isPartial := true
  baseType := base.map (.named · [])
  members := [.method {
    name := "Collect" ++ name
    isStatic := isStatic
    attributes := [{ className := Vocabulary.finalizerMethod }] }]

def finalizedRoot (isStatic : Bool) : TypeDef := finalizedClass "Root" none isStatic

def finalizedLeaf : TypeDef := finalizedClass "Leaf" (some "Shop.Root") false

def finalizedProgram (isStatic : Bool) : Program :=
  .onSmallCore [finalizedRoot isStatic, finalizedLeaf]

/-- `Leaf` and `Root` are a chain. -/
theorem exists_isClassChain (isStatic : Bool) :
    ∃ c, ofProgram (finalizedProgram isStatic) = .ok c ∧
      c.IsClassChain [finalizedLeaf, finalizedRoot isStatic] := by
  obtain ⟨c, hc, htypes⟩ := exists_ofProgram_eq_ok (p := finalizedProgram isStatic)
    (by cases isStatic <;> decide +kernel)
  have hroot : finalizedRoot isStatic ∈ c.types := by
    rw [htypes]
    simp [declaredTypes, finalizedProgram, Program.onSmallCore]
  have hleaf : finalizedLeaf ∈ c.types := by
    rw [htypes]
    simp [declaredTypes, finalizedProgram, Program.onSmallCore]
  have hstep : c.Derives finalizedLeaf (finalizedRoot isStatic) := by
    change c.resolve? (.named "Shop.Root" []) = some (finalizedRoot isStatic)
    exact resolve?_eq_some_iff.2 ⟨hroot, by cases isStatic <;> decide +kernel⟩
  refine ⟨c, hc, ?_, ?_, ?_, ?_, ?_⟩
  · simp [hleaf, hroot]
  · simp [finalizedLeaf, finalizedRoot, finalizedClass]
  · simp [finalizedLeaf, finalizedRoot, finalizedClass]
  · simpa using hstep
  · rintro d hd a ha
    obtain rfl : finalizedRoot isStatic = d := by simpa using hd
    obtain ⟨b, hb, -⟩ := Relation.TransGen.head'_iff.1 ha
    cases hb

/-- Where both methods can be called, the chain is finalized once. -/
theorem finalized_leaf_root :
    ∃ c, ofProgram (finalizedProgram false) = .ok c ∧
      c.IsClassChain [finalizedLeaf, finalizedRoot false] ∧
      c.HasFinalizers finalizedLeaf ∧ c.FinalizesOnce [finalizedLeaf, finalizedRoot false] := by
  obtain ⟨c, hc, hchain⟩ := exists_isClassChain false
  have hleaf : c.HasFinalizers finalizedLeaf := hasFinalizers_iff.2 (by decide +kernel)
  have hroot : c.HasFinalizers (finalizedRoot false) := hasFinalizers_iff.2 (by decide +kernel)
  obtain ⟨below, top, above, hsplit, -, hlast, honce⟩ :=
    finalizesOnce_iff hchain ⟨_, List.mem_cons_self, hleaf⟩
  have htop : top = finalizedRoot false := by
    rcases below with _ | ⟨first, _ | ⟨second, below⟩⟩
    · obtain ⟨rfl, rfl⟩ := List.cons.inj hsplit
      exact absurd hroot (not_hasFinalizers_of_unmarked (hlast _ List.mem_cons_self))
    · exact (List.cons.inj (List.cons.inj hsplit).2).1.symm
    · simp at hsplit
  refine ⟨c, hc, hchain, hleaf, honce.2 ?_⟩
  rw [htop]
  exact ⟨hroot, .inl rfl⟩

/-- **A chain without a finalizer.** The marked method of `Root` is static and is refused; the unit
of `Leaf` leaves the finalizer to `Root` and overrides an `OnFinalizing()` that nothing declares. -/
theorem no_finalizer_below_static_method :
    ∃ c, ofProgram (finalizedProgram true) = .ok c ∧
      c.IsClassChain [finalizedLeaf, finalizedRoot true] ∧
      (∃ d ∈ [finalizedLeaf, finalizedRoot true], c.HasFinalizers d) ∧
      (∀ d ∈ [finalizedLeaf, finalizedRoot true], ¬ c.EmitsFinalizer d) ∧
      c.OverridesFinalization finalizedLeaf ∧
      (∀ a ∈ c.baseChain finalizedLeaf, ∀ form, ¬ c.EmitsFinalization a form) ∧
      ¬ c.FinalizesOnce [finalizedLeaf, finalizedRoot true] := by
  obtain ⟨c, hc, hchain⟩ := exists_isClassChain true
  have hnearest : c.IsClassChain ([] ++ finalizedLeaf :: [finalizedRoot true]) := hchain
  have hleaf : c.HasFinalizers finalizedLeaf := hasFinalizers_iff.2 (by decide +kernel)
  have hroot : ¬ c.HasFinalizers (finalizedRoot true) :=
    fun hcalled => absurd (hasFinalizers_iff.1 hcalled) (by decide +kernel)
  have hmarked : ¬ ∀ a ∈ [finalizedRoot true], a.declaresLifecycle .finalization = false :=
    fun hnone => absurd (hnone _ List.mem_cons_self) (by decide +kernel)
  have hfinalizer : ∀ d ∈ [finalizedLeaf, finalizedRoot true], ¬ c.EmitsFinalizer d := by
    intro d hd hemits
    obtain rfl | rfl : d = finalizedLeaf ∨ d = finalizedRoot true := by simpa using hd
    · exact hmarked (hnearest.emitsFinalizer_iff.1 hemits).2
    · exact hroot hemits.hasFinalizers
  have hbases : ∀ a ∈ c.baseChain finalizedLeaf, ∀ form, ¬ c.EmitsFinalization a form := by
    intro a ha form hemits
    have habove := (mem_baseChain_iff_hasBase (hchain.mem_types _ List.mem_cons_self)
      hchain.not_hasBase_self).1 ha
    rcases hchain.mem_or_of_hasBase habove with hmem | hmetadata
    · rw [List.mem_singleton.1 hmem] at hemits
      exact hroot hemits.hasFinalizers
    · exact not_emitsFinalization_of_metadata hmetadata form hemits
  refine ⟨c, hc, hchain, ⟨_, List.mem_cons_self, hleaf⟩, hfinalizer,
    hnearest.overridesFinalization_iff.2 ⟨hleaf, hmarked⟩, hbases, ?_⟩
  rintro ⟨below, root, above, hsplit, -, -, honce, -⟩
  have hmem : root ∈ [finalizedLeaf, finalizedRoot true] := by simp [hsplit]
  exact hfinalizer root hmem ((honce root hmem).2 rfl)

end Compilation

end Companion
