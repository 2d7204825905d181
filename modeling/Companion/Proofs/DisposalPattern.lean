import Companion.Proofs.BaseChain
import Companion.Proofs.Generation
import Companion.Proofs.LifecycleUnit
import Companion.Proofs.Text

/-!
# Overriding the Disposal of a Base

A lifecycle unit that overrides `Dispose(bool)` relies on a base for the method. The base is found
by what it looks like: it declares the method, or it is a class of the sources at hand with a
method marked for disposal. In the second case the method is to come from the unit of the base, and
that unit declares one only if some marked method can be called, if the base is a class, and if the
disposal of the base does not in turn hook into a plain `Dispose()` above it.

## Main results

* `overridesPattern_iff`, `declares_iff`: which `Dispose(bool)` a unit declares, and when.
* `exists_patternBase`: the base whose `Dispose(bool)` is overridden.
* `pattern_provided_iff`: when that base has one.
* `pattern_missing_below_plain_dispose`: a run in which it has none.
-/

namespace Companion

/-- The ways in which a unit declares a `Dispose(bool)` that derived classes can override. -/
inductive PatternForm where
  | introduced
  | overriding

/-- The header of the declaration. -/
def PatternForm.header : PatternForm → String
  | introduced => "protected virtual void Dispose(bool disposing)"
  | overriding => "protected override void Dispose(bool disposing)"

namespace LifecycleUnit

open Piece

variable (u : LifecycleUnit)

/-- Whether the unit declares a `Dispose(bool)` of the form. -/
def Declares (form : PatternForm) : Prop := bodiesAll form.header u.code ≠ []

/-- Whether the unit overrides `Dispose(bool)` of a base and calls it. -/
def OverridesPattern : Prop :=
  ∃ body ∈ bodiesAll PatternForm.overriding.header u.code,
    ∃ rest, body = .line "base.Dispose(disposing);" :: rest

/-! ### What a unit declares -/

/-- The calls under the guard are no body of a method of the pattern. -/
@[simp] theorem bodies_guardedCalls (form : PatternForm) :
    bodies form.header u.guardedCalls = [] := by
  have hheader : "if (disposing)" ≠ form.header := by cases form <;> decide
  simp [guardedCalls, hheader]

/-- Neither form is declared by the header of a class or of `Initialize`. -/
theorem isHookHeader_patternForm (form : PatternForm) : IsHookHeader form.header := by
  constructor
  · intro rest
    cases form <;> simp [PatternForm.header, ← String.toList_inj]
  · intro accessibility rest
    cases accessibility <;> cases form <;>
      simp [PatternForm.header, Accessibility.modifiers, ← String.toList_inj]

/-- A unit declares what its disposal does. -/
theorem bodiesAll_code (form : PatternForm) :
    bodiesAll form.header u.code = bodiesAll form.header u.disposal := by
  have hfinalizer : ∀ rest, form.header ≠ "~" ++ rest := by
    intro rest
    cases form <;> simp [PatternForm.header, ← String.toList_inj]
  have hother : form.header ∉ u.finalizationHeaders := by
    simp only [finalizationHeaders, String.append_assoc, List.mem_cons, hfinalizer, false_or]
    cases form <;> decide
  rw [u.bodiesAll_code_of_isHookHeader (isHookHeader_patternForm form),
    u.bodiesAll_finalization_of_ne hother, ite_self, List.append_nil]

/-- **A unit introduces the method** when the class disposes of something on its own and may be
derived from. -/
theorem bodies_introduced :
    bodiesAll PatternForm.introduced.header u.code =
      if u.hook? = some .own ∧ u.definition.isSealed = false then [[u.guardedCalls]] else [] := by
  have hplain : "public void Dispose()" ≠ PatternForm.introduced.header := by decide
  have hpattern : "protected override void Dispose(bool disposing)" ≠
      PatternForm.introduced.header := by decide
  have hoverride : "public override void Dispose()" ≠ PatternForm.introduced.header := by decide
  rw [bodiesAll_code, disposal]
  rcases hhook : u.hook? with _ | hook
  · simp
  · cases hook with
    | own =>
        cases hsealed : u.definition.isSealed with
        | true =>
            have hprivate : "private void Dispose(bool disposing)" ≠
                PatternForm.introduced.header := by decide
            simp [hookModifiers, hsealed, hplain, hprivate]
        | false =>
            have hvirtual : "protected virtual void Dispose(bool disposing)" =
                PatternForm.introduced.header := rfl
            simp [hookModifiers, hsealed, hplain, hvirtual]
    | overridePattern base => simp [hpattern]
    | overrideMethod base => simp [hoverride]
    | blocked base => simp

/-- **A unit overrides the method** when the disposal of the class hooks into that of a base. -/
theorem bodies_overriding :
    bodiesAll PatternForm.overriding.header u.code =
      match u.hook? with
      | some (.overridePattern _) => [[.line "base.Dispose(disposing);", u.guardedCalls]]
      | _ => [] := by
  have hplain : "public void Dispose()" ≠ PatternForm.overriding.header := by decide
  have hmodifiers : u.hookModifiers ++ " void Dispose(bool disposing)" ≠
      PatternForm.overriding.header := by
    rw [hookModifiers]
    cases u.definition.isSealed <;> decide
  have hpattern : "protected override void Dispose(bool disposing)" =
      PatternForm.overriding.header := rfl
  have hoverride : "public override void Dispose()" ≠ PatternForm.overriding.header := by decide
  rw [bodiesAll_code, disposal]
  rcases hhook : u.hook? with _ | hook
  · simp
  · cases hook with
    | own => simp [hplain, hmodifiers]
    | overridePattern base => simp [hpattern]
    | overrideMethod base => simp [hoverride]
    | blocked base => simp

/-- A unit overrides the pattern when that is how it hooks into a base. -/
theorem overridesPattern_iff :
    u.OverridesPattern ↔ ∃ base, u.hook? = some (.overridePattern base) := by
  rw [OverridesPattern, bodies_overriding]
  split
  · next base hhook => simp [hhook]
  · next hother =>
      refine ⟨fun ⟨body, hbody, _⟩ => absurd hbody List.not_mem_nil, fun ⟨base, hhook⟩ => ?_⟩
      exact absurd hhook (hother base)

/-- **Which `Dispose(bool)` a unit declares**: one of its own, or an override of that of a base. -/
theorem exists_declares_iff :
    (∃ form, u.Declares form) ↔
      (u.hook? = some .own ∧ u.definition.isSealed = false) ∨
        ∃ base, u.hook? = some (.overridePattern base) := by
  have hintroduced : u.Declares .introduced ↔
      u.hook? = some .own ∧ u.definition.isSealed = false := by
    rw [Declares, bodies_introduced]
    simp
  have hoverriding : u.Declares .overriding ↔ ∃ base, u.hook? = some (.overridePattern base) := by
    rw [Declares, bodies_overriding]
    split
    · next base hhook => simp [hhook]
    · next hother => simpa using hother
  constructor
  · rintro ⟨_ | _, hdeclares⟩
    · exact .inl (hintroduced.1 hdeclares)
    · exact .inr (hoverriding.1 hdeclares)
  · rintro (h | h)
    · exact ⟨.introduced, hintroduced.2 h⟩
    · exact ⟨.overriding, hoverriding.2 h⟩

/-- A unit hooks into the bases if it has methods to call. -/
theorem hook?_eq_some_iff {hook : DisposeHook} :
    u.hook? = some hook ↔
      u.methods .disposal ≠ [] ∧ u.compilation.disposeHook u.definition = hook := by
  rw [hook?]
  split <;> simp_all

end LifecycleUnit

/-! ### The base whose method is overridden -/

/-- Whether the type declares a `Dispose(bool)` that derived classes can override. -/
def TypeDef.DeclaresPattern (d : TypeDef) : Prop :=
  ∃ m ∈ d.methods, m.isDisposePattern = true ∧ m.isOverridable = true

/-- A hook into the `Dispose(bool)` of a type names the type, which receives generated disposal or
declares the method. -/
theorem TypeDef.of_patternHook {b : TypeDef} {name : String}
    (h : b.patternHook? = some (.overridePattern name)) :
    name = b.selfDisplay ∧ (b.receivesLifecycle .disposal = true ∨ b.DeclaresPattern) := by
  rw [patternHook?] at h
  split at h
  · next hreceives =>
      obtain rfl : b.selfDisplay = name := by simpa using h
      exact ⟨rfl, .inl hreceives⟩
  · obtain ⟨m, hm, hhook⟩ := Option.map_eq_some_iff.1 h
    split at hhook
    · next hoverridable =>
        obtain rfl : b.selfDisplay = name := by simpa using hhook
        exact ⟨rfl, .inr ⟨m, List.mem_of_find?_eq_some hm, List.find?_some hm, hoverridable⟩⟩
    · cases hhook

/-- The method of a type by itself is never taken for the pattern. -/
theorem TypeDef.methodHook?_ne (b : TypeDef) (name : String) :
    b.methodHook? ≠ some (.overridePattern name) := by
  intro h
  obtain ⟨m, -, hhook⟩ := Option.map_eq_some_iff.1 h
  split at hhook <;> cases hhook

namespace Compilation

/-- The nearest base that has or receives a `Dispose(bool)`. -/
def patternBase? (c : Compilation) (d : TypeDef) : Option TypeDef :=
  (c.baseChain d).find? (·.patternHook?.isSome)

variable {c : Compilation}

/-- **The base whose `Dispose(bool)` is overridden** is the nearest one that has or receives the
method. -/
theorem exists_patternBase {d : TypeDef} {name : String}
    (h : c.disposeHook d = .overridePattern name) :
    ∃ b, c.patternBase? d = some b ∧ name = b.selfDisplay ∧
      (b.receivesLifecycle .disposal = true ∨ b.DeclaresPattern) := by
  rw [disposeHook] at h
  cases hfirst : (c.baseChain d).findSome? (·.patternHook?) with
  | some hook =>
      obtain rfl : hook = .overridePattern name := by simpa [hfirst] using h
      obtain ⟨before, b, after, hchain, hhook, hbefore⟩ := List.findSome?_eq_some_iff.1 hfirst
      refine ⟨b, ?_, TypeDef.of_patternHook hhook⟩
      refine List.find?_eq_some_iff_append.2 ⟨by simp [hhook], before, after, hchain, ?_⟩
      intro a ha
      simp [hbefore a ha]
  | none =>
      exfalso
      cases hsecond : (c.baseChain d).findSome? (·.methodHook?) with
      | none => simp [hfirst, hsecond] at h
      | some hook =>
          obtain rfl : hook = .overridePattern name := by simpa [hfirst, hsecond] using h
          obtain ⟨b, -, hhook⟩ := List.exists_of_findSome?_eq_some hsecond
          exact b.methodHook?_ne name hhook

/-- Whether a run gives derived classes a `Dispose(bool)` of the type to override: the type
declares one, or the unit that the run generates for it does. -/
def ProvidesPattern (c : Compilation) (config : Config) (g : Generation) (b : TypeDef) : Prop :=
  b.DeclaresPattern ∨
    b ∈ (Plan.of c config).lifecycle ∧ c.lifecycleArtifact b ∈ g.artifacts ∧
      ∃ form, (c.lifecycleUnit b).Declares form

end Compilation

/-- **When an overridden `Dispose(bool)` is there.** A target whose unit overrides `Dispose(bool)`
names the nearest base that has or receives the method. The run gives that base one exactly when
the base declares it, or is a class with a disposal method that can be called, whose own disposal
either overrides `Dispose(bool)` again or hooks into no base, with a class that is not sealed. -/
theorem pattern_provided_iff {c : Compilation} {engine : PatternEngine} {config : Config}
    {g : Generation} (hconfig : Config.resolve c engine = .ok config)
    (h : generate c engine = .ok g) {d : TypeDef}
    (hd : d ∈ (Plan.of c config).lifecycle)
    (hoverrides : (c.lifecycleUnit d).OverridesPattern) :
    c.lifecycleArtifact d ∈ g.artifacts ∧
      ∃ b ∈ c.baseChain d, c.patternBase? d = some b ∧
        c.disposeHook d = .overridePattern b.selfDisplay ∧
        (c.ProvidesPattern config g b ↔
          b.DeclaresPattern ∨
            b.kind = .class ∧ (c.lifecycleUnit b).methods .disposal ≠ [] ∧
              (c.disposeHook b = .own ∧ b.isSealed = false ∨
                ∃ name, c.disposeHook b = .overridePattern name)) := by
  obtain ⟨name, hhook⟩ := (LifecycleUnit.overridesPattern_iff _).1 hoverrides
  have hdispose : c.disposeHook d = .overridePattern name :=
    ((LifecycleUnit.hook?_eq_some_iff _).1 hhook).2
  obtain ⟨b, hbase, rfl, hhas⟩ := Compilation.exists_patternBase hdispose
  have hchain : b ∈ c.baseChain d := List.mem_of_find?_eq_some hbase
  refine ⟨Plan.artifact_mem .lifecycle hconfig h hd, b, hchain, hbase, hdispose, ?_⟩
  have hdeclares : (∃ form, (c.lifecycleUnit b).Declares form) ↔
      (c.lifecycleUnit b).methods .disposal ≠ [] ∧
        (c.disposeHook b = .own ∧ b.isSealed = false ∨
          ∃ name, c.disposeHook b = .overridePattern name) := by
    simp only [LifecycleUnit.exists_declares_iff, LifecycleUnit.hook?_eq_some_iff,
      exists_and_left, ← and_or_left, and_assoc]
    rfl
  constructor
  · rintro (hdeclared | ⟨htarget, -, hunit⟩)
    · exact .inl hdeclared
    · have hclass : b.kind = .class := by
        have hrequests := (Plan.mem_select.1 htarget).2.2
        simp only [TypeDef.requestsLifecycle, Bool.and_eq_true, beq_iff_eq] at hrequests
        exact hrequests.1.2
      exact .inr ⟨hclass, hdeclares.1 hunit⟩
  · rintro (hdeclared | ⟨hclass, hunit⟩)
    · exact .inl hdeclared
    · rcases hhas with hreceives | hdeclared
      · have htypes : b ∈ c.types := by
          have hd' : d ∈ c.types := (Plan.mem_select.1 hd).1
          have hinherits : c.Inherits d b :=
            (Compilation.mem_baseChain_iff hd').1 (List.mem_cons_of_mem d hchain)
          exact hinherits.mem_types hd'
        simp only [TypeDef.receivesLifecycle, Bool.and_eq_true, beq_iff_eq] at hreceives
        have htarget : b ∈ (Plan.of c config).lifecycle := by
          refine Plan.mem_select.2 ⟨htypes, hreceives.1, ?_⟩
          simp [TypeDef.requestsLifecycle, hreceives.1, hclass, LifecycleKind.all, hreceives.2]
        exact .inr ⟨htarget, Plan.artifact_mem .lifecycle hconfig h htarget, hdeclares.2 hunit⟩
      · exact .inl hdeclared

/-- A class with a method to be called on disposal. -/
def disposingClass (name : String) (base : Option String) : TypeDef where
  «namespace» := "Shop"
  name := name
  isPartial := true
  baseType := base.map (.named · [])
  members := [.method {
    name := "Release" ++ name
    attributes := [{ className := Vocabulary.disposeMethod }] }]

/-- A class compiled elsewhere with a `Dispose()` to override. -/
def plainlyDisposable : TypeDef :=
  { Program.stub "Lib" "Resource" with
    members := [.method { name := "Dispose", accessibility := .public, isVirtual := true }] }

/-- The unit of `Middle` introduces the method that the unit of `Leaf` overrides. -/
theorem pattern_provided_by_generated_base :
    ∃ c config g leaf middle,
      Compilation.ofProgram (.onSmallCore [disposingClass "Middle" none,
        disposingClass "Leaf" (some "Shop.Middle")]) = .ok c ∧
      Config.resolve c = .ok config ∧ generate c = .ok g ∧
      leaf ∈ (Plan.of c config).lifecycle ∧ (c.lifecycleUnit leaf).OverridesPattern ∧
      c.patternBase? leaf = some middle ∧ middle.name = "Middle" ∧
      c.ProvidesPattern config g middle := by
  obtain ⟨c, config, g, hc, hconfig, hg, hcheck⟩ :=
    Program.exists_run (.onSmallCore [disposingClass "Middle" none,
        disposingClass "Leaf" (some "Shop.Middle")])
      (fun c _ _ => (c.type? "Shop.Leaf").any fun leaf =>
        (c.patternBase? leaf).any fun (middle : TypeDef) =>
          decide (leaf.origin = .source ∧ leaf.requestsLifecycle = true ∧
            (c.lifecycleUnit leaf).hook? = some (.overridePattern middle.selfDisplay) ∧
            middle.name = "Middle" ∧ middle.kind = .class ∧ middle.isSealed = false ∧
            (c.lifecycleUnit middle).hook? = some .own))
      (by decide +kernel)
  obtain ⟨leaf, hleaf, hcheck⟩ := (Option.any_eq_true _ _).1 hcheck
  obtain ⟨middle, hmiddle, hcheck⟩ := (Option.any_eq_true _ _).1 hcheck
  obtain ⟨hsource, hrequests, hhook, hname, hclass, hopen, hown⟩ := of_decide_eq_true hcheck
  have htarget : leaf ∈ (Plan.of c config).lifecycle :=
    Plan.mem_select.2 ⟨(Compilation.type?_eq_some_iff.1 hleaf).1, hsource, hrequests⟩
  have hoverrides : (c.lifecycleUnit leaf).OverridesPattern :=
    (LifecycleUnit.overridesPattern_iff _).2 ⟨_, hhook⟩
  obtain ⟨hcallable, hdispose⟩ := (LifecycleUnit.hook?_eq_some_iff _).1 hown
  obtain ⟨-, b, -, hbase, -, hprovided⟩ := pattern_provided_iff hconfig hg htarget hoverrides
  obtain rfl : b = middle := Option.some.inj (hbase.symm.trans hmiddle)
  exact ⟨c, config, g, leaf, b, hc, hconfig, hg, htarget, hoverrides, hmiddle, hname,
    hprovided.2 (.inr ⟨hclass, hcallable, .inl ⟨hdispose, hopen⟩⟩)⟩

/-- **An override of nothing.** `Middle` overrides the plain `Dispose()` of `Resource`, and its
unit declares no `Dispose(bool)`; the unit of `Leaf` overrides one of `Middle` all the same. No
problem is reported. -/
theorem pattern_missing_below_plain_dispose :
    ∃ c config g leaf middle,
      Compilation.ofProgram (.onSmallCore [plainlyDisposable,
        disposingClass "Middle" (some "Lib.Resource"),
        disposingClass "Leaf" (some "Shop.Middle")]) = .ok c ∧
      Config.resolve c = .ok config ∧ generate c = .ok g ∧ g.diagnostics = [] ∧
      leaf ∈ (Plan.of c config).lifecycle ∧ (c.lifecycleUnit leaf).OverridesPattern ∧
      c.disposeHook leaf = .overridePattern middle.selfDisplay ∧
      c.patternBase? leaf = some middle ∧ middle.name = "Middle" ∧
      ¬ c.ProvidesPattern config g middle := by
  obtain ⟨c, config, g, hc, hconfig, hg, hcheck⟩ :=
    Program.exists_run (.onSmallCore [plainlyDisposable,
        disposingClass "Middle" (some "Lib.Resource"),
        disposingClass "Leaf" (some "Shop.Middle")])
      (fun c _ g => (c.type? "Shop.Leaf").any fun leaf =>
        (c.patternBase? leaf).any fun (middle : TypeDef) =>
          decide (g.diagnostics = [] ∧ leaf.origin = .source ∧ leaf.requestsLifecycle = true ∧
            (c.lifecycleUnit leaf).hook? = some (.overridePattern middle.selfDisplay) ∧
            middle.name = "Middle" ∧ (∀ m ∈ middle.methods, m.isDisposePattern = false) ∧
            (c.lifecycleUnit middle).hook? = some (.overrideMethod "global::Lib.Resource")))
      (by decide +kernel)
  obtain ⟨leaf, hleaf, hcheck⟩ := (Option.any_eq_true _ _).1 hcheck
  obtain ⟨middle, hmiddle, hcheck⟩ := (Option.any_eq_true _ _).1 hcheck
  obtain ⟨hclean, hsource, hrequests, hhook, hname, hnone, hplain⟩ := of_decide_eq_true hcheck
  refine ⟨c, config, g, leaf, middle, hc, hconfig, hg, hclean,
    Plan.mem_select.2 ⟨(Compilation.type?_eq_some_iff.1 hleaf).1, hsource, hrequests⟩,
    (LifecycleUnit.overridesPattern_iff _).2 ⟨_, hhook⟩,
    ((LifecycleUnit.hook?_eq_some_iff _).1 hhook).2, hmiddle, hname, ?_⟩
  rintro (⟨m, hm, hpattern, -⟩ | ⟨-, -, hunit⟩)
  · exact absurd hpattern (by rw [hnone m hm]; exact Bool.false_ne_true)
  · rw [LifecycleUnit.exists_declares_iff, hplain] at hunit
    simp at hunit

end Companion
