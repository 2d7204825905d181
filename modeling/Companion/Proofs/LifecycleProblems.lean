import Companion.Lifecycle.Unit
import Companion.Proofs.GeneratedCode

/-!
# The Problems of a Lifecycle Unit

A marked method that cannot be called is refused: it is static, or it is to be called without
arguments and for no result and has a parameter or a result. A refusal names the kind of the mark
and the method, so the refusals of a kind are told apart from all other problems of the unit.

## Main results

* `LifecycleKind.isSome_lifecycleProblem?`: which marked methods are refused.
* `LifecycleUnit.forall₂_methodProblems`, `LifecycleUnit.filter_isRefusal_problems`: each refused
  method has one problem, and the unit has no other refusals.
* `LifecycleUnit.disposeNotOverridable_mem_iff`: when disposal cannot hook into the bases.
* `LifecycleUnit.diagnosticsAll_code`: the problems at the top of the unit are all that it has.
-/

namespace Companion

open Piece

/-! ### Which methods can be called -/

namespace LifecycleKind

/-- Whether a marked method cannot be called: it is static, or it is to be called without arguments
and for no result, and has parameters or a result. -/
def refuses (kind : LifecycleKind) (m : Method) : Bool :=
  m.isStatic ||
    (kind != .construction && (!m.parameters.isEmpty || !m.returnType.isNamed "System.Void"))

/-- Whether a problem is that a method marked for the kind cannot be called. -/
def isRefusal (kind : LifecycleKind) (found : Diagnostic) : Bool :=
  (found.code == .lifecycleStatic || found.code == .lifecycleSignature) &&
    (kind.label ++ " method ").toList.isPrefixOf found.message.toList

/-- Whether a problem of a type is that the method, marked for the kind, cannot be called. -/
structure Refuses (kind : LifecycleKind) (d : TypeDef) (m : Method) (found : Diagnostic) :
    Prop where
  isError : found.severity = .error
  code : found.code = if m.isStatic then .lifecycleStatic else .lifecycleSignature
  message : (kind.label ++ " method " ++ d.qualifiedName ++ "." ++ m.name ++ " ").toList <+:
    found.message.toList
  location : found.location = (m.location <|> d.location)

/-- A method has a problem exactly when it cannot be called. -/
theorem isSome_lifecycleProblem? (kind : LifecycleKind) (m : Method) (owner : String) :
    (m.lifecycleProblem? kind owner).isSome = kind.refuses m := by
  rw [Method.lifecycleProblem?, refuses]
  cases m.isStatic <;> cases kind <;> cases m.parameters.isEmpty <;>
    cases m.returnType.isNamed "System.Void" <;> rfl

/-- The problem with a method names it, behind the mark of the kind. -/
theorem of_lifecycleProblem? {kind : LifecycleKind} {m : Method} {owner : String}
    {code : DiagnosticCode} {message : String}
    (h : m.lifecycleProblem? kind owner = some (code, message)) :
    code = (if m.isStatic then .lifecycleStatic else .lifecycleSignature) ∧
      (kind.label ++ " method " ++ owner ++ "." ++ m.name ++ " ").toList <+: message.toList := by
  have hnamed : ∀ reason : String, " ".toList <+: reason.toList →
      message = kind.label ++ " method " ++ owner ++ "." ++ m.name ++ reason →
      (kind.label ++ " method " ++ owner ++ "." ++ m.name ++ " ").toList <+: message.toList := by
    rintro reason hreason rfl
    rw [String.toList_append (t := " "), String.toList_append (t := reason)]
    exact (List.prefix_append_right_inj _).2 hreason
  rw [Method.lifecycleProblem?] at h
  cases hstatic : m.isStatic with
  | true =>
      simp only [hstatic, if_true, Option.some.injEq, Prod.mk.injEq] at h
      exact ⟨h.1.symm, hnamed _ (by simp) h.2.symm⟩
  | false =>
      simp only [hstatic, Bool.false_eq_true, if_false] at h
      split_ifs at h
      · obtain ⟨rfl, hmessage⟩ := Prod.mk.inj (Option.some.inj h)
        exact ⟨rfl, hnamed _ (by simp) hmessage.symm⟩
      · obtain ⟨rfl, hmessage⟩ := Prod.mk.inj (Option.some.inj h)
        exact ⟨rfl, hnamed _ (by simp) hmessage.symm⟩

/-- The marks of the kinds tell their problems apart. -/
theorem eq_of_label_prefix {kind kind' : LifecycleKind} {s : List Char}
    (h : (kind.label ++ " method ").toList <+: s) (h' : (kind'.label ++ " method ").toList <+: s) :
    kind = kind' := by
  rcases List.prefix_or_prefix_of_prefix h h' with hprefix | hprefix
  · revert hprefix
    cases kind <;> cases kind' <;> decide
  · revert hprefix
    cases kind <;> cases kind' <;> decide

/-- The problem with a method is a refusal of its kind only. -/
theorem Refuses.isRefusal_iff {kind kind' : LifecycleKind} {d : TypeDef} {m : Method}
    {found : Diagnostic} (h : kind'.Refuses d m found) :
    kind.isRefusal found = true ↔ kind = kind' := by
  have hcode : kind.isRefusal found =
      (kind.label ++ " method ").toList.isPrefixOf found.message.toList := by
    rw [isRefusal, h.code]
    cases m.isStatic <;> rfl
  have hlabel : (kind'.label ++ " method ").toList <+: found.message.toList := by
    refine List.IsPrefix.trans ?_ h.message
    simp only [String.append_assoc, String.toList_append (s := kind'.label)]
    exact (List.prefix_append_right_inj _).2 (by simp)
  rw [hcode, List.isPrefixOf_iff_prefix]
  constructor
  · exact fun hprefix => eq_of_label_prefix hprefix hlabel
  · rintro rfl
    exact hlabel

end LifecycleKind

namespace LifecycleUnit

variable (u : LifecycleUnit)

/-! ### The problems of a unit -/

/-- The problem with a marked method. -/
theorem refuses_of_mem {kind : LifecycleKind} {m : Method} {code : DiagnosticCode}
    {message : String}
    (h : m.lifecycleProblem? kind u.definition.qualifiedName = some (code, message)) :
    kind.Refuses u.definition m
      (u.definition.problem .lifecycle .error code message m.location) where
  isError := rfl
  code := (LifecycleKind.of_lifecycleProblem? h).1
  message := (LifecycleKind.of_lifecycleProblem? h).2
  location := rfl

/-- **Each marked method that cannot be called has its problem**, in their order. -/
theorem forall₂_methodProblems (kind : LifecycleKind) :
    List.Forall₂ (kind.Refuses u.definition)
      ((u.definition.lifecycleMethods kind).filter kind.refuses) (u.methodProblems kind) := by
  refine forall₂_filter_filterMap (fun m => ?_) (fun m found h => ?_) _
  · rw [Option.isSome_map, kind.isSome_lifecycleProblem?]
  · obtain ⟨_, hproblem, rfl⟩ := Option.map_eq_some_iff.1 h
    exact u.refuses_of_mem hproblem

/-- Each problem with the methods of a kind refuses one of them. -/
theorem exists_refuses_of_mem {kind : LifecycleKind} {found : Diagnostic}
    (h : found ∈ u.methodProblems kind) : ∃ m, kind.Refuses u.definition m found := by
  obtain ⟨m, -, hfound⟩ := List.mem_filterMap.1 h
  obtain ⟨_, hproblem, rfl⟩ := Option.map_eq_some_iff.1 hfound
  exact ⟨m, u.refuses_of_mem hproblem⟩

/-- **The refusals of a kind** among the problems of a unit are those of its marked methods. -/
theorem filter_isRefusal_problems (kind : LifecycleKind) :
    u.problems.filter kind.isRefusal = u.methodProblems kind := by
  have hmethods : ∀ kind', (u.methodProblems kind').filter kind.isRefusal =
      if kind' = kind then u.methodProblems kind else [] := by
    intro kind'
    split
    · next hsame =>
        subst hsame
        rw [List.filter_eq_self]
        intro found hfound
        obtain ⟨m, hm⟩ := u.exists_refuses_of_mem hfound
        exact hm.isRefusal_iff.2 rfl
    · next hother =>
        rw [List.filter_eq_nil_iff]
        intro found hfound
        obtain ⟨m, hm⟩ := u.exists_refuses_of_mem hfound
        rw [hm.isRefusal_iff]
        exact fun hsame => hother hsame.symm
  have hpartial : (if u.definition.isPartial then []
      else
        [u.definition.problem .lifecycle .warning .lifecycleNotPartial
          ("You should add the partial modifier to the class " ++ u.definition.qualifiedName ++
            ".")]).filter kind.isRefusal = [] := by
    split
    · rfl
    · exact List.filter_cons_of_neg (by simp [LifecycleKind.isRefusal])
  have hconflicts : ((parameterConflicts (u.methods .construction)).map u.conflictProblem).filter
      kind.isRefusal = [] := by
    simp [List.filter_eq_nil_iff, LifecycleKind.isRefusal, conflictProblem]
  have hhook : u.hookProblems.filter kind.isRefusal = [] := by
    rw [hookProblems]
    split
    · exact List.filter_cons_of_neg (by simp [LifecycleKind.isRefusal])
    · rfl
  simp only [problems, List.filter_append, hpartial, hconflicts, hhook,
    hmethods, List.nil_append, List.append_nil, LifecycleKind.all, List.flatMap_cons,
    List.flatMap_nil]
  cases kind <;> simp

/-- A unit says that disposal cannot hook into the bases exactly when it cannot. -/
theorem disposeNotOverridable_mem_iff :
    (∃ found ∈ u.problems, found.code = .disposeNotOverridable) ↔
      ∃ base, u.hook? = some (.blocked base) := by
  constructor
  · rintro ⟨found, hfound, hcode⟩
    simp only [problems, List.mem_append, List.mem_flatMap, List.mem_map] at hfound
    rcases hfound with ((hfound | ⟨kind, -, hfound⟩) | ⟨conflict, -, rfl⟩) | hfound
    · split at hfound
      · cases hfound
      · obtain rfl := List.mem_singleton.1 hfound
        cases hcode
    · obtain ⟨m, hm⟩ := u.exists_refuses_of_mem hfound
      rw [hm.code] at hcode
      split at hcode <;> cases hcode
    · cases hcode
    · rw [hookProblems] at hfound
      split at hfound
      · next base hhook => exact ⟨base, hhook⟩
      · cases hfound
  · rintro ⟨base, hhook⟩
    have hreported : u.hookProblems ≠ [] := by
      rw [hookProblems, hhook]
      exact List.cons_ne_nil _ _
    obtain ⟨found, hfound⟩ := List.exists_mem_of_ne_nil _ hreported
    refine ⟨found, List.mem_append_right _ hfound, ?_⟩
    rw [hookProblems, hhook] at hfound
    rw [List.mem_singleton.1 hfound]
    rfl

/-- Calls embed no diagnostic. -/
@[simp] theorem codes_calls (kind : LifecycleKind) : codes (u.calls kind) = [] := by
  simp [calls]

@[simp] theorem codes_overrideSummary : codes u.overrideSummary = [] :=
  codes_summary _

/-- The code below the problems reports none. -/
theorem diagnosticsAll_code : diagnosticsAll u.code = u.problems := by
  have htop : diagnosticsAll (unitHeader .lifecycle ["System"]) = [] :=
    diagnosticsAll_eq_nil (by simp [unitHeader])
  have hgap : diagnosticsAll (if u.problems.isEmpty then [] else [.blank]) = [] :=
    diagnosticsAll_eq_nil (by split <;> simp)
  have hconstruction : codes u.initialization = [] := by
    simp [initialization]
  have hdisposal : codes u.disposal = [] := by
    rw [disposal]
    split <;> simp [guardedCalls]
  have hfinalization : codes u.finalization = [] := by
    rw [finalization]
    split <;> simp
  have hclass : diagnosticsAll [.inNamespace u.definition.namespace
      [.braces u.header
        (separated
          [if (u.methods .construction).isEmpty then [] else u.initialization,
            u.disposal,
            if (u.methods .finalization).isEmpty then [] else u.finalization])]] = [] := by
    refine diagnosticsAll_eq_nil ?_
    cases (u.methods .construction).isEmpty <;> cases (u.methods .finalization).isEmpty <;>
      simp [hconstruction, hdisposal, hfinalization]
  rw [code, diagnosticsAll_append, diagnosticsAll_append, diagnosticsAll_append, htop, hgap,
    hclass, diagnosticsAll_map_diagnostic, List.nil_append, List.append_nil, List.append_nil]

end LifecycleUnit

end Companion
