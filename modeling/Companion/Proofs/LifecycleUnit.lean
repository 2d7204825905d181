import Companion.Lifecycle.Unit
import Companion.Proofs.GeneratedCode

/-!
# The Hooks of a Lifecycle Unit

A lifecycle unit opens its class again and declares `Initialize` and the hooks into disposal and
finalization. The blocks of a hook are found in the part that writes the hook: the headers of the
class and of `Initialize` begin in ways of their own.

## Main results

* `bodiesAll_code_of_isHookHeader`: the blocks of a hook in the code of a unit.
* `bodiesAll_disposal_of_ne`, `bodiesAll_finalization_of_ne`: the headers that either part has.
-/

namespace Companion.LifecycleUnit

open Piece

variable (u : LifecycleUnit)

/-- Whether a header is neither that of a class nor that of `Initialize`. -/
def IsHookHeader (header : String) : Prop :=
  (∀ rest, "private void Initialize(" ++ rest ≠ header) ∧
    ∀ (accessibility : Accessibility) (rest : String),
      accessibility.modifiers ++ " partial class " ++ rest ≠ header

/-- Calls open no block. -/
@[simp] theorem bodiesAll_calls (header : String) (kind : LifecycleKind) :
    bodiesAll header (u.calls kind) = [] := by
  simp [calls, bodiesAll_eq_flatMap]

@[simp] theorem bodiesAll_overrideSummary (header : String) :
    bodiesAll header u.overrideSummary = [] :=
  bodiesAll_summary header _

/-- The headers of the part that hooks into disposal. -/
def disposalHeaders : List String :=
  ["public void Dispose()", "private void Dispose(bool disposing)",
    "protected virtual void Dispose(bool disposing)",
    "protected override void Dispose(bool disposing)", "public override void Dispose()",
    "if (disposing)"]

/-- The code for disposal opens no blocks but those of disposal. -/
theorem bodiesAll_disposal_of_ne {header : String} (h : header ∉ disposalHeaders) :
    bodiesAll header u.disposal = [] := by
  simp only [disposalHeaders, List.mem_cons, List.not_mem_nil, or_false, not_or,
    @eq_comm _ header] at h
  obtain ⟨hplain, hprivate, hvirtual, hpattern, hoverride, hguard⟩ := h
  have hmodifiers : u.hookModifiers ++ " void Dispose(bool disposing)" ≠ header := by
    rw [hookModifiers]
    cases u.definition.isSealed with
    | true => exact hprivate
    | false => exact hvirtual
  rw [disposal]
  split <;> simp [guardedCalls, hplain, hmodifiers, hpattern, hoverride, hguard]

/-- The headers of the part that hooks into finalization. -/
def finalizationHeaders : List String :=
  ["~" ++ u.definition.name ++ "()", "private void OnFinalizing()",
    "protected virtual void OnFinalizing()", "protected override void OnFinalizing()"]

/-- The code for finalization opens no blocks but those of finalization. -/
theorem bodiesAll_finalization_of_ne {header : String} (h : header ∉ u.finalizationHeaders) :
    bodiesAll header u.finalization = [] := by
  simp only [finalizationHeaders, List.mem_cons, List.not_mem_nil, or_false, not_or,
    @eq_comm _ header] at h
  obtain ⟨hfinalizer, hprivate, hvirtual, hoverride⟩ := h
  have hmodifiers : u.hookModifiers ++ " void OnFinalizing()" ≠ header := by
    rw [hookModifiers]
    cases u.definition.isSealed with
    | true => exact hprivate
    | false => exact hvirtual
  rw [finalization]
  split <;> simp [hfinalizer, hmodifiers, hoverride]

/-- Calls of construction methods are no hook. -/
theorem bodiesAll_initialization {header : String} (h : IsHookHeader header) :
    bodiesAll header u.initialization = [] := by
  have hcalls : ∀ methods : List Method, bodiesAll header
      (methods.map fun m => .line (m.invocation (namedArguments m))) = [] := by
    simp [bodiesAll_eq_flatMap]
  simp [initialization, String.append_assoc, h.1, hcalls]

/-- The header of the class is not that of a hook. -/
theorem header_ne {header : String} (h : IsHookHeader header) : u.header ≠ header := by
  have hheader : u.header = u.definition.accessibility.modifiers ++ " partial class " ++
      (u.definition.nameWithGenerics ++
        if u.hook? = some .own then " : global::System.IDisposable" else "") := by
    simp only [LifecycleUnit.header, String.append_assoc]
  rw [hheader]
  exact h.2 _ _

/-- **The blocks of a hook** in the code of a unit are those of its disposal and of its
finalization. -/
theorem bodiesAll_code_of_isHookHeader {header : String} (h : IsHookHeader header) :
    bodiesAll header u.code =
      bodiesAll header u.disposal ++
        if (u.methods .finalization).isEmpty then [] else bodiesAll header u.finalization := by
  have hproblems : bodiesAll header (u.problems.map .diagnostic) = [] := by
    simp [bodiesAll_eq_flatMap]
  have hgap : bodiesAll header (if u.problems.isEmpty then [] else [.blank]) = [] := by
    split <;> simp
  have hconstruction : bodiesAll header
      (if (u.methods .construction).isEmpty then [] else u.initialization) = [] := by
    split
    · exact bodiesAll_nil _
    · exact u.bodiesAll_initialization h
  have hfinalization : bodiesAll header
      (if (u.methods .finalization).isEmpty then [] else u.finalization) =
      if (u.methods .finalization).isEmpty then [] else bodiesAll header u.finalization := by
    split
    · exact bodiesAll_nil _
    · rfl
  have htop : bodiesAll header (unitHeader .lifecycle ["System"]) = [] := by
    simp [unitHeader]
  simp only [code, bodiesAll_append, bodiesAll_cons, bodiesAll_nil, bodies_inNamespace,
    bodies_braces, if_neg (u.header_ne h), bodiesAll_separated, List.flatMap_cons,
    List.flatMap_nil, htop, hproblems, hgap, hconstruction, hfinalization, List.nil_append,
    List.append_nil]

end Companion.LifecycleUnit
