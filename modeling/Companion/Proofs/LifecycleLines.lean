import Companion.Lifecycle.Unit
import Companion.Proofs.GeneratedLines
import Companion.Proofs.MergedParameters
import Companion.Proofs.ModelTexts

/-!
# The Lines of a Lifecycle Unit

A lifecycle unit names its class, the methods it calls and their parameters. A default value is
taken as the model spells it; in a model without line feeds it has none, and neither has any line
of the unit.

## Main results

* `Method.isLine_invocation`: the calls.
* `LifecycleUnit.writtenAll_code`: the lines of the unit.
-/

namespace Companion

open Piece

variable {names : List String}

/-! ### Parameters and calls -/

/-- A parameter is written on one line if its texts are. -/
theorem LifecycleUnit.oneLine_parameterCode {p : Parameter} (h : OneLines p.texts) :
    OneLine (parameterCode p) := by
  simp only [Parameter.texts, oneLines_append, oneLines_cons] at h
  have hdefault : OneLine ((p.defaultValue.map (" = " ++ ·)).getD "") := by
    cases hvalue : p.defaultValue with
    | none => exact oneLine_empty
    | some value =>
        have hvalue : OneLine value := h.2 value (by simp [hvalue])
        exact oneLine_append.2 ⟨.fixed rfl, hvalue⟩
  have htype := TypeRef.oneLine_display h.1.2
  rw [parameterCode]
  simp (disch := exact Fixed.of rfl) [htype, h.1.1, hdefault]

/-- The arguments of a call are written on one line. -/
theorem LifecycleUnit.oneLine_namedArguments {m : Method}
    (h : ∀ p ∈ m.parameters, OneLines p.texts) : OneLine (namedArguments m) := by
  refine OneLine.join (.fixed rfl) ?_
  simp only [List.forall_mem_map]
  intro p hp
  have htexts := h p hp
  simp only [Parameter.texts, oneLines_append, oneLines_cons] at htexts
  simp (disch := exact Fixed.of rfl) [htexts.1.1]

/-- The call of a method, also through an interface. -/
theorem Method.isLine_invocation {m : Method} (hname : OneLine m.name)
    (hinterface : ∀ t ∈ m.explicitInterface, OneLines t.texts) {arguments : String}
    (harguments : OneLine arguments) : IsLine names (m.invocation arguments) := by
  rw [invocation]
  split
  · next contract hcontract =>
      have hdisplay := TypeRef.oneLine_display (hinterface contract hcontract)
      have hlast : OneLine ((Text.split '.' m.name).getLast?.getD m.name) := by
        cases hpiece : (Text.split '.' m.name).getLast? with
        | none => exact hname
        | some piece => exact hname.of_mem_split (List.mem_of_getLast? hpiece)
      simp (disch := exact Fixed.of rfl) [hdisplay, hlast, harguments]
  · simp (disch := exact Fixed.of rfl) [hname, harguments]

/-- The word for a kind of method is on one line. -/
theorem LifecycleKind.oneLine_label (kind : LifecycleKind) : OneLine kind.label := by
  cases kind <;> exact .fixed rfl

/-! ### The unit -/

namespace LifecycleUnit

/-- The header of a hook that the class introduces. -/
theorem isLine_hookModifiers (u : LifecycleUnit) {rest : String} (h : OneLine rest) :
    IsLine names (u.hookModifiers ++ rest) := by
  rw [hookModifiers]
  split <;> exact (IsLine.append_iff (.fixed rfl) (.fixed rfl)).2 h

variable {u : LifecycleUnit} (h : OneLines u.definition.texts)

include h

/-- The texts of a method that is called are on one line, like all those of its type. -/
theorem oneLines_methods {kind : LifecycleKind} {m : Method} (hm : m ∈ u.methods kind) :
    OneLine m.name ∧ (∀ p ∈ m.parameters, OneLines p.texts) ∧
      ∀ t ∈ m.explicitInterface, OneLines t.texts := by
  obtain ⟨hname, hparameters, hinterface, -⟩ :=
    TypeDef.oneLines_method h (List.mem_of_mem_filter (List.mem_of_mem_filter hm))
  exact ⟨hname, hparameters, hinterface⟩

/-- Calls are lines of the unit. -/
theorem writtenAll_calls (kind : LifecycleKind) : WrittenAll (IsLine names) (u.calls kind) := by
  rw [calls, writtenAll_map]
  intro m hm
  obtain ⟨hname, -, hinterface⟩ := oneLines_methods h hm
  exact written_line.2 (m.isLine_invocation hname hinterface oneLine_empty)

/-- The method that calls the construction methods. -/
theorem writtenAll_initialization : WrittenAll (IsLine names) u.initialization := by
  have hxml := TypeDef.oneLine_nameForXml h
  have hlabel := LifecycleKind.oneLine_label .construction
  have hparameters : OneLine (Text.join ", "
      ((mergedParameters (u.methods .construction)).map parameterCode)) := by
    refine OneLine.join (.fixed rfl) ?_
    simp only [List.forall_mem_map]
    intro p hp
    obtain ⟨m, hm, hp⟩ := mem_of_mem_mergedParameters hp
    exact oneLine_parameterCode ((oneLines_methods h hm).2.1 p hp)
  have hcalls : WrittenAll (IsLine names) ((u.methods .construction).map fun m =>
      .line (m.invocation (namedArguments m))) := by
    rw [writtenAll_map]
    intro m hm
    obtain ⟨hname, hparameters, hinterface⟩ := oneLines_methods h hm
    exact written_line.2
      (m.isLine_invocation hname hinterface (oneLine_namedArguments hparameters))
  rw [initialization, writtenAll_append, writtenAll_append, writtenAll_cons, written_braces]
  refine ⟨?_, ⟨?_, hcalls⟩, writtenAll_nil⟩
  · simp (disch := exact Fixed.of rfl) [hlabel, hxml]
  · simp (disch := exact Fixed.of rfl) [hparameters]

/-- The disposal hook. -/
theorem writtenAll_disposal : WrittenAll (IsLine names) u.disposal := by
  have hxml := TypeDef.oneLine_nameForXml h
  have hlabel := LifecycleKind.oneLine_label .disposal
  have hcalls : WrittenAll (IsLine names) (u.calls .disposal) := writtenAll_calls h _
  have hheader : IsLine names (u.hookModifiers ++ " void Dispose(bool disposing)") :=
    u.isLine_hookModifiers (.fixed rfl)
  have hguarded : Written (IsLine names) u.guardedCalls := by
    simp (disch := exact Fixed.of rfl) [guardedCalls, hcalls]
  have hsummary : WrittenAll (IsLine names) u.overrideSummary := by
    simp (disch := exact Fixed.of rfl) [overrideSummary, hlabel, hxml]
  rw [disposal]
  split
  · have hpattern : WrittenAll (IsLine names)
        [braces (u.hookModifiers ++ " void Dispose(bool disposing)") [u.guardedCalls]] := by
      simp only [writtenAll_cons, writtenAll_nil, written_braces, hheader, hguarded, and_self]
    rw [writtenAll_append, writtenAll_append]
    refine ⟨⟨?_, ?_⟩, hpattern⟩
    · simp (disch := exact Fixed.of rfl)
    · simp (disch := exact Fixed.of rfl) [hlabel, hxml]
  · simp (disch := exact Fixed.of rfl) [hsummary, hguarded]
  · simp (disch := exact Fixed.of rfl) [hsummary, hcalls]
  · exact writtenAll_nil
  · exact writtenAll_nil

/-- The finalization hook. -/
theorem writtenAll_finalization : WrittenAll (IsLine names) u.finalization := by
  have hname := TypeDef.oneLine_name h
  have hxml := TypeDef.oneLine_nameForXml h
  have hlabel := LifecycleKind.oneLine_label .finalization
  have hcalls : WrittenAll (IsLine names) (u.calls .finalization) := writtenAll_calls h _
  have hheader : IsLine names (u.hookModifiers ++ " void OnFinalizing()") :=
    u.isLine_hookModifiers (.fixed rfl)
  have hsummary : WrittenAll (IsLine names) (summary ["Runs the " ++
      LifecycleKind.finalization.label ++ " methods of " ++ u.definition.nameForXml ++
        ", after those of the base types."]) := by
    simp (disch := exact Fixed.of rfl) [hlabel, hxml]
  rw [finalization]
  split
  · simp only [writtenAll_append, writtenAll_cons, writtenAll_nil, written_braces, hsummary,
      hheader, hcalls, and_true]
    simp (disch := exact Fixed.of rfl) [hname]
  · simp only [writtenAll_append, writtenAll_cons, writtenAll_nil, written_braces, hsummary,
      hcalls, and_true, true_and]
    simp (disch := exact Fixed.of rfl)

/-- **The lines of a lifecycle unit.** -/
theorem writtenAll_code : WrittenAll (IsLine names) u.code := by
  have hnamespace := TypeDef.oneLine_namespace h
  have hname := TypeDef.oneLine_nameWithGenerics h
  have hproblems : WrittenAll (IsLine names) (u.problems.map .diagnostic) := by simp
  have hgap : WrittenAll (IsLine names) (if u.problems.isEmpty then [] else [.blank]) := by simp
  have hheader : IsLine names u.header := by
    simp (disch := exact Fixed.of rfl) [header, hname]
  simp only [code, writtenAll_append, writtenAll_cons, writtenAll_nil, writtenAll_unitHeader,
    hproblems, hgap, written_inNamespace, hnamespace, written_braces, hheader,
    writtenAll_separated, List.forall_mem_cons, List.not_mem_nil, writtenAll_ite, false_implies,
    implies_true, and_true, true_and]
  exact ⟨fun _ => writtenAll_initialization h, writtenAll_disposal h,
    fun _ => writtenAll_finalization h⟩

end LifecycleUnit

end Companion
