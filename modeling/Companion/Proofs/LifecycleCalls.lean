import Companion.Proofs.Generation
import Companion.Proofs.LifecycleProblems

/-!
# The Calls of a Lifecycle Unit

A lifecycle unit calls marked methods within three methods of its own: construction methods within
`Initialize`, disposal methods within the disposal hook, and finalization methods within the
finalization hook. The calls are found between the headers of the blocks around them. So no marked
method gets lost: it is called in its place, or the unit says why it is not.

## Main results

* `LifecycleUnit.placedCalls_code`: the calls of a unit, and where they stand.
* `LifecycleUnit.callsIn_code`: what the methods that run the methods of a kind call.
* `marked_methods_called_or_refused`: a marked method is called once, or has one problem.
-/

namespace Companion

open Piece

namespace LifecycleUnit

variable (u : LifecycleUnit)

/-! ### Calls -/

/-- Whether a line of code is a call of a method on the instance at hand. -/
def isCall (s : String) : Bool :=
  "this.".toList.isPrefixOf s.toList || "((".toList.isPrefixOf s.toList

/-- The line that invokes a method is a call. -/
theorem isCall_invocation (m : Method) (arguments : String) :
    isCall (m.invocation arguments) = true := by
  rw [Method.invocation]
  split <;> simp [isCall]

/-- A text that begins with another character is no call. -/
theorem isCall_append_eq_false {c : Char} {cs : List Char} (h : (c != 't' && c != '(') = true)
    (rest : String) : isCall (String.ofList (c :: cs) ++ rest) = false := by
  rw [Bool.and_eq_true, bne_iff_ne, bne_iff_ne] at h
  simp [isCall, List.isPrefixOf, h.1.symm, h.2.symm]

/-- A line that starts with neither a receiver nor a cast is no call. -/
theorem isCall_eq_false {c : Char} {cs : List Char} (h : (c != 't' && c != '(') = true) :
    isCall (String.ofList (c :: cs)) = false := by
  have hempty : isCall (String.ofList (c :: cs) ++ "") = false := isCall_append_eq_false h ""
  rwa [String.append_empty] at hempty

/-- The calls of code, each with the headers of the blocks around it, the innermost first. -/
def placedCalls (around : List String) (ps : List Piece) : List (List String × String) :=
  (placedLinesAll around ps).filter (isCall ·.2)

section PlacedCalls

variable (around : List String)

@[simp] theorem placedCalls_nil : placedCalls around [] = [] := by
  simp [placedCalls]

/-- The calls in two lists of pieces in a row. -/
@[simp] theorem placedCalls_append (ps qs : List Piece) :
    placedCalls around (ps ++ qs) = placedCalls around ps ++ placedCalls around qs := by
  simp [placedCalls]

/-- The calls within a block have its header around them. -/
@[simp] theorem placedCalls_braces_cons (header : String) (body ps : List Piece) :
    placedCalls around (braces header body :: ps) =
      placedCalls (header :: around) body ++ placedCalls around ps := by
  simp [placedCalls]

@[simp] theorem placedCalls_blank_cons (ps : List Piece) :
    placedCalls around (.blank :: ps) = placedCalls around ps := by
  simp [placedCalls]

/-- A line that is no call calls nothing. -/
theorem placedCalls_line_cons {s : String} (h : isCall s = false) (ps : List Piece) :
    placedCalls around (.line s :: ps) = placedCalls around ps := by
  simp [placedCalls, h]

/-- Invocations in a row are calls with the same headers around them. -/
@[simp] theorem placedCalls_invocations (ms : List Method) (arguments : Method → String) :
    placedCalls around (ms.map fun m => .line (m.invocation (arguments m))) =
      ms.map fun m => (around, m.invocation (arguments m)) := by
  simp [placedCalls, List.filter_map, Function.comp_def, isCall_invocation]

@[simp] theorem placedCalls_element (tag : String) (content : List String) :
    placedCalls around (element tag content) = [] := by
  have hcomment : ∀ rest, isCall ("/// " ++ rest) = false := isCall_append_eq_false rfl
  have hopen : ∀ rest, isCall ("/// <" ++ rest) = false := isCall_append_eq_false rfl
  have hclose : ∀ rest, isCall ("/// </" ++ rest) = false := isCall_append_eq_false rfl
  simp [placedCalls, element, String.append_assoc, hcomment, hopen, hclose, List.filter_map,
    Function.comp_def]

@[simp] theorem placedCalls_summary (content : List String) :
    placedCalls around (summary content) = [] :=
  placedCalls_element around _ _

@[simp] theorem placedCalls_remarks (content : List String) :
    placedCalls around (remarks content) = [] :=
  placedCalls_element around _ _

@[simp] theorem placedCalls_overrideSummary : placedCalls around u.overrideSummary = [] :=
  placedCalls_summary around _

/-- The top of a unit calls nothing. -/
theorem placedCalls_unitHeader (generator : Generator) (usings : List String) :
    placedCalls around (unitHeader generator usings) = [] := by
  have hfixed : ∀ {c : Char} {cs : List Char} (ps : List Piece),
      (c != 't' && c != '(') = true →
        placedCalls around (.line (String.ofList (c :: cs)) :: ps) = placedCalls around ps :=
    fun ps h => placedCalls_line_cons around (isCall_eq_false h) ps
  have husing : ∀ rest, isCall ("using " ++ rest) = false := isCall_append_eq_false rfl
  have husings : placedCalls around (usings.map fun u => .line ("using " ++ u ++ ";")) = [] := by
    simp [placedCalls, String.append_assoc, husing, List.filter_map, Function.comp_def]
  rw [unitHeader, placedCalls_append, placedCalls_append, husings]
  simp only [String.append_assoc]
  rw [hfixed _ rfl, hfixed _ rfl, placedCalls_line_cons _ (isCall_append_eq_false rfl _),
    hfixed _ rfl, hfixed _ rfl, hfixed _ rfl, placedCalls_blank_cons, placedCalls_nil,
    List.append_nil, List.append_nil]

/-- Blank lines between groups call nothing. -/
@[simp] theorem placedCalls_separated (groups : List (List Piece)) :
    placedCalls around (separated groups) = groups.flatMap (placedCalls around) := by
  simp only [placedCalls, placedLinesAll_separated, List.filter_flatMap]
  rfl

end PlacedCalls

/-- The arguments with which a method of a kind is called. -/
def argumentsOf : LifecycleKind → Method → String
  | .construction, m => namedArguments m
  | .disposal, _ | .finalization, _ => ""

/-- The calls of the methods of a kind that can be called. -/
def invocations (kind : LifecycleKind) : List String :=
  (u.methods kind).map fun m => m.invocation (argumentsOf kind m)

/-- The header that opens `Initialize`. -/
def initializeHeader : String :=
  "private void Initialize(" ++
    Text.join ", " ((mergedParameters (u.methods .construction)).map parameterCode) ++ ")"

/-- The headers around the calls of a kind within the class, the innermost first; none if the
methods of the kind cannot be called at all. -/
def callHeaders : LifecycleKind → Option (List String)
  | .construction => some [u.initializeHeader]
  | .disposal =>
    match u.hook? with
    | some .own => some ["if (disposing)", u.hookModifiers ++ " void Dispose(bool disposing)"]
    | some (.overridePattern _) =>
      some ["if (disposing)", "protected override void Dispose(bool disposing)"]
    | some (.overrideMethod _) => some ["public override void Dispose()"]
    | some (.blocked _) | none => none
  | .finalization =>
    if (u.compilation.finalizerBase? u.definition).isNone then
      some [u.hookModifiers ++ " void OnFinalizing()"]
    else some ["protected override void OnFinalizing()"]

/-- The calls of a kind with the headers around them. -/
def callsWithin (kind : LifecycleKind) (around : List String) : List (List String × String) :=
  match u.callHeaders kind with
  | some headers => (u.invocations kind).map (headers ++ around, ·)
  | none => []

/-- The code for construction calls the methods that are marked for it. -/
theorem placedCalls_initialization (around : List String) :
    placedCalls around u.initialization = u.callsWithin .construction around := by
  have hbody : u.initialization =
      summary ["Runs the " ++ LifecycleKind.construction.label ++ " methods of " ++
        u.definition.nameForXml ++ ", in declaration order."] ++
      remarks
        ["Every constructor of " ++ u.definition.nameForXml ++ " must call this method."] ++
      [.braces u.initializeHeader
        ((u.methods .construction).map fun m => .line (m.invocation (namedArguments m)))] := rfl
  rw [hbody, placedCalls_append, placedCalls_append, placedCalls_summary, placedCalls_remarks,
    placedCalls_braces_cons, placedCalls_invocations]
  simp [callsWithin, callHeaders, invocations, argumentsOf]

/-- The calls of a kind are one for each of its methods, in order. -/
theorem placedCalls_calls (kind : LifecycleKind) (around : List String) :
    placedCalls around (u.calls kind) =
      (u.methods kind).map fun m => (around, m.invocation "") := by
  rw [calls, placedCalls_invocations]

/-- The code for disposal calls the methods that are marked for it. -/
theorem placedCalls_disposal (around : List String) :
    placedCalls around u.disposal = u.callsWithin .disposal around := by
  have hdoc : ∀ ps, placedCalls around (inheritedDoc :: ps) = placedCalls around ps :=
    placedCalls_line_cons around (by decide)
  have hdispose : isCall "Dispose(true);" = false := by decide
  have hpattern : isCall "base.Dispose(disposing);" = false := by decide
  have hmethod : isCall "base.Dispose();" = false := by decide
  rw [disposal, callsWithin, callHeaders]
  rcases u.hook? with _ | _ | _ | _ | _ <;>
    simp [hdoc, placedCalls_line_cons, hdispose, hpattern, hmethod, guardedCalls,
      placedCalls_calls, invocations, argumentsOf]

/-- The code for finalization calls the methods that are marked for it. -/
theorem placedCalls_finalization (around : List String) :
    placedCalls around u.finalization = u.callsWithin .finalization around := by
  have hown : isCall "OnFinalizing();" = false := by decide
  have hbase : isCall "base.OnFinalizing();" = false := by decide
  rw [finalization, callsWithin, callHeaders]
  cases u.compilation.finalizerBase? u.definition <;>
    simp [placedCalls_line_cons, hown, hbase, placedCalls_calls, invocations, argumentsOf]

/-- **The calls of a unit** are those of the three kinds, one kind after the other. -/
theorem placedCalls_code :
    placedCalls [] u.code =
      LifecycleKind.all.flatMap fun kind => u.callsWithin kind [u.header] := by
  have hproblems : placedCalls [] (u.problems.map .diagnostic) = [] := by
    simp [placedCalls]
  have hgap : placedCalls [] (if u.problems.isEmpty then [] else [.blank]) = [] := by
    split <;> simp
  have hnone : ∀ kind, (u.methods kind).isEmpty = true → u.callsWithin kind [u.header] = [] := by
    intro kind hempty
    rw [callsWithin, invocations, List.isEmpty_iff.1 hempty]
    split <;> rfl
  have hconstruction : placedCalls [u.header]
      (if (u.methods .construction).isEmpty then [] else u.initialization) =
      u.callsWithin .construction [u.header] := by
    split
    · next hempty => rw [hnone _ hempty, placedCalls_nil]
    · exact u.placedCalls_initialization _
  have hfinalization : placedCalls [u.header]
      (if (u.methods .finalization).isEmpty then [] else u.finalization) =
      u.callsWithin .finalization [u.header] := by
    split
    · next hempty => rw [hnone _ hempty, placedCalls_nil]
    · exact u.placedCalls_finalization _
  have hclass : ∀ body, placedCalls [] [.inNamespace u.definition.namespace body] =
      placedCalls [] body := by
    simp [placedCalls]
  rw [code, placedCalls_append, placedCalls_append, placedCalls_append, placedCalls_unitHeader,
    hproblems, hgap, hclass, placedCalls_braces_cons, placedCalls_separated]
  simp only [List.flatMap_cons, List.flatMap_nil, hconstruction, placedCalls_disposal,
    hfinalization, placedCalls_nil, LifecycleKind.all, List.nil_append, List.append_nil]

end LifecycleUnit

/-! ### Bodies -/

/-- Whether a header opens a method that runs the methods of a kind. -/
def LifecycleKind.opens (kind : LifecycleKind) (header : String) : Bool :=
  match kind with
  | construction => "private void Initialize(".toList.isPrefixOf header.toList
  | disposal =>
    ["private void Dispose(bool disposing)", "protected virtual void Dispose(bool disposing)",
      "protected override void Dispose(bool disposing)",
      "public override void Dispose()"].contains header
  | finalization =>
    ["private void OnFinalizing()", "protected virtual void OnFinalizing()",
      "protected override void OnFinalizing()"].contains header

namespace LifecycleUnit

variable (u : LifecycleUnit)

/-- The calls within the methods that run the methods of a kind. -/
def callsIn (kind : LifecycleKind) (ps : List Piece) : List String :=
  ((placedCalls [] ps).filter (·.1.any kind.opens)).map (·.2)

/-- The header of a class opens no method. -/
theorem opens_header (kind : LifecycleKind) : kind.opens u.header = false := by
  have hclass : ∀ (accessibility : Accessibility) (rest : String),
      kind.opens (accessibility.modifiers ++ (" partial class " ++ rest)) = false := by
    intro accessibility rest
    cases kind <;> cases accessibility <;>
      simp [LifecycleKind.opens, Accessibility.modifiers, ← String.toList_inj, List.isPrefixOf]
  rw [header, String.append_assoc, String.append_assoc]
  exact hclass _ _

/-- The calls of a kind stand in a method that runs the methods of the kind, and in none that runs
those of another. -/
theorem any_opens_callHeaders {kind : LifecycleKind} {headers : List String}
    (h : u.callHeaders kind = some headers) (kind' : LifecycleKind) :
    (headers ++ [u.header]).any kind'.opens = decide (kind = kind') := by
  have hinitialize : ∀ rest, kind'.opens ("private void Initialize(" ++ rest) =
      decide (.construction = kind') := by
    intro rest
    cases kind' <;> simp [LifecycleKind.opens, ← String.toList_inj]
  rw [List.any_append, List.any_cons, List.any_nil, opens_header, Bool.or_false, Bool.or_false]
  cases kind with
  | construction =>
      rw [callHeaders, Option.some.injEq] at h
      rw [← h, List.any_cons, List.any_nil, Bool.or_false]
      unfold initializeHeader
      rw [String.append_assoc, hinitialize]
  | disposal =>
      rw [callHeaders, hookModifiers] at h
      split at h
      · obtain rfl := Option.some.inj h
        cases u.definition.isSealed <;> cases kind' <;> decide
      · obtain rfl := Option.some.inj h
        cases kind' <;> decide
      · obtain rfl := Option.some.inj h
        cases kind' <;> decide
      · cases h
      · cases h
  | finalization =>
      rw [callHeaders, hookModifiers] at h
      split at h
      · obtain rfl := Option.some.inj h
        cases u.definition.isSealed <;> cases kind' <;> decide
      · obtain rfl := Option.some.inj h
        cases kind' <;> decide

/-- The calls of a kind that a unit makes. -/
def called (kind : LifecycleKind) : List String :=
  if (u.callHeaders kind).isSome then u.invocations kind else []

/-- Without the headers around them, the calls of a kind are those that the unit makes. -/
theorem callsWithin_map_snd (kind : LifecycleKind) (around : List String) :
    (u.callsWithin kind around).map (·.2) = u.called kind := by
  rw [callsWithin, called]
  cases u.callHeaders kind <;> simp [Function.comp_def]

/-- **The methods that run the methods of a kind** make the calls of the kind. -/
theorem callsIn_code (kind : LifecycleKind) : callsIn kind u.code = u.called kind := by
  have hkind : ∀ kind', ((u.callsWithin kind' [u.header]).filter (·.1.any kind.opens)).map (·.2) =
      if kind' = kind then u.called kind else [] := by
    intro kind'
    cases hheaders : u.callHeaders kind' with
    | none =>
        by_cases hsame : kind' = kind
        · subst hsame
          simp [callsWithin, called, hheaders]
        · simp [callsWithin, hheaders, hsame]
    | some headers =>
        have hopens := u.any_opens_callHeaders hheaders kind
        by_cases hsame : kind' = kind
        · subst hsame
          simp [callsWithin, called, hheaders, List.filter_map, Function.comp_def, hopens]
        · simp [callsWithin, hheaders, List.filter_map, Function.comp_def, hopens, hsame]
  rw [callsIn, placedCalls_code, List.filter_flatMap, List.map_flatMap]
  simp only [hkind, LifecycleKind.all, List.flatMap_cons, List.flatMap_nil]
  cases kind <;> simp

/-- A unit calls nothing but what these methods call. -/
theorem map_placedCalls_code :
    (placedCalls [] u.code).map (·.2) =
      LifecycleKind.all.flatMap fun kind => callsIn kind u.code := by
  simp only [placedCalls_code, List.map_flatMap, callsWithin_map_snd, callsIn_code]

end LifecycleUnit
/-! ### Runs -/

/-- Whether a unit says that no disposal method of its class can be called. -/
def Artifact.blocksDisposal (a : Artifact) : Bool :=
  a.diagnostics.any (·.code == .disposeNotOverridable)

/-- An artifact blocks disposal exactly when the unit found a base whose disposal cannot be
overridden. -/
theorem LifecycleUnit.blocksDisposal_iff (u : LifecycleUnit) {a : Artifact}
    (h : a.diagnostics = u.problems) :
    a.blocksDisposal = true ↔ ∃ base, u.hook? = some (.blocked base) := by
  simp [Artifact.blocksDisposal, h, ← u.disposeNotOverridable_mem_iff]

/-- The methods of a kind that can be called are the marked ones that are not refused. -/
theorem LifecycleUnit.methods_eq_filter (u : LifecycleUnit) (kind : LifecycleKind) :
    u.methods kind = (u.definition.lifecycleMethods kind).filter fun m => !kind.refuses m := by
  refine List.filter_congr fun m _ => ?_
  rw [← kind.isSome_lifecycleProblem? m u.definition.qualifiedName, Option.not_isSome]

/-- A unit makes the calls of a kind, unless it cannot hook into the bases. -/
theorem LifecycleUnit.called_eq (u : LifecycleUnit) (kind : LifecycleKind) {a : Artifact}
    (h : a.diagnostics = u.problems) :
    u.called kind =
      if kind = .disposal ∧ a.blocksDisposal = true then [] else u.invocations kind := by
  have hfinalization : (u.callHeaders .finalization).isSome = true := by
    rw [callHeaders]
    split <;> rfl
  cases kind with
  | construction => simp [called, callHeaders]
  | finalization => simp [called, hfinalization]
  | disposal =>
      have hblocks := u.blocksDisposal_iff h
      rw [called, callHeaders]
      split
      · next hhook => simp [hblocks, hhook]
      · next hhook => simp [hblocks, hhook]
      · next hhook => simp [hblocks, hhook]
      · next base hhook => simp [hblocks, hhook]
      · next hhook =>
          -- There is no hook where no disposal method can be called.
          have hempty : (u.methods .disposal).isEmpty = true := by
            rw [hook?] at hhook
            split at hhook
            · assumption
            · cases hhook
          simp [invocations, List.isEmpty_iff.1 hempty]

/-- **Every marked method is called or refused.** The unit of a class that asks for lifecycle code
has, for each kind, one problem for each marked method that cannot be called, and one call of each
other one, in their order and within the methods that run the methods of that kind. It calls no
disposal methods where it says that they cannot be called, and has no calls besides these. -/
theorem marked_methods_called_or_refused {c : Compilation} {engine : PatternEngine}
    {g : Generation} (h : generate c engine = .ok g) {d : TypeDef} (hd : d ∈ c.types)
    (hrequests : d.requestsLifecycle = true) :
    let a := c.lifecycleArtifact d
    let code := (c.lifecycleUnit d).code
    a ∈ g.artifacts ∧ a.text = layOut code ∧
      (∀ kind : LifecycleKind,
        List.Forall₂ (kind.Refuses d) ((d.lifecycleMethods kind).filter kind.refuses)
          (a.diagnostics.filter kind.isRefusal) ∧
        LifecycleUnit.callsIn kind code =
          if kind = .disposal ∧ a.blocksDisposal = true then []
          else ((d.lifecycleMethods kind).filter fun m => !kind.refuses m).map fun m =>
            m.invocation (LifecycleUnit.argumentsOf kind m)) ∧
      (LifecycleUnit.placedCalls [] code).map (·.2) =
        LifecycleKind.all.flatMap fun kind => LifecycleUnit.callsIn kind code := by
  intro a code
  obtain ⟨-, config, hconfig, -⟩ := generate_eq_ok_iff.1 h
  have hsource : d.origin = .source := by
    simp only [TypeDef.requestsLifecycle, Bool.and_eq_true, beq_iff_eq] at hrequests
    exact hrequests.1.1
  have htarget : d ∈ (Plan.of c config).targets .lifecycle :=
    Plan.mem_targets_iff.2 ⟨hd, hsource, hrequests⟩
  have hproblems : a.diagnostics = (c.lifecycleUnit d).problems :=
    (c.lifecycleUnit d).diagnosticsAll_code
  refine ⟨Plan.artifact_mem .lifecycle hconfig h htarget, rfl, ?_,
    (c.lifecycleUnit d).map_placedCalls_code⟩
  intro kind
  constructor
  · rw [hproblems, LifecycleUnit.filter_isRefusal_problems]
    exact (c.lifecycleUnit d).forall₂_methodProblems kind
  · rw [LifecycleUnit.callsIn_code, LifecycleUnit.called_eq _ kind hproblems,
      LifecycleUnit.invocations, LifecycleUnit.methods_eq_filter]
    rfl

/-- A class whose marked methods are overloads, a static method, a method with two marks, one with
a parameter where none may be, and one that implements an interface. -/
def markedWorker : TypeDef where
  «namespace» := "Shop"
  name := "Worker"
  isPartial := true
  members :=
    let size : Parameter := { name := "size", type := .named "System.Int32" [] }
    let marks (kinds : List LifecycleKind) : List Attribute :=
      kinds.map fun kind => { className := kind.marker }
    [.method { name := "Load", attributes := marks [.construction] },
      .method { name := "Load", parameters := [size], attributes := marks [.construction] },
      .method { name := "Count", isStatic := true, attributes := marks [.construction] },
      .method { name := "Reset", attributes := marks [.construction, .disposal] },
      .method { name := "Shrink", parameters := [size], attributes := marks [.disposal] },
      .method {
        name := "Lib.IStop.Stop"
        explicitInterface := some (.named "Lib.IStop" [])
        attributes := marks [.finalization] }]

/-- The unit of `Worker` makes five calls, two of them of one method, and refuses two methods. -/
theorem marked_worker_methods_called_or_refused :
    ∃ c g d,
      Compilation.ofProgram (.onSmallCore [Program.stub "Lib" "IStop", markedWorker]) = .ok c ∧
      generate c = .ok g ∧ d ∈ c.types ∧ d.requestsLifecycle = true ∧
      c.lifecycleArtifact d ∈ g.artifacts ∧
      (∀ kind : LifecycleKind,
        List.Forall₂ (kind.Refuses d) ((d.lifecycleMethods kind).filter kind.refuses)
          ((c.lifecycleArtifact d).diagnostics.filter kind.isRefusal)) ∧
      (LifecycleKind.all.map fun kind =>
        ((d.lifecycleMethods kind).filter kind.refuses).map (·.name)) =
          [["Count"], ["Shrink"], []] ∧
      (LifecycleUnit.placedCalls [] (c.lifecycleUnit d).code).map (·.2) =
        ["this.Load();", "this.Load(size: size);", "this.Reset();", "this.Reset();",
          "((global::Lib.IStop)this).Stop();"] := by
  obtain ⟨c, config, g, hc, -, hg, hcheck⟩ :=
    Program.exists_run (.onSmallCore [Program.stub "Lib" "IStop", markedWorker])
      (fun c _ _ => (c.type? "Shop.Worker").any fun (d : TypeDef) =>
        (LifecycleKind.all.flatMap fun kind =>
          ((d.lifecycleMethods kind).filter fun m => !kind.refuses m).map fun m =>
            m.invocation (LifecycleUnit.argumentsOf kind m)) ==
          ["this.Load();", "this.Load(size: size);", "this.Reset();", "this.Reset();",
            "((global::Lib.IStop)this).Stop();"] &&
        decide (d.requestsLifecycle = true ∧ (c.lifecycleUnit d).hook? = some .own ∧
          (LifecycleKind.all.map fun kind =>
            ((d.lifecycleMethods kind).filter kind.refuses).map (·.name)) =
              [["Count"], ["Shrink"], []]))
      (by decide +kernel)
  obtain ⟨d, hd, hcheck⟩ := (Option.any_eq_true _ _).1 hcheck
  rw [Bool.and_eq_true, beq_iff_eq] at hcheck
  obtain ⟨hcalls, hmethods⟩ := hcheck
  obtain ⟨hrequests, hown, hrefused⟩ := of_decide_eq_true hmethods
  have hopen : ¬ (c.lifecycleArtifact d).blocksDisposal = true := by
    rw [(c.lifecycleUnit d).blocksDisposal_iff (c.lifecycleUnit d).diagnosticsAll_code, hown]
    simp
  have htypes : d ∈ c.types := (Compilation.type?_eq_some_iff.1 hd).1
  obtain ⟨hartifact, -, hkinds, hall⟩ := marked_methods_called_or_refused hg htypes hrequests
  refine ⟨c, g, d, hc, hg, htypes, hrequests, hartifact, fun kind => (hkinds kind).1, hrefused,
    ?_⟩
  rw [hall, ← hcalls]
  refine List.flatMap_congr fun kind _ => ?_
  rw [(hkinds kind).2, if_neg fun h => hopen h.2]

end Companion
