import Companion.Artifact
import Companion.Lifecycle.Disposal

/-!
# The lifecycle unit of a class

The unit opens the class again and adds, as far as methods are marked for them: `Initialize`,
which calls the construction methods and is called by every constructor; the disposal hook; and
the finalization hook, base types first.

A marked method that cannot be called is a problem of the unit and is called nowhere. All problems
stand at the top of the unit.
-/

namespace Companion

/-- What is wrong with a method marked for a part of the lifecycle of the named type. -/
def Method.lifecycleProblem? (m : Method) (kind : LifecycleKind) (owner : String) :
    Option (DiagnosticCode × String) :=
  let method := kind.label ++ " method " ++ owner ++ "." ++ m.name
  if m.isStatic then
    some (.lifecycleStatic, method ++ " is static. Lifecycle methods must be instance methods.")
  else if kind = .construction then none
  else if !m.parameters.isEmpty then
    some (.lifecycleSignature, method ++ " must not have any parameter.")
  else if !m.returnType.isNamed "System.Void" then
    some (.lifecycleSignature, method ++ " must return void.")
  else none

/-- A call of the method on the instance at hand; an explicit implementation is called through
its interface. -/
def Method.invocation (m : Method) (arguments : String) : String :=
  match m.explicitInterface with
  | some contract =>
    "((" ++ contract.display ++ ")this)." ++ ((Text.split '.' m.name).getLast?.getD m.name) ++
      "(" ++ arguments ++ ");"
  | none => "this." ++ m.name ++ "(" ++ arguments ++ ");"

/-- What the lifecycle unit of a class is made of. -/
structure LifecycleUnit where
  compilation : Compilation
  definition : TypeDef

/-- What the lifecycle unit of a class is made of. -/
def Compilation.lifecycleUnit (c : Compilation) (d : TypeDef) : LifecycleUnit := ⟨c, d⟩

namespace LifecycleUnit

variable (u : LifecycleUnit)

/-- The methods of a kind that are called, in order. -/
def methods (kind : LifecycleKind) : List Method :=
  (u.definition.lifecycleMethods kind).filter fun m =>
    (m.lifecycleProblem? kind u.definition.qualifiedName).isNone

/-- How disposal hooks into the bases, if there is anything to dispose of. -/
def hook? : Option DisposeHook :=
  if (u.methods .disposal).isEmpty then none
  else some (u.compilation.disposeHook u.definition)

/-! ### Problems -/

/-- The problems with the marked methods of a kind. -/
def methodProblems (kind : LifecycleKind) : List Diagnostic :=
  (u.definition.lifecycleMethods kind).filterMap fun m =>
    (m.lifecycleProblem? kind u.definition.qualifiedName).map fun (code, message) =>
      u.definition.problem .lifecycle .error code message m.location

/-- The problem with two construction methods that disagree on a parameter. -/
def conflictProblem (conflict : ParameterConflict) : Diagnostic :=
  let name := u.definition.qualifiedName
  u.definition.problem .lifecycle .error .constructorConflict
    ("Parameter '" ++ conflict.name ++ "' of " ++ name ++ "." ++ conflict.second.name ++
      " does not match the parameter with the same name of " ++ name ++ "." ++
      conflict.first.name ++ ": " ++ LifecycleKind.construction.label ++
      " methods sharing a parameter name must agree on its type and default value.")
    conflict.second.location

/-- The problem that disposal cannot hook into the bases. -/
def hookProblems : List Diagnostic :=
  match u.hook? with
  | some (.blocked base) =>
    [u.definition.problem .lifecycle .error .disposeNotOverridable
      ("The Dispose method of base type " ++ base ++ " is not virtual and it does not implement " ++
        "the Dispose(bool) pattern: the " ++ LifecycleKind.disposal.label ++ " methods of " ++
        u.definition.qualifiedName ++ " cannot be called.")]
  | _ => []

/-- All problems, in order. -/
def problems : List Diagnostic :=
  (if u.definition.isPartial then []
  else
    [u.definition.problem .lifecycle .warning .lifecycleNotPartial
      ("You should add the partial modifier to the class " ++ u.definition.qualifiedName ++ ".")]) ++
  LifecycleKind.all.flatMap u.methodProblems ++
  (parameterConflicts (u.methods .construction)).map u.conflictProblem ++
  u.hookProblems

/-! ### Construction -/

/-- A parameter as it is declared. -/
def parameterCode (p : Parameter) : String :=
  p.type.display ++ " " ++ p.name ++ ((p.defaultValue.map (" = " ++ ·)).getD "")

/-- The arguments of a call, all by name. -/
def namedArguments (m : Method) : String :=
  Text.join ", " (m.parameters.map fun p => p.name ++ ": " ++ p.name)

/-- The method that calls the construction methods. -/
def initialization : List Piece :=
  let methods := u.methods .construction
  let x := u.definition.nameForXml
  Piece.summary
    ["Runs the " ++ LifecycleKind.construction.label ++ " methods of " ++ x ++
      ", in declaration order."] ++
  Piece.remarks ["Every constructor of " ++ x ++ " must call this method."] ++
  [.braces ("private void Initialize(" ++
      Text.join ", " ((mergedParameters methods).map parameterCode) ++ ")")
    (methods.map fun m => .line (m.invocation (namedArguments m)))]

/-! ### Disposal and finalization -/

/-- Calls of the methods of a kind, without arguments. -/
def calls (kind : LifecycleKind) : List Piece :=
  (u.methods kind).map fun m => .line (m.invocation "")

/-- The calls of the disposal methods, within `Dispose(bool)`. -/
def guardedCalls : Piece := .braces "if (disposing)" (u.calls .disposal)

/-- The modifiers of a hook that this class introduces. -/
def hookModifiers : String := if u.definition.isSealed then "private" else "protected virtual"

/-- The summary of a disposal hook that overrides one of the base. -/
def overrideSummary : List Piece :=
  Piece.summary
    ["Disposes the base type first, then runs the " ++ LifecycleKind.disposal.label ++
      " methods of " ++ u.definition.nameForXml ++ "."]

/-- The disposal hook; nothing if there is none. -/
def disposal : List Piece :=
  match u.hook? with
  | some .own =>
    [Piece.inheritedDoc,
      .braces "public void Dispose()" [.line "Dispose(true);"],
      .blank] ++
    Piece.summary
      ["Runs the " ++ LifecycleKind.disposal.label ++ " methods of " ++ u.definition.nameForXml ++
        " when <paramref name=\"disposing\"/> is true."] ++
    [.braces (u.hookModifiers ++ " void Dispose(bool disposing)") [u.guardedCalls]]
  | some (.overridePattern _) =>
    u.overrideSummary ++
    [.braces "protected override void Dispose(bool disposing)"
      [.line "base.Dispose(disposing);", u.guardedCalls]]
  | some (.overrideMethod _) =>
    u.overrideSummary ++
    [.braces "public override void Dispose()" (.line "base.Dispose();" :: u.calls .disposal)]
  | some (.blocked _) | none => []

/-- The finalization hook. The class nearest to the root declares the finalizer. -/
def finalization : List Piece :=
  let summary :=
    Piece.summary
      ["Runs the " ++ LifecycleKind.finalization.label ++ " methods of " ++
        u.definition.nameForXml ++ ", after those of the base types."]
  let calls := u.calls .finalization
  if (u.compilation.finalizerBase? u.definition).isNone then
    [.braces ("~" ++ u.definition.name ++ "()") [.line "OnFinalizing();"], .blank] ++ summary ++
    [.braces (u.hookModifiers ++ " void OnFinalizing()") calls]
  else
    summary ++
    [.braces "protected override void OnFinalizing()" (.line "base.OnFinalizing();" :: calls)]

/-! ### The unit -/

/-- The header that opens the class again. -/
def header : String :=
  u.definition.accessibility.modifiers ++ " partial class " ++ u.definition.nameWithGenerics ++
    (if u.hook? = some .own then " : global::System.IDisposable" else "")

/-- The code of the unit. -/
def code : List Piece :=
  unitHeader .lifecycle ["System"] ++
  u.problems.map .diagnostic ++
  (if u.problems.isEmpty then [] else [.blank]) ++
  [.inNamespace u.definition.namespace
    [.braces u.header
      (Piece.separated
        [if (u.methods .construction).isEmpty then [] else u.initialization,
          u.disposal,
          if (u.methods .finalization).isEmpty then [] else u.finalization])]]

end LifecycleUnit

/-- The lifecycle unit of a class. -/
def Compilation.lifecycleArtifact (c : Compilation) (d : TypeDef) : Artifact :=
  .of .lifecycle d (c.lifecycleUnit d).code

end Companion
