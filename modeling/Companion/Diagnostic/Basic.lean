import Companion.Diagnostic.Code
import Companion.Model.Member

/-!
# Diagnostics

A `Diagnostic` is a problem found while code is generated for a type. It is written into the
generated unit as a directive (`#error` or `#warning`), so that it comes up where the program is
built. A directive ends at the first line break, so breaks in the message become blanks.
-/

namespace Companion

/-- How bad a problem is. -/
inductive Severity where
  | error
  | warning
deriving Repr, DecidableEq

namespace Severity

def text : Severity → String
  | error => "error"
  | warning => "warning"

/-- The directive that carries a problem. -/
def directive : Severity → String
  | error => "#error"
  | warning => "#warning"

end Severity

/-- The generators, each of which writes one unit for a type. -/
inductive Generator where
  | equality
  | immutable
  | lifecycle
deriving Repr, DecidableEq

def Generator.name : Generator → String
  | equality => "EqualityGenerator"
  | immutable => "ImmutableGenerator"
  | lifecycle => "LifecycleGenerator"

/-- Which generator was at work on which type. -/
structure DiagnosticScope where
  generator : Generator
  /-- The type as messages name it. -/
  subject : String
deriving Repr, DecidableEq

/-- A problem found while code is generated. -/
structure Diagnostic where
  code : DiagnosticCode
  severity : Severity
  message : String := ""
  scope : Option DiagnosticScope := none
  location : Option Location := none
  notes : List String := []
deriving Repr, DecidableEq

namespace Diagnostic

def isError (d : Diagnostic) : Bool := d.severity == .error

/-- The message behind the scope it belongs to. -/
def scopedMessage (d : Diagnostic) : String :=
  match d.scope with
  | some scope => scope.generator.name ++ "/" ++ scope.subject ++ ": " ++ d.message
  | none => d.message

/-- The directive that carries the problem into generated code. -/
def embed (d : Diagnostic) : String :=
  d.severity.directive ++ " " ++
    Text.replaceChar '\n' ' ' (Text.replaceChar '\r' ' ' d.scopedMessage)

/-- The diagnostic as a problem of a scope. -/
def inScope (d : Diagnostic) (scope : DiagnosticScope) : Diagnostic := { d with scope }

end Diagnostic

/-! ### Counting -/

/-- How many errors and warnings there are. -/
structure Tally where
  errors : Nat := 0
  warnings : Nat := 0
deriving Repr, DecidableEq

/-- The tally with one more problem. -/
def Tally.add (t : Tally) (d : Diagnostic) : Tally :=
  match d.severity with
  | .error => { t with errors := t.errors + 1 }
  | .warning => { t with warnings := t.warnings + 1 }

def Tally.of (ds : List Diagnostic) : Tally := ds.foldl Tally.add {}

/-- Counting on from a tally adds the counts of either severity. -/
theorem Tally.foldl_add (ds : List Diagnostic) (t : Tally) :
    ds.foldl Tally.add t =
      ⟨t.errors + ds.countP (·.isError), t.warnings + ds.countP (!·.isError)⟩ := by
  induction ds generalizing t with
  | nil => rfl
  | cons d ds ih =>
    rw [List.foldl_cons, ih]
    cases h : d.severity <;> simp [Tally.add, Diagnostic.isError, h] <;> omega

theorem Tally.of_eq (ds : List Diagnostic) :
    Tally.of ds = ⟨ds.countP (·.isError), ds.countP (!·.isError)⟩ := by
  simp [Tally.of, Tally.foldl_add]

end Companion
