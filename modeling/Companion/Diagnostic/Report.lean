import Companion.Diagnostic.Basic
import Companion.Json.Writer

/-!
# Reports on diagnostics

Diagnostics are reported as lines for a terminal, perhaps in colour, or as a JSON document: an
array with one object per diagnostic, in order. A terminal report ends with a summary of the
counts; the document needs none.
-/

namespace Companion

open Json (Value)

namespace Diagnostic

/-- The diagnostic as a document. Scope, location and notes are left out when there are none. -/
def encode (d : Diagnostic) : Value :=
  .record (
    [("code", .text d.code.text), ("severity", .text d.severity.text),
      ("message", .text d.message)] ++
    (d.scope.toList.map fun s =>
      ("scope", .record [("generator", .text s.generator.name), ("subject", .text s.subject)])) ++
    (d.location.toList.map fun l =>
      ("location", .record [("path", .text l.path), ("line", .int l.line.toNat)])) ++
    (if d.notes.isEmpty then [] else [("notes", .array (d.notes.map .text))]))

end Diagnostic

namespace Report

/-! ### For tools -/

/-- The objects of an array, each on a line of its own behind the separator it needs. -/
def objects : Bool → List Diagnostic → String
  | _, [] => ""
  | first, d :: ds =>
    (if first then "" else ",") ++ "\n  " ++ d.encode.render ++ objects false ds

/-- The document that reports the diagnostics. -/
def json (ds : List Diagnostic) : String :=
  "[" ++ objects true ds ++ (if ds.isEmpty then "]\n" else "\n]\n")

/-! ### For people -/

/-- When a terminal report is in colour. -/
inductive ColorMode where
  /-- If it goes to a terminal. -/
  | auto
  | always
  | never
deriving Repr, DecidableEq

def ColorMode.isColored : ColorMode → Bool → Bool
  | auto, isTerminal => isTerminal
  | always, _ => true
  | never, _ => false

/-- The colours of a terminal report. -/
inductive Color where
  | red
  | yellow
  | blue
  | plain
deriving Repr, DecidableEq

/-- The control sequence that turns to bold text of a colour. -/
def Color.sequence : Color → String
  | red => "\x1b[1;31m"
  | yellow => "\x1b[1;33m"
  | blue => "\x1b[1;34m"
  | plain => "\x1b[1m"

/-- A text, highlighted if the report is in colour. -/
def highlight (colored : Bool) (color : Color) (text : String) : String :=
  if colored then color.sequence ++ text ++ "\x1b[0m" else text

def severityColor : Severity → Color
  | .error => .red
  | .warning => .yellow

/-- The lines that report one diagnostic. -/
def terminalEntry (colored : Bool) (d : Diagnostic) : String :=
  highlight colored (severityColor d.severity) d.severity.text ++ " " ++
    highlight colored .plain ("[" ++ d.code.text ++ "]") ++ ": " ++ d.scopedMessage ++ "\n" ++
    Text.join "" (d.location.toList.map fun l =>
      "  --> " ++ highlight colored .blue l.display ++ "\n") ++
    Text.join "" (d.notes.map fun note =>
      "  = " ++ highlight colored .plain "note" ++ ": " ++ note ++ "\n")

/-- A count and a noun that agrees with it. -/
def counted (n : Nat) (noun : String) : String :=
  toString n ++ " " ++ noun ++ (if n == 1 then "" else "s")

/-- The line that sums up a report; nothing if there is nothing to report. -/
def terminalSummary (colored : Bool) (t : Tally) : String :=
  if 0 < t.errors then
    highlight colored .red "error" ++ ": " ++ counted t.errors "error" ++ " and " ++
      counted t.warnings "warning" ++ " embedded in generated code\n"
  else if 0 < t.warnings then
    highlight colored .yellow "warning" ++ ": " ++ counted t.warnings "warning" ++
      " embedded in generated code\n"
  else ""

/-- The report of the diagnostics and of their tally. -/
def terminal (colored : Bool) (ds : List Diagnostic) : String :=
  Text.join "" (ds.map (terminalEntry colored)) ++ terminalSummary colored (Tally.of ds)

end Report

end Companion
