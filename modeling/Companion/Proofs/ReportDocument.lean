import Companion.Command.Generate
import Companion.Proofs.ModelCodec
import Mathlib.Data.List.Forall2

/-!
# The Document That Reports Diagnostics

The report for tools is put together by hand: each object stands on a line of its own, with a comma
in front unless it is the first. It is one JSON document all the same, and a reader that insists on
what it asks for finds in it one object for each diagnostic, artifact by artifact. The reader takes
no array for an object, no `null` for a missing scope or location and no empty list for missing
notes, so what it finds missing in a diagnostic is missing in the object.

## Main results

* `Reader.items_objects`: the objects of a report are read as the items of an array.
* `Report.parse_json`: the text of a report is read as the array of its diagnostics.
* `Diagnostic.decode_encode`: an object is decoded to the diagnostic it tells of.
* `report_tells_diagnostics`: the text that is reported for artifacts, and what its objects tell.
-/

namespace Companion

open Json (Value)
open Json.Decode

/-! ### The text -/

namespace Json.Reader

/-- A line feed and two blanks in front of a value are skipped. -/
theorem skipBlanks_newline (s : List Char) :
    skipBlanks ('\n' :: ' ' :: ' ' :: s) = skipBlanks s := by
  simp [skipBlanks]

/-- A value may stand on a line of its own. -/
theorem value_newline (steps : Nat) (s : List Char) :
    value steps ('\n' :: ' ' :: ' ' :: s) = value steps s := by
  cases steps with
  | zero => simp [value]
  | succ k => rw [value, value, skipBlanks_newline]

/-- An item of an array may stand on a line of its own. -/
theorem items_newline (steps : Nat) (acc : List Value) (s : List Char) :
    items steps acc ('\n' :: ' ' :: ' ' :: s) = items steps acc s := by
  cases steps with
  | zero => simp [items]
  | succ k => rw [items, items, value_newline]

/-- A line feed and two blanks behind the opening bracket are skipped. -/
theorem value_items_newline {c : Char} (hc : isNoStart c = false) (steps : Nat) (s : List Char) :
    value (steps + 1) ('[' :: '\n' :: ' ' :: ' ' :: c :: s) = items steps [] (c :: s) := by
  rw [← value_items hc, value, value, skipBlanks_cons rfl, skipBlanks_cons rfl]
  simp only [skipBlanks_newline]

/-- What stands behind the first object of a report, up to the end of the text. -/
def behindFirst (ds : List Diagnostic) : List Char :=
  (Report.objects false ds).toList ++ ['\n', ']', '\n']

/-- Behind the last object the array ends, on a line of its own. -/
theorem behindFirst_nil : behindFirst [] = ['\n', ']', '\n'] := rfl

/-- Behind an object there is a comma and the next object on a line of its own. -/
theorem behindFirst_cons (d : Diagnostic) (ds : List Diagnostic) :
    behindFirst (d :: ds) =
      ',' :: '\n' :: ' ' :: ' ' :: (d.encode.render.toList ++ behindFirst ds) := by
  simp [behindFirst, Report.objects]

/-- No number goes on into what stands behind an object. -/
theorem endsNumber_behindFirst (ds : List Diagnostic) : EndsNumber (behindFirst ds) := by
  cases ds with
  | nil => exact endsNumber_cons (by simp) _
  | cons d ds =>
      rw [behindFirst_cons]
      exact endsNumber_cons (by simp) _

/-- **The objects of a report are read as the items of an array**, up to the last line feed. -/
theorem items_objects (ds : List Diagnostic) (d : Diagnostic) (steps : Nat) (acc : List Value)
    (hsteps : 2 * (d.encode.render.toList ++ behindFirst ds).length ≤ steps) :
    items steps acc (d.encode.render.toList ++ behindFirst ds) =
      some (.array (acc.reverse ++ (d :: ds).map Diagnostic.encode), ['\n']) := by
  induction ds generalizing d steps acc with
  | nil =>
      rw [behindFirst_nil, List.length_append, List.length_cons] at hsteps
      obtain ⟨k, rfl⟩ : ∃ k, steps = k + 1 := ⟨steps - 1, by omega⟩
      have hvalue := value_append d.encode k (behindFirst []) (by omega) (endsNumber_behindFirst [])
      rw [items, hvalue, behindFirst_nil]
      simp [skipBlanks]
  | cons e ds ih =>
      rw [behindFirst_cons, List.length_append] at hsteps
      simp only [List.length_cons] at hsteps
      obtain ⟨k, rfl⟩ : ∃ k, steps = k + 1 := ⟨steps - 1, by omega⟩
      have hvalue := value_append d.encode k (behindFirst (e :: ds)) (by omega)
        (endsNumber_behindFirst (e :: ds))
      have hrest := ih e k (d.encode :: acc) (by omega)
      rw [items, hvalue, behindFirst_cons]
      simp [skipBlanks, items_newline, hrest]

end Json.Reader

/-- **The text of a report is one document**, the array of its diagnostics. -/
theorem Report.parse_json (ds : List Diagnostic) :
    Json.parse (json ds) = some (.array (ds.map Diagnostic.encode)) := by
  cases ds with
  | nil => rfl
  | cons d ds =>
      have htext : (json (d :: ds)).toList =
          '[' :: '\n' :: ' ' :: ' ' :: (d.encode.render.toList ++ Json.Reader.behindFirst ds) := by
        simp [json, objects, Json.Reader.behindFirst]
      have hread : Json.Reader.leading (json (d :: ds)).toList =
          some (.array ((d :: ds).map Diagnostic.encode), ['\n']) := by
        obtain ⟨c, s, hobject, hc⟩ := Json.Reader.exists_render_eq_cons d.encode
        have hitems := Json.Reader.items_objects ds d
          (2 * (json (d :: ds)).toList.length + 1) [] (by rw [htext]; simp; omega)
        rw [hobject, List.cons_append] at hitems
        rw [Json.Reader.leading]
        nth_rewrite 2 [htext]
        rw [hobject, List.cons_append, Json.Reader.value_items_newline hc, hitems]
        rfl
      rw [Json.parse, hread]
      rfl

/-! ### The objects -/

/-- An object, and no array of its fields, decoded with one level less to spend. -/
def Json.Decode.object {α : Type} (content : Nat → Fields → Option α) : Nat → Value → Option α :=
  record (fun _ => []) content

/-- One of a list of words, written as a text. -/
def Json.Decode.textWord {α : Type} (words : List (String × α)) (v : Value) : Option α :=
  (text v).bind (words.lookup ·)

/-- A member that has to be there exactly where there is a value; `null` is no value. -/
def Json.Decode.present {α : Type} (fs : Fields) (key : String) (decode : Value → Option α) :
    Option (Option α) :=
  defaulted fs key none fun v => (decode v).map some

/-- A list that has to be missing where it is empty. -/
def Json.Decode.nonemptyList {α : Type} (decode : Value → Option α) : Value → Option (List α)
  | .array [] => none
  | .array vs => vs.mapM decode
  | _ => none

def DiagnosticCode.words : List (String × DiagnosticCode) := all.map fun c => (c.text, c)

def Severity.words : List (String × Severity) := [("error", .error), ("warning", .warning)]

def Generator.words : List (String × Generator) :=
  [("EqualityGenerator", .equality), ("ImmutableGenerator", .immutable),
    ("LifecycleGenerator", .lifecycle)]

def DiagnosticScope.decode : Nat → Value → Option DiagnosticScope :=
  object fun _ fs => do
    return {
      generator := ← required fs "generator" (textWord Generator.words)
      subject := ← required fs "subject" text }

namespace Diagnostic

/-- The location that an object of a report tells of. -/
def decodeLocation : Nat → Value → Option Location :=
  object fun _ fs => do
    return { path := ← required fs "path" text, line := ← required fs "line" uint32 }

/-- The diagnostic that an object of a report tells of. -/
def decode : Nat → Value → Option Diagnostic :=
  object fun room fs => do
    return {
      code := ← required fs "code" (textWord DiagnosticCode.words)
      severity := ← required fs "severity" (textWord Severity.words)
      message := ← required fs "message" text
      scope := ← present fs "scope" (DiagnosticScope.decode room)
      location := ← present fs "location" (decodeLocation room)
      notes := ← defaulted fs "notes" [] (nonemptyList text) }

/-- The text of a code is read as the code. -/
theorem textWord_code (c : DiagnosticCode) :
    textWord DiagnosticCode.words (.text c.text) = some c := by
  cases c <;> rfl

/-- The text of a severity is read as the severity. -/
theorem textWord_severity (s : Severity) : textWord Severity.words (.text s.text) = some s := by
  cases s <;> rfl

/-- The name of a generator is read as the generator. -/
theorem textWord_generator (g : Generator) : textWord Generator.words (.text g.name) = some g := by
  cases g <;> rfl

/-- Notes are decoded where there are any. -/
theorem nonemptyList_text (note : String) (notes : List String) :
    nonemptyList text (.array ((note :: notes).map .text)) = some (note :: notes) :=
  mapM_map_eq_some fun _ _ => text_text _

/-- **An object is decoded to the diagnostic** it tells of. -/
theorem decode_encode (d : Diagnostic) : decode 2 d.encode = some d := by
  obtain ⟨code, severity, message, scope, location, notes⟩ := d
  cases notes with
  | nil =>
      cases scope <;> cases location <;>
        simp [decode, object, encode, textWord_code, textWord_severity, textWord_generator, present,
          DiagnosticScope.decode, decodeLocation]
  | cons note notes =>
      have hnotes := nonemptyList_text note notes
      rw [List.map_cons] at hnotes
      cases scope <;> cases location <;>
        simp [decode, object, encode, textWord_code, textWord_severity, textWord_generator, present,
          DiagnosticScope.decode, decodeLocation, hnotes]

/-- The keys of the object that tells of a diagnostic. -/
def keys (d : Diagnostic) : List String :=
  ["code", "severity", "message"] ++ (if d.scope.isSome then ["scope"] else []) ++
    (if d.location.isSome then ["location"] else []) ++
    (if d.notes.isEmpty then [] else ["notes"])

/-- The object of a diagnostic has the keys that the diagnostic needs. -/
theorem map_fst_fields_encode (d : Diagnostic) :
    (fields d.encode).map (fun fs => fs.map (·.1)) = some d.keys := by
  rw [encode, fields_record, Option.map_some, keys]
  cases d.scope <;> cases d.location <;> cases d.notes <;> rfl

/-- An object tells of a diagnostic: it is decoded to it, and has the members it needs for that. -/
structure IsTold (d : Diagnostic) (v : Value) : Prop where
  decode : Diagnostic.decode 2 v = some d
  keys : (fields v).map (fun fs => fs.map (·.1)) = some d.keys

end Diagnostic

/-- **What is reported for tools** is one document: an array with one object for each diagnostic,
artifact by artifact and in the order of each. The object is decoded to the diagnostic, whatever
characters its texts are made of, and has a scope, a location and notes exactly where the diagnostic
has them. -/
theorem report_tells_diagnostics (colors : Report.ColorMode) (isTerminal : Bool)
    (artifacts : List Artifact) :
    ∃ objects, Json.parse (reportDiagnostics .json colors isTerminal artifacts) =
        some (.array objects) ∧
      List.Forall₂ Diagnostic.IsTold (artifacts.flatMap (·.diagnostics)) objects := by
  refine ⟨_, Report.parse_json _, ?_⟩
  rw [List.forall₂_map_right_iff]
  exact List.forall₂_same.mpr fun d _ => ⟨d.decode_encode, d.map_fst_fields_encode⟩

end Companion
