import Companion.Pass
import Companion.Proofs.Layout

/-!
# The Lines of Generated Code

Apart from the lines that carry problems, a line of generated code opens with fixed text. The fixed
text is neither blank nor a directive; only the lines that name a region and those that silence the
compiler begin like one. There is one exception: where a member is assigned, its name comes first,
and names are taken as they are.

`IsLine` says this of a line, and that it has no line feed. It is read off the parts of the code one
after the other, like the problems that the code reports. Fixed texts are settled by their
characters: `Fixed` is what a simplifier is to discharge by computation.

## Main results

* `Piece.writtenAll_append`, `Piece.writtenAll_separated`: the lines of code put together.
* `IsLine.append_iff`, `oneLine_append`: a line is settled by its parts.
-/

namespace Companion

/-! ### How lines open -/

/-- Whether a text opens with a character that is neither a blank nor the sign of a directive. -/
def Opens (s : String) : Prop := ∃ c ∈ s.toList.head?, c ≠ ' ' ∧ c ≠ '#'

/-- A text opens as its beginning does. -/
theorem Opens.append {s : String} (h : Opens s) (t : String) : Opens (s ++ t) := by
  obtain ⟨c, hc, hplain⟩ := h
  exact ⟨c, by simp [Option.mem_def.1 hc], hplain⟩

/-- A fixed text opens as its first character says. -/
theorem Opens.fixed {c : Char} {cs : List Char} (h : (c != ' ' && c != '#') = true) :
    Opens (String.ofList (c :: cs)) := by
  simpa [Opens] using h

/-- The words at the start of directives that carry no problem. -/
def quietDirectives : List String := ["#pragma ", "#region ", "#endregion"]

/-- Whether a line is empty, or opens with a directive that carries no problem, or with the name of
a member that is assigned. -/
def OpensOtherwise (names : List String) (s : String) : Prop :=
  s = "" ∨ (∃ word ∈ quietDirectives, ∃ rest, s = word ++ rest) ∨
    ∃ name ∈ names, ∃ rest : String, [' ', '='] <+: rest.toList ∧ s = name ++ rest

/-- Whether a text can be a line of generated code that assigns the named members only. -/
def IsLine (names : List String) (s : String) : Prop :=
  OneLine s ∧ (Opens s ∨ OpensOtherwise names s)

namespace IsLine

variable {names : List String}

/-- A line that opens with fixed text. -/
theorem of_opens {s : String} (h : OneLine s) (hopens : Opens s) : IsLine names s :=
  ⟨h, .inl hopens⟩

/-- What follows a fixed text at the start of a line matters for line feeds only. -/
theorem append_iff {s t : String} (h : OneLine s) (hopens : Opens s) :
    IsLine names (s ++ t) ↔ OneLine t :=
  ⟨fun hline => (oneLine_append.1 hline.1).2, fun ht =>
    of_opens (oneLine_append.2 ⟨h, ht⟩) (hopens.append t)⟩

/-- An empty text is a line. -/
theorem empty : IsLine names "" := ⟨oneLine_empty, .inr (.inl rfl)⟩

/-- The start of a region is a line if the name is on one line. -/
theorem region {name : String} (h : OneLine name) : IsLine names ("#region " ++ name) := by
  refine ⟨oneLine_append.2 ⟨.fixed rfl, h⟩, .inr (.inr (.inl ⟨_, ?_, name, rfl⟩))⟩
  simp [quietDirectives]

/-- The end of a region is a line. -/
theorem endregion : IsLine names "#endregion" := by
  refine ⟨.fixed rfl, .inr (.inr (.inl ⟨"#endregion", ?_, "", ?_⟩))⟩
  · simp [quietDirectives]
  · exact String.append_empty.symm

/-- A pragma is a line if it is on one line. -/
theorem pragma {s : String} (text : String) (hs : s = "#pragma " ++ text) (h : OneLine s) :
    IsLine names s := by
  refine ⟨h, .inr (.inr (.inl ⟨_, ?_, text, hs⟩))⟩
  simp [quietDirectives]

/-- An assignment to a named member is a line if it is on one line. -/
theorem assigns {name rest : String} (hname : name ∈ names) (h : OneLine (name ++ rest))
    (hrest : [' ', '='] <+: rest.toList) : IsLine names (name ++ rest) :=
  ⟨h, .inr (.inr (.inr ⟨name, hname, rest, hrest, rfl⟩))⟩

end IsLine

/-! ### Settling lines by their parts -/

/-- A property of texts that is computed from the characters of a fixed text. -/
class ReadOff (P : String → Prop) where
  test : List Char → Bool
  sound : ∀ cs, test cs = true → P (String.ofList cs)

instance : ReadOff OneLine where
  test cs := cs.all (· != '\n')
  sound _ h := .fixed h

instance : ReadOff Opens where
  test
    | [] => false
    | c :: _ => c != ' ' && c != '#'
  sound
    | [], h => by cases h
    | _ :: _, h => .fixed h

/-- A property that has been computed for a fixed text. -/
structure Fixed (P : String → Prop) (s : String) : Prop where
  holds : P s

/-- A property that is read off the characters of a text holds of it once they pass the test. -/
theorem Fixed.of {P : String → Prop} [ReadOff P] {cs : List Char}
    (h : ReadOff.test P cs = true) : Fixed P (String.ofList cs) :=
  ⟨ReadOff.sound cs h⟩

/-- A text that was computed to be on one line is. -/
@[simp (low)] theorem oneLine_of_fixed {s : String} (h : Fixed OneLine s) : OneLine s := h.holds

/-- A text that was computed to open a line does. -/
@[simp (low)] theorem opens_of_fixed {s : String} (h : Fixed Opens s) : Opens s := h.holds

/-- What follows a fixed beginning does not matter for how a text opens. -/
@[simp] theorem opens_append_of_fixed {s t : String} (h : Fixed Opens s) : Opens (s ++ t) :=
  h.holds.append t

/-- How a text opens does not depend on how its parts are put together. -/
@[simp high] theorem opens_append_append {s t u : String} :
    Opens (s ++ t ++ u) ↔ Opens (s ++ (t ++ u)) := by
  rw [String.append_assoc]

/-- How a text opens otherwise does not depend on how its parts are put together. -/
@[simp high] theorem opensOtherwise_append_append {names : List String} {s t u : String} :
    OpensOtherwise names (s ++ t ++ u) ↔ OpensOtherwise names (s ++ (t ++ u)) := by
  rw [String.append_assoc]

/-- The modifiers of an accessibility open a line. -/
@[simp] theorem opens_modifiers_append (accessibility : Accessibility) (s : String) :
    Opens (accessibility.modifiers ++ s) := by
  cases accessibility <;> exact Opens.append (.fixed rfl) s

/-- The modifiers of an accessibility are on one line. -/
@[simp] theorem oneLine_modifiers (accessibility : Accessibility) :
    OneLine accessibility.modifiers := by
  cases accessibility <;> exact .fixed rfl

/-- A line is on one line, and opens as code does or otherwise. -/
@[simp] theorem isLine_iff {names : List String} {s : String} :
    IsLine names s ↔ OneLine s ∧ (Opens s ∨ OpensOtherwise names s) :=
  Iff.rfl

/-- A text that depends on a condition is on one line if it is in either case. -/
@[simp] theorem oneLine_ite {c : Prop} [Decidable c] {s t : String} :
    OneLine (if c then s else t) ↔ (c → OneLine s) ∧ (¬ c → OneLine t) := by
  split <;> simp_all

/-- A text that depends on a condition is a line if it is in either case. -/
@[simp high] theorem isLine_ite {names : List String} {c : Prop} [Decidable c] {s t : String} :
    IsLine names (if c then s else t) ↔ (c → IsLine names s) ∧ (¬ c → IsLine names t) := by
  split <;> simp_all

/-! ### Reading lines off the code -/

namespace Piece

section General

variable {P : String → Prop}

@[simp] theorem writtenAll_nil : WrittenAll P [] := by simp only [WrittenAll]

/-- Pieces are written if the first one and the others are. -/
@[simp] theorem writtenAll_cons {p : Piece} {ps : List Piece} :
    WrittenAll P (p :: ps) ↔ Written P p ∧ WrittenAll P ps := by
  simp only [WrittenAll]

/-- Pieces are written if each of them is. -/
theorem writtenAll_iff {ps : List Piece} : WrittenAll P ps ↔ ∀ p ∈ ps, Written P p := by
  induction ps with
  | nil => simp
  | cons p ps ih => simp [ih]

/-- Pieces in two lists are written if those in each list are. -/
@[simp] theorem writtenAll_append {ps qs : List Piece} :
    WrittenAll P (ps ++ qs) ↔ WrittenAll P ps ∧ WrittenAll P qs := by
  simp only [writtenAll_iff, List.forall_mem_append]

@[simp] theorem writtenAll_map {α : Type} {l : List α} {f : α → Piece} :
    WrittenAll P (l.map f) ↔ ∀ a ∈ l, Written P (f a) := by
  simp only [writtenAll_iff, List.forall_mem_map]

/-- Pieces that are gathered from a list are written if those of each item are. -/
@[simp] theorem writtenAll_flatMap {α : Type} {l : List α} {f : α → List Piece} :
    WrittenAll P (l.flatMap f) ↔ ∀ a ∈ l, WrittenAll P (f a) := by
  simp only [writtenAll_iff, List.mem_flatMap]
  grind

/-- Pieces that depend on a condition are written if they are in either case. -/
@[simp] theorem writtenAll_ite {c : Prop} [Decidable c] {ps qs : List Piece} :
    WrittenAll P (if c then ps else qs) ↔ (c → WrittenAll P ps) ∧ (¬ c → WrittenAll P qs) := by
  split <;> simp_all

@[simp] theorem written_blank : Written P .blank := by simp only [Written]

/-- A problem has no line of its own to be written. -/
@[simp] theorem written_diagnostic (d : Diagnostic) : Written P (.diagnostic d) := by
  simp only [Written]

/-- Blank lines between groups change nothing. -/
@[simp] theorem writtenAll_separated {groups : List (List Piece)} :
    WrittenAll P (separated groups) ↔ ∀ group ∈ groups, WrittenAll P group := by
  have hjoin : ∀ gs : List (List Piece),
      WrittenAll P (List.intercalate [.blank] gs) ↔ ∀ g ∈ gs, WrittenAll P g := by
    intro gs
    induction gs with
    | nil => simp
    | cons g gs ih =>
        cases gs with
        | nil => simp
        | cons g' gs => simp_all [List.intercalate_cons_cons]
  rw [separated, hjoin]
  constructor
  · intro h g hg
    cases g with
    | nil => exact writtenAll_nil
    | cons p ps => exact h _ (List.mem_filter.2 ⟨hg, rfl⟩)
  · exact fun h g hg => h g (List.mem_of_mem_filter hg)

end General

variable {names : List String}

/-- A line is written if it is one. -/
@[simp] theorem written_line {s : String} :
    Written (IsLine names) (.line s) ↔ IsLine names s := by
  simp only [Written]

/-- A block in braces is written if its header is a line and its body is written. -/
@[simp] theorem written_braces {header : String} {body : List Piece} :
    Written (IsLine names) (braces header body) ↔
      IsLine names header ∧ WrittenAll (IsLine names) body := by
  have hopen : IsLine names "\x7b" := .of_opens (.fixed rfl) (.fixed rfl)
  have hclose : IsLine names "\x7d" := .of_opens (.fixed rfl) (.fixed rfl)
  simp only [braces, Written, hopen, hclose, and_true, true_and]

/-- A region is written if its name is on one line and its body is written. -/
@[simp] theorem written_region {name : String} {body : List Piece} :
    Written (IsLine names) (.region name body) ↔
      OneLine name ∧ WrittenAll (IsLine names) body := by
  have hname : IsLine names ("#region " ++ name) ↔ OneLine name :=
    ⟨fun h => (oneLine_append.1 h.1).2, .region⟩
  simp only [Written, hname, IsLine.endregion, and_true]

/-- A namespace is written if its name is on one line and its body is written. -/
@[simp] theorem written_inNamespace {name : String} {body : List Piece} :
    Written (IsLine names) (.inNamespace name body) ↔
      OneLine name ∧ WrittenAll (IsLine names) body := by
  have hopen : IsLine names "\x7b" := .of_opens (.fixed rfl) (.fixed rfl)
  have hclose : IsLine names "\x7d" := .of_opens (.fixed rfl) (.fixed rfl)
  have hname : IsLine names ("namespace " ++ name) ↔ OneLine name :=
    IsLine.append_iff (.fixed rfl) (.fixed rfl)
  simp only [Written, hname, hopen, hclose, and_true]
  by_cases hempty : name = ""
  · simp [hempty]
  · simp [hempty, and_comm]

/-- Lines are written if each of them is one. -/
@[simp] theorem writtenAll_lines {texts : List String} :
    WrittenAll (IsLine names) (lines texts) ↔ ∀ s ∈ texts, IsLine names s := by
  simp only [lines, writtenAll_map, written_line]

/-- The lines of a documentation comment open with its sign. -/
@[simp] theorem writtenAll_element {tag : String} {content : List String} :
    WrittenAll (IsLine names) (element tag content) ↔
      OneLine tag ∧ ∀ s ∈ content, OneLine s := by
  have hline : ∀ s, IsLine names ("/// " ++ s) ↔ OneLine s := fun s =>
    IsLine.append_iff (.fixed rfl) (.fixed rfl)
  have hangle : OneLine ">" := .fixed rfl
  have hopen : IsLine names ("/// <" ++ tag ++ ">") ↔ OneLine tag := by
    rw [String.append_assoc, IsLine.append_iff (.fixed rfl) (.fixed rfl), oneLine_append]
    exact and_iff_left hangle
  have hclose : IsLine names ("/// </" ++ tag ++ ">") ↔ OneLine tag := by
    rw [String.append_assoc, IsLine.append_iff (.fixed rfl) (.fixed rfl), oneLine_append]
    exact and_iff_left hangle
  simp only [element, writtenAll_lines, List.forall_mem_append, List.forall_mem_map, hline,
    List.mem_singleton, forall_eq, hopen, hclose]
  tauto

/-- A summary is written if each of its lines is on one line. -/
@[simp] theorem writtenAll_summary {content : List String} :
    WrittenAll (IsLine names) (summary content) ↔ ∀ s ∈ content, OneLine s := by
  have htag : OneLine "summary" := .fixed rfl
  simp only [summary, writtenAll_element, htag, true_and]

/-- Remarks are written if each of their lines is on one line. -/
@[simp] theorem writtenAll_remarks {content : List String} :
    WrittenAll (IsLine names) (remarks content) ↔ ∀ s ∈ content, OneLine s := by
  have htag : OneLine "remarks" := .fixed rfl
  simp only [remarks, writtenAll_element, htag, true_and]

/-- The mark of inherited documentation is written. -/
@[simp] theorem written_inheritedDoc : Written (IsLine names) inheritedDoc := by
  rw [inheritedDoc, written_line]
  exact .of_opens (.fixed rfl) (.fixed rfl)

/-- The mark of pure methods is written, if there is one. -/
@[simp] theorem writtenAll_pureMark (pass : Pass) :
    WrittenAll (IsLine names) pass.pureMark := by
  simp (disch := exact Fixed.of rfl) [Pass.pureMark]

/-- The top of a unit is fixed text. -/
@[simp] theorem writtenAll_unitHeader (generator : Generator) :
    WrittenAll (IsLine names) (unitHeader generator ["System"]) := by
  have hpragma : IsLine names "#pragma warning disable CS0108, CS0109, CS0618, CS1591" :=
    .pragma "warning disable CS0108, CS0109, CS0618, CS1591" (by simp) (.fixed rfl)
  have hname : OneLine generator.name := by
    cases generator <;> exact .fixed rfl
  simp (disch := exact Fixed.of rfl)
    [unitHeader, isLine_iff.1 hpragma, hname]

end Piece

end Companion
