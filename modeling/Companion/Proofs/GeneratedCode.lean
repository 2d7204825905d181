import Companion.Pass
import Mathlib.Data.List.Forall2

/-!
# Reading Generated Code

Statements about generated code are statements about its pieces: which block a unit has under a
header, which lines it has and between which headers they stand, and which problems it reports. All
of these are found at any depth, and all are read off the parts of the code one after the other.

## Main results

* `bodiesAll_append`, `bodiesAll_separated`: the blocks of a header in code put together.
* `placedLinesAll_append`, `placedLinesAll_separated`: the lines of code put together.
* `codes_append`, `codes_separated`: the problems that code put together reports.
-/

namespace Companion

/-- What is computed for some elements of a list goes with these elements. -/
theorem forall₂_filter_filterMap {α β : Type} {p : α → Bool} {f : α → Option β} {R : α → β → Prop}
    (hp : ∀ a, p a = (f a).isSome) (hR : ∀ a b, f a = some b → R a b) (l : List α) :
    List.Forall₂ R (l.filter p) (l.filterMap f) := by
  induction l with
  | nil => exact .nil
  | cons a l ih =>
      cases hfa : f a with
      | none =>
          rw [List.filter_cons_of_neg (by simp [hp, hfa]), List.filterMap_cons_none hfa]
          exact ih
      | some b =>
          rw [List.filter_cons_of_pos (by simp [hp, hfa]), List.filterMap_cons_some hfa]
          exact .cons (hR a b hfa) ih

namespace Piece

/-- What is read off the pieces one by one is not changed by blank lines between groups, if blank
lines have nothing of it. -/
theorem flatMap_separated {β : Type} (f : Piece → List β) (hblank : f .blank = [])
    (groups : List (List Piece)) :
    (separated groups).flatMap f = groups.flatMap fun group => group.flatMap f := by
  have hjoin : ∀ gs : List (List Piece),
      (List.intercalate [.blank] gs).flatMap f = gs.flatMap fun g => g.flatMap f := by
    intro gs
    induction gs with
    | nil => simp
    | cons g gs ih =>
        cases gs with
        | nil => simp
        | cons g' gs => simp_all [List.intercalate_cons_cons]
  rw [separated, hjoin]
  induction groups with
  | nil => rfl
  | cons g groups ih => cases g <;> simp_all

/-! ### Blocks by header -/

mutual

/-- The bodies of the blocks under a header, within a piece. -/
def bodies (header : String) : Piece → List (List Piece)
  | .line _ | .blank | .indent | .dedent | .diagnostic _ => []
  | .block opening _ body =>
    (if opening = header then [body] else []) ++ bodiesAll header body
  | .region _ body | .inNamespace _ body => bodiesAll header body

/-- The bodies of the blocks under a header, within pieces. -/
def bodiesAll (header : String) : List Piece → List (List Piece)
  | [] => []
  | p :: ps => bodies header p ++ bodiesAll header ps

end

section Bodies

variable (header : String)

/-- A line is no body. -/
@[simp] theorem bodies_line (text : String) : bodies header (.line text) = [] := by
  simp only [bodies]

@[simp] theorem bodies_blank : bodies header .blank = [] := by
  simp only [bodies]

@[simp] theorem bodies_diagnostic (d : Diagnostic) : bodies header (.diagnostic d) = [] := by
  simp only [bodies]

/-- A region has the bodies that are in it. -/
@[simp] theorem bodies_region (name : String) (body : List Piece) :
    bodies header (.region name body) = bodiesAll header body := by
  simp only [bodies]

@[simp] theorem bodies_inNamespace (name : String) (body : List Piece) :
    bodies header (.inNamespace name body) = bodiesAll header body := by
  simp only [bodies]

/-- A block counts under its own header, and the blocks within it under theirs. -/
@[simp] theorem bodies_braces (opening : String) (body : List Piece) :
    bodies header (braces opening body) =
      (if opening = header then [body] else []) ++ bodiesAll header body := by
  simp only [braces, bodies]

@[simp] theorem bodiesAll_nil : bodiesAll header [] = [] := by
  simp only [bodiesAll]

/-- Pieces have the bodies of the first one, and then those of the others. -/
@[simp] theorem bodiesAll_cons (p : Piece) (ps : List Piece) :
    bodiesAll header (p :: ps) = bodies header p ++ bodiesAll header ps := by
  simp only [bodiesAll]

/-- The pieces of a list are searched one after the other. -/
theorem bodiesAll_eq_flatMap (ps : List Piece) :
    bodiesAll header ps = ps.flatMap (bodies header) := by
  induction ps with
  | nil => simp
  | cons p ps ih => simp [ih]

/-- Pieces in two lists have the bodies of the first list, and then those of the second. -/
@[simp] theorem bodiesAll_append (ps qs : List Piece) :
    bodiesAll header (ps ++ qs) = bodiesAll header ps ++ bodiesAll header qs := by
  simp only [bodiesAll_eq_flatMap, List.flatMap_append]

/-- Pieces that are gathered from a list have the bodies of each item, in order. -/
@[simp] theorem bodiesAll_flatMap {α : Type} (l : List α) (f : α → List Piece) :
    bodiesAll header (l.flatMap f) = l.flatMap fun a => bodiesAll header (f a) := by
  simp only [bodiesAll_eq_flatMap, List.flatMap_assoc]

@[simp] theorem bodiesAll_lines (texts : List String) : bodiesAll header (lines texts) = [] := by
  simp [lines, bodiesAll_eq_flatMap]

@[simp] theorem bodiesAll_summary (content : List String) :
    bodiesAll header (summary content) = [] :=
  bodiesAll_lines header _

@[simp] theorem bodiesAll_remarks (content : List String) :
    bodiesAll header (remarks content) = [] :=
  bodiesAll_lines header _

/-- The mark of inherited documentation is no body. -/
@[simp] theorem bodies_inheritedDoc : bodies header inheritedDoc = [] :=
  bodies_line header _

/-- Blank lines between groups add no blocks. -/
@[simp] theorem bodiesAll_separated (groups : List (List Piece)) :
    bodiesAll header (separated groups) = groups.flatMap (bodiesAll header) := by
  rw [bodiesAll_eq_flatMap, flatMap_separated _ (bodies_blank header)]
  exact List.flatMap_congr fun group _ => (bodiesAll_eq_flatMap header group).symm

/-- The blocks of the first group come first. -/
theorem bodiesAll_separated_cons (group : List Piece) (groups : List (List Piece)) :
    bodiesAll header (separated (group :: groups)) =
      bodiesAll header group ++ bodiesAll header (separated groups) := by
  simp only [bodiesAll_separated, List.flatMap_cons]

variable {header} in
/-- A group without blocks of the header can be left out. -/
theorem bodiesAll_separated_of_nil {group : List Piece} (h : bodiesAll header group = [])
    (groups : List (List Piece)) :
    bodiesAll header (separated (group :: groups)) = bodiesAll header (separated groups) := by
  rw [bodiesAll_separated_cons, h, List.nil_append]

end Bodies

/-! ### Lines by the blocks around them -/

mutual

/-- The lines of a piece, each with the headers of the blocks around it, the innermost first. -/
def placedLines (around : List String) : Piece → List (List String × String)
  | .line s => [(around, s)]
  | .blank | .indent | .dedent | .diagnostic _ => []
  | .block header _ body => placedLinesAll (header :: around) body
  | .region _ body | .inNamespace _ body => placedLinesAll around body

/-- The lines of pieces, each with the headers of the blocks around it, the innermost first. -/
def placedLinesAll (around : List String) : List Piece → List (List String × String)
  | [] => []
  | p :: ps => placedLines around p ++ placedLinesAll around ps

end

section PlacedLines

variable (around : List String)

/-- A line stands where it is placed. -/
@[simp] theorem placedLines_line (text : String) :
    placedLines around (.line text) = [(around, text)] := by
  simp only [placedLines]

@[simp] theorem placedLines_blank : placedLines around .blank = [] := by
  simp only [placedLines]

@[simp] theorem placedLines_diagnostic (d : Diagnostic) :
    placedLines around (.diagnostic d) = [] := by
  simp only [placedLines]

/-- A region is no header for the lines in it. -/
@[simp] theorem placedLines_region (name : String) (body : List Piece) :
    placedLines around (.region name body) = placedLinesAll around body := by
  simp only [placedLines]

@[simp] theorem placedLines_inNamespace (name : String) (body : List Piece) :
    placedLines around (.inNamespace name body) = placedLinesAll around body := by
  simp only [placedLines]

/-- Lines in braces stand below the header of the braces. -/
@[simp] theorem placedLines_braces (header : String) (body : List Piece) :
    placedLines around (braces header body) = placedLinesAll (header :: around) body := by
  simp only [braces, placedLines]

@[simp] theorem placedLinesAll_nil : placedLinesAll around [] = [] := by
  simp only [placedLinesAll]

/-- Pieces have the lines of the first one, and then those of the others. -/
@[simp] theorem placedLinesAll_cons (p : Piece) (ps : List Piece) :
    placedLinesAll around (p :: ps) = placedLines around p ++ placedLinesAll around ps := by
  simp only [placedLinesAll]

/-- The pieces of a list have their lines one after the other. -/
theorem placedLinesAll_eq_flatMap (ps : List Piece) :
    placedLinesAll around ps = ps.flatMap (placedLines around) := by
  induction ps with
  | nil => simp
  | cons p ps ih => simp [ih]

/-- Pieces in two lists have the lines of the first list, and then those of the second. -/
@[simp] theorem placedLinesAll_append (ps qs : List Piece) :
    placedLinesAll around (ps ++ qs) = placedLinesAll around ps ++ placedLinesAll around qs := by
  simp only [placedLinesAll_eq_flatMap, List.flatMap_append]

/-- Lines stand where they are placed, in order. -/
@[simp] theorem placedLinesAll_lines (texts : List String) :
    placedLinesAll around (lines texts) = texts.map (around, ·) := by
  simp only [placedLinesAll_eq_flatMap, lines, List.flatMap_map, placedLines_line,
    ← List.map_eq_flatMap]

/-- Lines for the items of a list stand where they are placed, in order. -/
@[simp] theorem placedLinesAll_map_line {α : Type} (l : List α) (f : α → String) :
    placedLinesAll around (l.map fun a => .line (f a)) = l.map fun a => (around, f a) := by
  simp only [placedLinesAll_eq_flatMap, List.flatMap_map, placedLines_line, ← List.map_eq_flatMap]

@[simp] theorem placedLinesAll_map_diagnostic (ds : List Diagnostic) :
    placedLinesAll around (ds.map .diagnostic) = [] := by
  simp [placedLinesAll_eq_flatMap, List.flatMap_map]

/-- Blank lines between groups add no other lines. -/
@[simp] theorem placedLinesAll_separated (groups : List (List Piece)) :
    placedLinesAll around (separated groups) = groups.flatMap (placedLinesAll around) := by
  rw [placedLinesAll_eq_flatMap, flatMap_separated _ (placedLines_blank around)]
  exact List.flatMap_congr fun group _ => (placedLinesAll_eq_flatMap around group).symm

end PlacedLines

/-! ### Problems by code -/

/-- The codes of the problems that code reports, in order. -/
def codes (ps : List Piece) : List DiagnosticCode := (diagnosticsAll ps).map (·.code)

@[simp] theorem codes_nil : codes [] = [] := rfl

/-- The pieces of a list report their problems one after the other. -/
theorem codes_eq_flatMap (ps : List Piece) :
    codes ps = ps.flatMap fun p => (diagnostics p).map (·.code) := by
  induction ps with
  | nil => rfl
  | cons p ps ih => simp_all [codes, diagnosticsAll]

/-- Pieces in two lists have the codes of the first list, and then those of the second. -/
@[simp] theorem codes_append (ps qs : List Piece) : codes (ps ++ qs) = codes ps ++ codes qs := by
  simp only [codes_eq_flatMap, List.flatMap_append]

/-- Pieces that are gathered from a list have the codes of each item, in order. -/
@[simp] theorem codes_flatMap {α : Type} (l : List α) (f : α → List Piece) :
    codes (l.flatMap f) = l.flatMap fun a => codes (f a) := by
  simp only [codes_eq_flatMap, List.flatMap_assoc]

/-- A line has no problem. -/
@[simp] theorem codes_line_cons (text : String) (ps : List Piece) :
    codes (.line text :: ps) = codes ps := by
  simp [codes, diagnosticsAll, diagnostics]

@[simp] theorem codes_blank_cons (ps : List Piece) : codes (.blank :: ps) = codes ps := by
  simp [codes, diagnosticsAll, diagnostics]

@[simp] theorem codes_diagnostic_cons (d : Diagnostic) (ps : List Piece) :
    codes (.diagnostic d :: ps) = d.code :: codes ps := by
  simp [codes, diagnosticsAll, diagnostics]

/-- A region has the codes that are in it. -/
@[simp] theorem codes_region_cons (name : String) (body ps : List Piece) :
    codes (.region name body :: ps) = codes body ++ codes ps := by
  simp [codes, diagnosticsAll, diagnostics]

/-- A namespace has the codes that are in it. -/
@[simp] theorem codes_inNamespace_cons (name : String) (body ps : List Piece) :
    codes (.inNamespace name body :: ps) = codes body ++ codes ps := by
  simp [codes, diagnosticsAll, diagnostics]

/-- A block in braces has the codes that are in it. -/
@[simp] theorem codes_braces_cons (opening : String) (body ps : List Piece) :
    codes (braces opening body :: ps) = codes body ++ codes ps := by
  simp [codes, diagnosticsAll, diagnostics, braces]

@[simp] theorem codes_lines (texts : List String) : codes (lines texts) = [] := by
  induction texts with
  | nil => rfl
  | cons text texts ih => rw [← ih, lines, List.map_cons, codes_line_cons, lines]

/-- Lines for the items of a list have no problems. -/
@[simp] theorem codes_map_line {α : Type} (l : List α) (f : α → String) :
    codes (l.map fun a => .line (f a)) = [] := by
  simp [codes_eq_flatMap, diagnostics]

@[simp] theorem codes_element (tag : String) (content : List String) :
    codes (element tag content) = [] :=
  codes_lines _

@[simp] theorem codes_summary (content : List String) : codes (summary content) = [] :=
  codes_element _ _

@[simp] theorem codes_remarks (content : List String) : codes (remarks content) = [] :=
  codes_element _ _

@[simp] theorem codes_inheritedDoc_cons (ps : List Piece) :
    codes (inheritedDoc :: ps) = codes ps :=
  codes_line_cons _ ps

/-- The mark of pure methods has no problems. -/
@[simp] theorem codes_pureMark (pass : Pass) : codes pass.pureMark = [] := by
  rw [Pass.pureMark]
  split <;> simp

/-- Blank lines between groups report no problem. -/
@[simp] theorem codes_separated (groups : List (List Piece)) :
    codes (separated groups) = groups.flatMap codes := by
  rw [codes_eq_flatMap, flatMap_separated _ rfl]
  exact List.flatMap_congr fun group _ => (codes_eq_flatMap group).symm

/-- The problems of the first group come first. -/
theorem codes_separated_cons (group : List Piece) (groups : List (List Piece)) :
    codes (separated (group :: groups)) = codes group ++ codes (separated groups) := by
  simp only [codes_separated, List.flatMap_cons]

/-- A group without problems can be left out. -/
theorem codes_separated_of_nil {group : List Piece} (h : codes group = [])
    (groups : List (List Piece)) :
    codes (separated (group :: groups)) = codes (separated groups) := by
  rw [codes_separated_cons, h, List.nil_append]

/-! ### Problems -/

/-- The problems of pieces in two lists are those of the first list, and then those of the second.
-/
theorem diagnosticsAll_append (ps qs : List Piece) :
    diagnosticsAll (ps ++ qs) = diagnosticsAll ps ++ diagnosticsAll qs := by
  induction ps with
  | nil => rfl
  | cons p ps ih => simp only [List.cons_append, diagnosticsAll, ih, List.append_assoc]

theorem diagnosticsAll_map_diagnostic (ds : List Diagnostic) :
    diagnosticsAll (ds.map .diagnostic) = ds := by
  induction ds with
  | nil => rfl
  | cons d ds ih =>
      simp only [List.map_cons, diagnosticsAll, diagnostics, ih, List.singleton_append]

/-- Code that reports no codes reports nothing. -/
theorem diagnosticsAll_eq_nil {ps : List Piece} (h : codes ps = []) : diagnosticsAll ps = [] :=
  List.map_eq_nil_iff.1 h

end Piece

/-- A problem of a type keeps its code. -/
@[simp] theorem TypeDef.problem_code (d : TypeDef) (generator : Generator) (severity : Severity)
    (code : DiagnosticCode) (message : String) (location : Option Location) :
    (d.problem generator severity code message location).code = code := rfl

/-- The problems of a unit are those that its code reports. -/
theorem Artifact.codes_of (generator : Generator) (d : TypeDef) (code : List Piece) :
    (Artifact.of generator d code).diagnostics.map (·.code) = Piece.codes code := rfl

end Companion
