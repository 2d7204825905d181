import Companion.Layout
import Companion.Proofs.OneLine
import Mathlib.Data.List.DropRight

/-!
# What Laid Out Code Says

The writer puts code out character by character. Read as a whole, code is a list of rows, each with
a level and a content: `rowsAll` reads them off the pieces, with a level more for each block and
each namespace that is written. The text is these rows, indented by four blanks for each level,
short of the blank rows at its end.

This takes code in which blocks nest, so that no piece changes the level on its own, and whose lines
have no line feed. `WrittenAll` is that condition, for any property of lines.

## Main results

* `Writer.pieces_eq`: pieces leave the level as it was and add their rows.
* `layOut_eq`: the text of laid out code.
* `split_layOut`: the lines of that text are the rows.
* `filter_contents_laidOut`: the rows that carry problems, where no other line looks like one.
-/

namespace Companion

/-- A line of laid out code: how deep it stands, and what it says. -/
structure Row where
  level : Nat
  content : String
deriving Repr, DecidableEq

namespace Row

def isBlank (r : Row) : Bool := r.content.isEmpty

/-- The row as it is written: a blank row is not indented. -/
def text (r : Row) : String :=
  if r.isBlank then "" else Text.replicate (4 * r.level) ' ' ++ r.content

/-- Rows as they are written one after the other, each with a line feed. -/
def textAll : List Row → String
  | [] => ""
  | r :: rs => r.text ++ "\n" ++ textAll rs

/-- The text of two lists of rows in a row. -/
theorem textAll_append (rs ss : List Row) : textAll (rs ++ ss) = textAll rs ++ textAll ss := by
  induction rs with
  | nil => simp [textAll]
  | cons r rs ih => simp only [List.cons_append, textAll, ih, String.append_assoc]

theorem textAll_singleton (r : Row) : textAll [r] = r.text ++ "\n" := by simp [textAll]

/-- Only blank rows have no text, since levels are written before contents alone. -/
theorem text_eq_empty_iff {r : Row} : r.text = "" ↔ r.isBlank = true := by
  rw [text]
  split <;> simp_all [isBlank, String.append_eq_empty_iff]

/-- A row is on one line if its content is: the level is written in blanks. -/
theorem oneLine_text {r : Row} (h : OneLine r.content) : OneLine r.text := by
  rw [text]
  split
  · exact oneLine_empty
  · exact oneLine_append.2 ⟨.replicate _ (by decide), h⟩

end Row

namespace Piece

/-! ### Rows -/

mutual

/-- The rows of a piece at a level. -/
def rows (level : Nat) : Piece → List Row
  | .line s => [⟨level, s⟩]
  | .blank => [⟨level, ""⟩]
  | .indent | .dedent => []
  | .block header close body =>
    [⟨level, header⟩, ⟨level, "\x7b"⟩] ++ rowsAll (level + 1) body ++ [⟨level, close⟩]
  | .region name body =>
    [⟨level, "#region " ++ name⟩] ++ rowsAll level body ++ [⟨level, "#endregion"⟩]
  | .inNamespace name body =>
    if name.isEmpty then rowsAll level body
    else
      [⟨level, "namespace " ++ name⟩, ⟨level, "\x7b"⟩] ++ rowsAll (level + 1) body ++
        [⟨level, "\x7d"⟩]
  | .diagnostic d => [⟨level, d.embed⟩]

/-- The rows of pieces at a level. -/
def rowsAll (level : Nat) : List Piece → List Row
  | [] => []
  | p :: ps => rows level p ++ rowsAll level ps

end

/-- The rows of two lists of pieces in a row. -/
@[simp] theorem rowsAll_append (level : Nat) (ps qs : List Piece) :
    rowsAll level (ps ++ qs) = rowsAll level ps ++ rowsAll level qs := by
  induction ps with
  | nil => simp only [rowsAll, List.nil_append]
  | cons p ps ih => simp only [List.cons_append, rowsAll, ih, List.append_assoc]

mutual

/-- Whether blocks nest in a piece, and all its lines but those that carry problems satisfy a
condition. -/
def Written (P : String → Prop) : Piece → Prop
  | .line s => P s
  | .blank | .diagnostic _ => True
  | .indent | .dedent => False
  | .block header close body => P header ∧ P "\x7b" ∧ WrittenAll P body ∧ P close
  | .region name body => P ("#region " ++ name) ∧ WrittenAll P body ∧ P "#endregion"
  | .inNamespace name body =>
    WrittenAll P body ∧ (name.isEmpty = false → P ("namespace " ++ name) ∧ P "\x7b" ∧ P "\x7d")

/-- Whether blocks nest in pieces, and all their lines but those that carry problems satisfy a
condition. -/
def WrittenAll (P : String → Prop) : List Piece → Prop
  | [] => True
  | p :: ps => Written P p ∧ WrittenAll P ps

end

variable {P : String → Prop}

mutual

/-- A row is blank, or carries a problem, or is a line that satisfies the condition. -/
theorem mem_rows (level : Nat) :
    ∀ p : Piece, Written P p → ∀ r ∈ rows level p,
      r.content = "" ∨ (∃ d : Diagnostic, r.content = d.embed) ∨ P r.content
  | .line s, h, r, hr => by
      rw [Written] at h
      obtain rfl : r = ⟨level, s⟩ := by simpa [rows] using hr
      exact .inr (.inr h)
  | .blank, _, r, hr => by
      obtain rfl : r = ⟨level, ""⟩ := by simpa [rows] using hr
      exact .inl rfl
  | .indent, h, _, _ | .dedent, h, _, _ => by simp [Written] at h
  | .block header close body, h, r, hr => by
      rw [Written] at h
      obtain ⟨hheader, hopen, hbody, hclose⟩ := h
      simp only [rows, List.mem_append, List.mem_cons, List.not_mem_nil, or_false] at hr
      obtain ((rfl | rfl) | hr) | rfl := hr
      · exact .inr (.inr hheader)
      · exact .inr (.inr hopen)
      · exact mem_rowsAll _ body hbody r hr
      · exact .inr (.inr hclose)
  | .region name body, h, r, hr => by
      rw [Written] at h
      obtain ⟨hopen, hbody, hclose⟩ := h
      simp only [rows, List.mem_append, List.mem_cons, List.not_mem_nil, or_false] at hr
      obtain (rfl | hr) | rfl := hr
      · exact .inr (.inr hopen)
      · exact mem_rowsAll _ body hbody r hr
      · exact .inr (.inr hclose)
  | .inNamespace name body, h, r, hr => by
      rw [Written] at h
      rw [rows] at hr
      split at hr
      · exact mem_rowsAll _ body h.1 r hr
      · next hname =>
          obtain ⟨hheader, hopen, hclose⟩ := h.2 (by simpa using hname)
          simp only [List.mem_append, List.mem_cons, List.not_mem_nil, or_false] at hr
          obtain ((rfl | rfl) | hr) | rfl := hr
          · exact .inr (.inr hheader)
          · exact .inr (.inr hopen)
          · exact mem_rowsAll _ body h.1 r hr
          · exact .inr (.inr hclose)
  | .diagnostic d, _, r, hr => by
      obtain rfl : r = ⟨level, d.embed⟩ := by simpa [rows] using hr
      exact .inr (.inl ⟨d, rfl⟩)

/-- Each row is blank, embeds a diagnostic, or has one of the texts that the pieces were written
with. -/
theorem mem_rowsAll (level : Nat) :
    ∀ ps : List Piece, WrittenAll P ps → ∀ r ∈ rowsAll level ps,
      r.content = "" ∨ (∃ d : Diagnostic, r.content = d.embed) ∨ P r.content
  | [], _, r, hr => by simp [rowsAll] at hr
  | p :: ps, h, r, hr => by
      rw [WrittenAll] at h
      rw [rowsAll, List.mem_append] at hr
      rcases hr with hr | hr
      · exact mem_rows level p h.1 r hr
      · exact mem_rowsAll level ps h.2 r hr

end

/-- No row of code has a line feed. -/
theorem oneLine_of_mem_rowsAll (hP : ∀ s, P s → OneLine s) {level : Nat} {ps : List Piece}
    (h : WrittenAll P ps) : ∀ r ∈ rowsAll level ps, OneLine r.content := by
  intro r hr
  rcases mem_rowsAll level ps h r hr with hblank | ⟨d, hproblem⟩ | hline
  · rw [hblank]
    exact oneLine_empty
  · rw [hproblem]
    exact d.oneLine_embed
  · exact hP _ hline

end Piece

/-! ### The writer -/

namespace Writer

open Piece

variable {P : String → Prop}

/-- A line adds its row. -/
theorem line_eq (w : Writer) (s : String) :
    w.line s = ⟨w.text ++ Row.textAll [⟨w.level, s⟩], w.level⟩ := by
  rw [line, Row.textAll_singleton, Row.text, Row.isBlank]
  split <;> simp [String.append_assoc]

mutual

/-- **A piece adds its rows** and leaves the level as it was. -/
theorem piece_eq : ∀ (p : Piece), Written P p → ∀ w : Writer,
    w.piece p = ⟨w.text ++ Row.textAll (rows w.level p), w.level⟩
  | .line s, _, w => by simp only [piece, rows, line_eq]
  | .blank, _, w => by simp only [piece, rows, line_eq]
  | .indent, h, _ | .dedent, h, _ => by simp [Written] at h
  | .block header close body, h, w => by
      rw [Written] at h
      simp only [piece, rows, line_eq, indent, pieces_eq body h.2.2.1, dedent,
        Nat.add_sub_cancel, String.append_assoc, ← Row.textAll_append, List.cons_append,
        List.nil_append]
  | .region name body, h, w => by
      rw [Written] at h
      simp only [piece, rows, line_eq, pieces_eq body h.2.1, String.append_assoc,
        ← Row.textAll_append, List.append_assoc]
  | .inNamespace name body, h, w => by
      rw [Written] at h
      rw [piece, rows]
      split
      · rw [pieces_eq body h.1]
      · simp only [line_eq, indent, pieces_eq body h.1, dedent, Nat.add_sub_cancel,
          String.append_assoc, ← Row.textAll_append, List.cons_append, List.nil_append]
  | .diagnostic d, _, w => by simp only [piece, rows, line_eq]

/-- **Pieces add their rows** and leave the level as it was. -/
theorem pieces_eq : ∀ (ps : List Piece), WrittenAll P ps → ∀ w : Writer,
    w.pieces ps = ⟨w.text ++ Row.textAll (rowsAll w.level ps), w.level⟩
  | [], _, w => by simp [pieces, rowsAll, Row.textAll]
  | p :: ps, h, w => by
      rw [WrittenAll] at h
      rw [pieces, piece_eq p h.1, pieces_eq ps h.2, rowsAll, Row.textAll_append,
        String.append_assoc]

end

end Writer

/-! ### The finished text -/

/-- The rows of code as it is laid out: blank ones at the end are left out. -/
def laidOut (ps : List Piece) : List Row :=
  (Piece.rowsAll 0 ps).rdropWhile Row.isBlank

/-- Rows that end with one that is not blank are laid out. -/
theorem infix_laidOut {ps : List Piece} {front : List Row} {last : Row}
    (h : front ++ [last] <:+: Piece.rowsAll 0 ps) (hlast : last.isBlank = false) :
    front ++ [last] <:+: laidOut ps := by
  obtain ⟨before, behind, hrows⟩ := h
  refine ⟨before, behind.rdropWhile Row.isBlank, ?_⟩
  rw [laidOut, ← hrows, List.rdropWhile, List.rdropWhile, List.reverse_append,
    List.dropWhile_append]
  have hkept : (before ++ (front ++ [last])).reverse.dropWhile Row.isBlank =
      (before ++ (front ++ [last])).reverse := by
    simp [List.dropWhile_cons_of_neg, hlast]
  split
  · next hblank =>
      rw [hkept, List.reverse_reverse, List.isEmpty_iff.1 hblank, List.reverse_nil,
        List.append_nil]
  · rw [List.reverse_append, List.reverse_reverse]

/-- Rows with a line feed behind each but the last are joined by line feeds. -/
theorem textAll_append_text (rs : List Row) (r : Row) :
    Row.textAll rs ++ r.text = Text.join "\n" ((rs ++ [r]).map Row.text) := by
  induction rs with
  | nil => simp [Row.textAll, Text.join]
  | cons q rs ih =>
      rw [Row.textAll, String.append_assoc, ih]
      cases rs <;> simp [Text.join, String.append_assoc]

/-- The characters of rows, short of the line feeds at their end, are the rows short of the blank
ones at their end, with a line feed between any two. -/
theorem rdropWhile_textAll {rs : List Row} (h : ∀ r ∈ rs, OneLine r.content) :
    String.ofList ((Row.textAll rs).toList.rdropWhile (· == '\n')) =
      Text.join "\n" ((rs.rdropWhile Row.isBlank).map Row.text) := by
  induction rs using List.reverseRecOn with
  | nil => simp [Row.textAll, Text.join]
  | append_singleton rs r ih =>
      obtain ⟨hrs, hr⟩ := List.forall_mem_append.1 h
      have hr : OneLine r.text := Row.oneLine_text (hr r List.mem_cons_self)
      have hchars : (Row.textAll (rs ++ [r])).toList =
          ((Row.textAll rs).toList ++ r.text.toList) ++ ['\n'] := by
        simp [Row.textAll_append, Row.textAll_singleton]
      rw [hchars, List.rdropWhile_concat_pos _ _ _ (by decide)]
      by_cases hblank : r.isBlank = true
      · rw [List.rdropWhile_concat_pos _ _ _ hblank, Row.text_eq_empty_iff.2 hblank,
          String.toList_empty, List.append_nil, ih hrs]
      · -- The last character of the row ends the line feeds that are dropped.
        have hkept : ((Row.textAll rs).toList ++ r.text.toList).rdropWhile (· == '\n') =
            (Row.textAll rs).toList ++ r.text.toList := by
          have hne : r.text.toList ≠ [] := by
            rw [Ne, String.toList_eq_nil_iff, Row.text_eq_empty_iff]
            exact hblank
          rw [List.rdropWhile_eq_self_iff]
          intro hl hfeed
          rw [List.getLast_append_of_ne_nil _ hne, beq_iff_eq] at hfeed
          exact hr (hfeed ▸ List.getLast_mem hne)
        rw [hkept, List.rdropWhile_concat_neg _ _ _ hblank, ← textAll_append_text]
        simp

/-- **The text of laid out code** is its rows with a line feed behind each. -/
theorem layOut_eq {P : String → Prop} (hP : ∀ s, P s → OneLine s) {ps : List Piece}
    (h : Piece.WrittenAll P ps) :
    layOut ps = Text.join "\n" ((laidOut ps).map Row.text) ++ "\n" := by
  rw [layOut, Writer.pieces_eq ps h, Writer.finish, laidOut,
    ← rdropWhile_textAll (Piece.oneLine_of_mem_rowsAll hP h)]
  simp [List.rdropWhile]

/-- **The lines of laid out code** are its rows; behind the last line feed there is nothing. -/
theorem split_layOut {P : String → Prop} (hP : ∀ s, P s → OneLine s) {ps : List Piece}
    (h : Piece.WrittenAll P ps) (hne : laidOut ps ≠ []) :
    Text.split '\n' (layOut ps) = (laidOut ps).map Row.text ++ [""] := by
  have hrows : ∀ r ∈ laidOut ps, Text.split '\n' r.text = [r.text] := by
    intro r hr
    have hrow := Piece.oneLine_of_mem_rowsAll hP h r ((List.rdropWhile_prefix _ _).subset hr)
    exact Text.split_of_not_mem (Row.oneLine_text hrow)
  have hjoined : Text.split '\n' (Text.join "\n" ((laidOut ps).map Row.text)) =
      (laidOut ps).map Row.text := by
    rw [Text.split_join (by simp) (by simpa using hne), List.flatMap_map,
      List.flatMap_congr hrows, ← List.map_eq_flatMap]
  rw [layOut_eq hP h, Text.split, String.toList_append,
    show "\n".toList = ['\n'] by simp, Text.splitChars_append, List.map_append]
  exact congrArg (· ++ [""]) hjoined

/-! ### Rows that carry problems -/

namespace Piece

variable {P : String → Prop} {D : String → Bool}

mutual

/-- Where no line looks like one that carries a problem, those that do are found by their looks. -/
theorem filter_contents_rows (hP : ∀ s, P s → D s = false) (hblank : D "" = false)
    (hembed : ∀ d : Diagnostic, D d.embed = true) (level : Nat) :
    ∀ p : Piece, Written P p →
      ((rows level p).map Row.content).filter D = (diagnostics p).map Diagnostic.embed
  | .line s, h => by
      rw [Written] at h
      simp [rows, diagnostics, hP s h]
  | .blank, _ => by simp [rows, diagnostics, hblank]
  | .indent, h | .dedent, h => by simp [Written] at h
  | .block header close body, h => by
      rw [Written] at h
      have hbody := filter_contents_rowsAll hP hblank hembed (level + 1) body h.2.2.1
      simp [rows, diagnostics, hP _ h.1, hP _ h.2.1, hP _ h.2.2.2, hbody]
  | .region name body, h => by
      rw [Written] at h
      have hbody := filter_contents_rowsAll hP hblank hembed level body h.2.1
      simp [rows, diagnostics, hP _ h.1, hP _ h.2.2, hbody]
  | .inNamespace name body, h => by
      rw [Written] at h
      rw [rows, diagnostics]
      split
      · exact filter_contents_rowsAll hP hblank hembed level body h.1
      · next hname =>
          obtain ⟨hheader, hopen, hclose⟩ := h.2 (by simpa using hname)
          have hbody := filter_contents_rowsAll hP hblank hembed (level + 1) body h.1
          simp [hP _ hheader, hP _ hopen, hP _ hclose, hbody]
  | .diagnostic d, _ => by simp [rows, diagnostics, hembed]

/-- Where no text that is written looks like an embedded diagnostic, the rows that do are the
diagnostics, in order. -/
theorem filter_contents_rowsAll (hP : ∀ s, P s → D s = false) (hblank : D "" = false)
    (hembed : ∀ d : Diagnostic, D d.embed = true) (level : Nat) :
    ∀ ps : List Piece, WrittenAll P ps →
      ((rowsAll level ps).map Row.content).filter D = (diagnosticsAll ps).map Diagnostic.embed
  | [], _ => by simp [rowsAll, diagnosticsAll]
  | p :: ps, h => by
      rw [WrittenAll] at h
      rw [rowsAll, diagnosticsAll, List.map_append, List.filter_append, List.map_append,
        filter_contents_rows hP hblank hembed level p h.1,
        filter_contents_rowsAll hP hblank hembed level ps h.2]

end

end Piece

/-- **The problems in laid out code.** Where no other line looks like one that carries a problem,
the contents that look like it are those of the problems, each once and in order. -/
theorem filter_contents_laidOut {P : String → Prop} {D : String → Bool}
    (hP : ∀ s, P s → D s = false) (hblank : D "" = false)
    (hembed : ∀ d : Diagnostic, D d.embed = true) {ps : List Piece}
    (h : Piece.WrittenAll P ps) :
    ((laidOut ps).map Row.content).filter D =
      (Piece.diagnosticsAll ps).map Diagnostic.embed := by
  have hdropped :
      (((Piece.rowsAll 0 ps).rtakeWhile Row.isBlank).map Row.content).filter D = [] := by
    simp only [List.filter_eq_nil_iff, List.forall_mem_map]
    intro r hr
    have hcontent : r.content = "" := by
      simpa [Row.isBlank] using List.mem_rtakeWhile_imp hr
    simp [hcontent, hblank]
  have hsplit : laidOut ps ++ (Piece.rowsAll 0 ps).rtakeWhile Row.isBlank = Piece.rowsAll 0 ps :=
    List.rdropWhile_append_rtakeWhile
  rw [← Piece.filter_contents_rowsAll hP hblank hembed 0 ps h, ← hsplit, List.map_append,
    List.filter_append, hdropped, List.append_nil]

end Companion
