import Companion.Proofs.Layout
import Mathlib.Logic.Function.Iterate

/-!
# The Rendering of Nested Code

The writer goes through code from front to back and keeps the level it is at. The lines of code can
also be told without a level, from the inside out: the lines of a block are its header, a brace, the
lines of its body shifted by four blanks, and its closing line. An empty line is not shifted. The
rendering of code is its lines, short of the empty ones at the end, with a line feed behind each.

The writer arrives at the rendering, and at the level it started from, for all code in which no
piece changes the level on its own and no line has a line feed. This is the code of which generated
units are made.

## Main results

* `Piece.map_text_rowsAll`: the rows at a level are the lines, shifted once for each level.
* `Writer.exists_finish_eq`: a finished text ends with exactly one line feed.
* `Writer.finish_pieces`: what the writer arrives at.
-/

namespace Companion

/-- A line shifted by four blanks; an empty line stays as it is. -/
def shifted (s : String) : String := if s.isEmpty then s else "    " ++ s

/-- A row that is shifted is the row of the same content one level further in. -/
theorem shifted_text (level : ℕ) (s : String) :
    shifted (Row.mk level s).text = (Row.mk (level + 1) s).text := by
  by_cases hs : s = ""
  · simp [hs, shifted, Row.text, Row.isBlank]
  · have htext : ∀ n, (Row.mk n s).text = Text.replicate (4 * n) ' ' ++ s := fun n => by
      simp [Row.text, Row.isBlank, hs]
    have hblanks : Text.replicate (4 * (level + 1)) ' ' =
        "    " ++ Text.replicate (4 * level) ' ' := by
      rw [Text.replicate, Nat.mul_succ, Nat.add_comm, List.replicate_add, String.ofList_append]
      rfl
    have hne : ¬ (Text.replicate (4 * level) ' ' ++ s).isEmpty = true := by
      simp [hs]
    rw [htext, htext, shifted, if_neg hne, hblanks, String.append_assoc]

/-- Shifting a line once for each level indents it as a row of that level is indented. -/
theorem iterate_shifted (level : ℕ) (s : String) : shifted^[level] s = (Row.mk level s).text := by
  induction level with
  | zero =>
      by_cases hs : s = ""
      · simp [hs, Row.text, Row.isBlank]
      · simp [hs, Row.text, Row.isBlank, Text.replicate]
  | succ level ih => rw [Function.iterate_succ_apply', ih, shifted_text]

namespace Piece

mutual

/-- The lines of a piece, from the inside out. -/
def printed : Piece → List String
  | .line s => [s]
  | .blank => [""]
  | .indent | .dedent => []
  | .block header close body => [header, "\x7b"] ++ (printedAll body).map shifted ++ [close]
  | .region name body => ["#region " ++ name] ++ printedAll body ++ ["#endregion"]
  | .inNamespace name body =>
    if name.isEmpty then printedAll body
    else ["namespace " ++ name, "\x7b"] ++ (printedAll body).map shifted ++ ["\x7d"]
  | .diagnostic d => [d.embed]

/-- The lines of pieces, one after the other. -/
def printedAll : List Piece → List String
  | [] => []
  | p :: ps => printed p ++ printedAll ps

end

mutual

/-- **The rows of a piece at a level** are its lines, shifted once for each level. -/
theorem map_text_rows (level : ℕ) : ∀ p : Piece,
    (rows level p).map Row.text = (printed p).map shifted^[level]
  | .line s | .diagnostic d => by simp [rows, printed, iterate_shifted]
  | .blank => by simp [rows, printed, iterate_shifted]
  | .indent | .dedent => rfl
  | .block header close body => by
      simp [rows, printed, iterate_shifted, map_text_rowsAll (level + 1) body,
        Function.iterate_succ]
  | .region name body => by
      simp [rows, printed, iterate_shifted, map_text_rowsAll level body]
  | .inNamespace name body => by
      rw [rows, printed]
      split
      · exact map_text_rowsAll level body
      · simp [iterate_shifted, map_text_rowsAll (level + 1) body, Function.iterate_succ]

theorem map_text_rowsAll (level : ℕ) : ∀ ps : List Piece,
    (rowsAll level ps).map Row.text = (printedAll ps).map shifted^[level]
  | [] => rfl
  | p :: ps => by
      simp [rowsAll, printedAll, map_text_rows level p, map_text_rowsAll level ps]

end

end Piece

/-- The rendering of lines: without the empty ones at the end, and with a line feed behind each. -/
def rendering (lines : List String) : String :=
  Text.join "\n" (lines.rdropWhile (·.isEmpty)) ++ "\n"

/-- The rows that are left out as blank are those whose texts are left out as empty. -/
theorem rdropWhile_map_text (rs : List Row) :
    (rs.map Row.text).rdropWhile (·.isEmpty) = (rs.rdropWhile Row.isBlank).map Row.text := by
  have hblank : (fun s : String => s.isEmpty) ∘ Row.text = Row.isBlank := by
    funext r
    rw [Bool.eq_iff_iff, Function.comp_apply, String.isEmpty_iff, Row.text_eq_empty_iff]
  rw [List.rdropWhile, ← List.map_reverse, List.dropWhile_map, hblank, ← List.map_reverse,
    List.rdropWhile]

namespace Writer

/-- Whatever has been written, the finished text ends with exactly one line feed. -/
theorem exists_finish_eq (w : Writer) :
    ∃ body : String, w.finish = body ++ "\n" ∧ body.toList.getLast? ≠ some '\n' := by
  refine ⟨_, rfl, fun hlast => ?_⟩
  rw [String.toList_ofList] at hlast
  obtain ⟨hne, hfeed⟩ := List.mem_getLast?_eq_getLast hlast
  exact List.rdropWhile_last_not (· == '\n') w.text.toList hne (beq_iff_eq.2 hfeed.symm)

/-- **What the writer arrives at**, for code in which blocks nest and no line has a line feed: it is
at the level where it was before, whatever it has written. A writer that has written nothing
finishes with the rendering of the lines, shifted once for each level it started at; so laid out
code is the rendering of its lines as they are. It ends with exactly one line feed. -/
theorem finish_pieces {ps : List Piece} (h : Piece.WrittenAll OneLine ps) :
    (∀ w : Writer, (w.pieces ps).level = w.level) ∧
      (∀ level, (pieces ⟨"", level⟩ ps).finish =
        rendering ((Piece.printedAll ps).map shifted^[level])) ∧
      layOut ps = rendering (Piece.printedAll ps) ∧
      ∃ body : String, layOut ps = body ++ "\n" ∧ body.toList.getLast? ≠ some '\n' := by
  have hfinish : ∀ level, (pieces ⟨"", level⟩ ps).finish =
      rendering ((Piece.printedAll ps).map shifted^[level]) := by
    intro level
    have hrows : ∀ r ∈ Piece.rowsAll level ps, OneLine r.content :=
      Piece.oneLine_of_mem_rowsAll (fun _ => id) h
    rw [pieces_eq ps h, finish, rendering, ← Piece.map_text_rowsAll, rdropWhile_map_text,
      ← rdropWhile_textAll hrows, String.empty_append, List.rdropWhile]
  refine ⟨fun w => by rw [pieces_eq ps h], hfinish, ?_, exists_finish_eq _⟩
  have hzero := hfinish 0
  rwa [Function.iterate_zero, List.map_id] at hzero

/-- A class with a field, a block that is closed by a line of its own, and a region with a problem
in the global namespace; there are blank lines within and behind it. -/
def nestedCode : List Piece :=
  [.inNamespace "Shop" [.braces "partial class Item" [.line "private int _x;", .blank,
    .block "static readonly int[] Values = new[]" "\x7d;" [.line "1,"],
    .inNamespace "" [.region "Hash"
      [.diagnostic { code := .noHashMembers, severity := .warning, message := "no\nmembers" },
        .line ""]]]],
    .blank, .blank]

/-- How this code is laid out, and that a writer is at its level again behind it. -/
theorem nestedCode_rendered :
    Piece.WrittenAll OneLine nestedCode ∧
      (∀ w : Writer, (w.pieces nestedCode).level = w.level) ∧
      layOut nestedCode =
        "namespace Shop\n" ++
        "\x7b\n" ++
        "    partial class Item\n" ++
        "    \x7b\n" ++
        "        private int _x;\n" ++
        "\n" ++
        "        static readonly int[] Values = new[]\n" ++
        "        \x7b\n" ++
        "            1,\n" ++
        "        \x7d;\n" ++
        "        #region Hash\n" ++
        "        #warning no members\n" ++
        "\n" ++
        "        #endregion\n" ++
        "    \x7d\n" ++
        "\x7d\n" := by
  have hwritten : Piece.WrittenAll OneLine nestedCode := by
    simp only [nestedCode, Piece.braces, Piece.WrittenAll, Piece.Written]
    decide +kernel
  obtain ⟨hlevel, -, hrendering, -⟩ := finish_pieces hwritten
  refine ⟨hwritten, hlevel, ?_⟩
  rw [hrendering]
  decide +kernel

end Writer

end Companion
