import Companion.Diagnostic.Basic

/-!
# Laying out generated code

Generated code is a list of `Piece`s: lines, and blocks around further pieces. A `Writer` lays
them out. It keeps the text so far and the current level; a line is indented by four blanks for
each level, and an empty line not at all. `Writer.finish` takes the blank lines off the end of
the text and leaves one line feed there.
-/

namespace Companion

/-- A piece of generated code. -/
inductive Piece where
  | line (text : String)
  | blank
  | indent
  | dedent
  /-- A header, the body between braces, and the closing line. -/
  | block (header close : String) (body : List Piece)
  | region (name : String) (body : List Piece)
  /-- A namespace around the body; the global namespace is not written. -/
  | inNamespace (name : String) (body : List Piece)
  | diagnostic (d : Diagnostic)
deriving Repr

namespace Piece

/-- A block that a brace closes. -/
def braces (header : String) (body : List Piece) : Piece := .block header "\x7d" body

/-- Lines, one after the other. -/
def lines (texts : List String) : List Piece := texts.map .line

/-- Groups of pieces with a blank line between any two; empty groups are left out. -/
def separated (groups : List (List Piece)) : List Piece :=
  List.intercalate [.blank] (groups.filter (!·.isEmpty))

/-- An element of a documentation comment. -/
def element (tag : String) (content : List String) : List Piece :=
  lines (["/// <" ++ tag ++ ">"] ++ content.map ("/// " ++ ·) ++ ["/// </" ++ tag ++ ">"])

/-- The summary of a documentation comment. -/
def summary (content : List String) : List Piece := element "summary" content

/-- The remarks of a documentation comment. -/
def remarks (content : List String) : List Piece := element "remarks" content

/-- The comment of a member that is documented where it is declared first. -/
def inheritedDoc : Piece := .line "/// <inheritdoc />"

mutual

/-- The diagnostics within a piece, in order. -/
def diagnostics : Piece → List Diagnostic
  | .line _ | .blank | .indent | .dedent => []
  | .block _ _ body | .region _ body | .inNamespace _ body => diagnosticsAll body
  | .diagnostic d => [d]

/-- The diagnostics within pieces, in order. -/
def diagnosticsAll : List Piece → List Diagnostic
  | [] => []
  | p :: ps => diagnostics p ++ diagnosticsAll ps

end

end Piece

/-- A text in the making. -/
structure Writer where
  text : String := ""
  level : Nat := 0
deriving Repr, DecidableEq

namespace Writer

/-- Write one line at the current level. -/
def line (w : Writer) (s : String) : Writer :=
  if s.isEmpty then { w with text := w.text ++ "\n" }
  else { w with text := w.text ++ Text.replicate (4 * w.level) ' ' ++ s ++ "\n" }

def indent (w : Writer) : Writer := { w with level := w.level + 1 }

/-- One level back; the outermost level stays. -/
def dedent (w : Writer) : Writer := { w with level := w.level - 1 }

/-- The finished text: no blank lines at its end, and one line feed. -/
def finish (w : Writer) : String :=
  String.ofList ((w.text.toList.reverse.dropWhile (· == '\n')).reverse) ++ "\n"

mutual

/-- Write a piece. -/
def piece (w : Writer) : Piece → Writer
  | .line s => w.line s
  | .blank => w.line ""
  | .indent => w.indent
  | .dedent => w.dedent
  | .block header close body =>
    (pieces ((w.line header).line "\x7b").indent body).dedent.line close
  | .region name body => (pieces (w.line ("#region " ++ name)) body).line "#endregion"
  | .inNamespace name body =>
    if name.isEmpty then pieces w body
    else
      (pieces ((w.line ("namespace " ++ name)).line "\x7b").indent body).dedent.line "\x7d"
  | .diagnostic d => w.line d.embed

/-- Write pieces one after the other. -/
def pieces (w : Writer) : List Piece → Writer
  | [] => w
  | p :: ps => pieces (piece w p) ps

end

end Writer

/-- The text of a list of pieces. -/
def layOut (ps : List Piece) : String := (Writer.pieces {} ps).finish

end Companion
