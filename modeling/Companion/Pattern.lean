import Companion.Pattern.Match
import Companion.Pattern.Parser

/-!
# Patterns and their engines

A pattern is searched for anywhere in a text. Which written forms are patterns, and what a pattern
is found in, is for a `PatternEngine` to say. Nothing that is generated relies on more: every
configuration holds the engine that reads its patterns, and any engine will do.

`Regex.engine` is the engine for regular expressions in the syntax of `Companion.Pattern.Parser`.
-/

namespace Companion

/-- A pattern: its written form, which listings show, and whether it is found in a text. -/
structure Pattern where
  source : String
  isMatch : String → Bool

/-- What reads patterns: a written form is compiled to the texts that the pattern is found in, or
refused with an explanation. -/
structure PatternEngine where
  compile : String → Except String (String → Bool)

/-- Read the written form of a pattern. -/
def Pattern.ofSource (engine : PatternEngine) (source : String) : Except String Pattern :=
  (engine.compile source).map fun isMatch => ⟨source, isMatch⟩

/-- The engine for regular expressions. -/
def Regex.engine : PatternEngine where
  compile source :=
    match Regex.parse source with
    | .ok regex => .ok regex.isMatch
    | .error e => .error (e.message source)

end Companion
