import Companion.Text
import Companion.Text.CaseFold
import Companion.Text.Classes

/-!
# Patterns over text

A pattern is searched for anywhere in a text. This module has its abstract syntax and the
faults that its written form can have; `Companion.Pattern.Parser` reads the written form and
`Companion.Pattern.Match` says what a pattern matches.

Whether a repetition prefers more or fewer rounds does not change what is found, so the
syntax does not keep it.
-/

namespace Companion

/-- A class that an escape names. -/
inductive CharClass where
  | digit
  | blank
  | word
deriving Repr, DecidableEq, Hashable

def CharClass.holds : CharClass → Char → Bool
  | digit => Text.isDigit
  | blank => Text.isBlank
  | word => Text.isWordCharacter

/-- How two sets of characters are put together. -/
inductive SetOperation where
  | union
  | intersection
  | difference
  | symmetricDifference
deriving Repr, DecidableEq, Hashable

def SetOperation.holds : SetOperation → Bool → Bool → Bool
  | union, first, second => first || second
  | intersection, first, second => first && second
  | difference, first, second => first && !second
  | symmetricDifference, first, second => first != second

/-- A set of characters. -/
inductive CharSet where
  | none
  | range (least greatest : Char)
  | named (c : CharClass)
  | complement (s : CharSet)
  | combined (operation : SetOperation) (first second : CharSet)
  /-- The characters of which a variant, upper or lower, belongs to the set. -/
  | anyCase (s : CharSet)
deriving Repr, DecidableEq, Hashable

namespace CharSet

def holds : CharSet → Char → Bool
  | none, _ => false
  | range least greatest, c => least ≤ c && c ≤ greatest
  | named k, c => k.holds c
  | complement s, c => !s.holds c
  | combined operation s t, c => operation.holds (s.holds c) (t.holds c)
  | anyCase s, c => (Text.caseVariants c).any s.holds

/-- The characters of either set. -/
def union (s t : CharSet) : CharSet := combined .union s t

/-- A single character. -/
def single (c : Char) : CharSet := range c c

/-- A set or, if it is negated, all other characters. -/
def negatedIf (negated : Bool) (s : CharSet) : CharSet := if negated then complement s else s

/-- A set or, if case is ignored, the variants of its characters. -/
def anyCaseIf (ignoresCase : Bool) (s : CharSet) : CharSet := if ignoresCase then anyCase s else s

end CharSet

/-- What can be asked of a place in a text. Lines may end in a carriage return and a line feed. -/
inductive Assertion where
  | textStart
  | textEnd
  | lineStart (returns : Bool)
  | lineEnd (returns : Bool)
  | wordBoundary (negated : Bool)
  | wordStart
  | wordEnd
deriving Repr, DecidableEq, Hashable

/-- What a pattern consists of. -/
inductive Regex where
  | empty
  | char (s : CharSet)
  | assertion (a : Assertion)
  | seq (first second : Regex)
  | alt (first second : Regex)
  /-- From `least` to `most` rounds, or without limit. -/
  | repetition (r : Regex) (least : Nat) (most : Option Nat)
deriving Repr, DecidableEq, Hashable

/-- What can be wrong with the written form of a pattern. -/
inductive PatternFault where
  | groupUnclosed
  | groupUnopened
  | classUnclosed
  | classRangeInvalid
  | classRangeLiteral
  | classEscapeInvalid
  | repetitionMissing
  | repetitionUnclosed
  | repetitionCountEmpty
  | repetitionCountInvalid
  | decimalInvalid
  | escapeUnfinished
  | escapeUnrecognized
  | hexDigitInvalid
  | hexEmpty
  | hexInvalid
  | backreference
  | lookAround
  | flagUnfinished
  | flagUnrecognized
  | flagDuplicate
  | flagNegationRepeated
  | flagDanglingNegation
deriving Repr, DecidableEq

def PatternFault.message : PatternFault → String
  | groupUnclosed => "unclosed group"
  | groupUnopened => "unopened group"
  | classUnclosed => "unclosed character class"
  | classRangeInvalid => "invalid character class range, the start must be <= the end"
  | classRangeLiteral => "invalid range boundary, must be a literal"
  | classEscapeInvalid => "invalid escape sequence found in character class"
  | repetitionMissing => "repetition operator missing expression"
  | repetitionUnclosed => "unclosed counted repetition"
  | repetitionCountEmpty => "repetition quantifier expects a valid decimal"
  | repetitionCountInvalid =>
    "invalid repetition count range, the start must be <= the end"
  | decimalInvalid => "decimal literal invalid"
  | escapeUnfinished => "incomplete escape sequence, reached end of pattern prematurely"
  | escapeUnrecognized => "unrecognized escape sequence"
  | hexDigitInvalid => "invalid hexadecimal digit"
  | hexEmpty => "hexadecimal literal empty"
  | hexInvalid => "hexadecimal literal is not a Unicode scalar value"
  | backreference => "backreferences are not supported"
  | lookAround => "look-around, including look-ahead and look-behind, is not supported"
  | flagUnfinished => "expected flag but got end of regex"
  | flagUnrecognized => "unrecognized flag"
  | flagDuplicate => "duplicate flag"
  | flagNegationRepeated => "flag negation operator repeated"
  | flagDanglingNegation => "dangling flag negation operator"

/-- A fault and the columns it spans, from `start` up to but not including `stop`. A character that
must not come twice has an earlier column, where it came first. -/
structure PatternError where
  fault : PatternFault
  start : Nat
  stop : Nat
  earlier : Option Nat := none
deriving Repr, DecidableEq

/-- The marks below the columns of a fault. -/
def PatternError.marks (e : PatternError) : String :=
  let first :=
    match e.earlier with
    | some column => Text.replicate column ' ' ++ "^" ++ Text.replicate (e.start - column - 1) ' '
    | none => Text.replicate e.start ' '
  first ++ Text.replicate (max 1 (e.stop - e.start)) '^'

/-- The report on a pattern: the pattern, the span marked below it, and the fault. -/
def PatternError.message (e : PatternError) (pattern : String) : String :=
  "regex parse error:\n    " ++ pattern ++ "\n    " ++ e.marks ++ "\nerror: " ++ e.fault.message

end Companion
