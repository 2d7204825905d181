import Std.Data.HashSet
import Companion.Pattern.Syntax

/-!
# What a pattern matches

A text is read once from left to right. Where some characters of a match have been read,
`Regex.rests` gives what is left of the pattern: one pattern for each way to go on behind the
next character, and a match ends where one of them accepts no further character. A pattern
has finitely many rests, so the work on a character does not grow with the text.

A place lies between two characters, and assertions look at both of them.
-/

namespace Companion

/-- A place in a text: the characters on its two sides, absent at the ends of the text. -/
structure Place where
  before : Option Char
  after : Option Char
deriving Repr, DecidableEq

def Assertion.holds (place : Place) : Assertion → Bool
  | textStart => place.before.isNone
  | textEnd => place.after.isNone
  | lineStart false => place.before.all (· == '\n')
  | lineStart true =>
    place.before.all fun c => c == '\n' || c == '\r' && place.after != some '\n'
  | lineEnd false => place.after.all (· == '\n')
  | lineEnd true =>
    place.after.all fun c => c == '\r' || c == '\n' && place.before != some '\r'
  | wordBoundary negated =>
    (place.before.any Text.isWordCharacter != place.after.any Text.isWordCharacter) != negated
  | wordStart => !place.before.any Text.isWordCharacter && place.after.any Text.isWordCharacter
  | wordEnd => place.before.any Text.isWordCharacter && !place.after.any Text.isWordCharacter

namespace Regex

/-- Whether a match at the place can be without characters. -/
def acceptsEmpty (place : Place) : Regex → Bool
  | empty => true
  | char _ => false
  | assertion a => a.holds place
  | seq r s => acceptsEmpty place r && acceptsEmpty place s
  | alt r s => acceptsEmpty place r || acceptsEmpty place s
  | repetition r least _ => least == 0 || acceptsEmpty place r

/-- One pattern and another behind it. -/
def andThen : Regex → Regex → Regex
  | empty, s => s
  | r, s => seq r s

/-- What can be left of a pattern behind the character after the place. A round of a repetition
that accepts no character may be made any number of times before the round that takes the
character, so then no more rounds are needed behind it. -/
def rests (place : Place) : Regex → List Regex
  | empty => []
  | char s => if place.after.any s.holds then [empty] else []
  | assertion _ => []
  | seq r s =>
    (rests place r).map (andThen · s) ++ if acceptsEmpty place r then rests place s else []
  | alt r s => rests place r ++ rests place s
  | repetition _ _ (some 0) => []
  | repetition r least most =>
    let least := if acceptsEmpty place r then 0 else least - 1
    (rests place r).map (andThen · (repetition r least (most.map (· - 1))))

/-- The patterns of a list that were not seen, each one once. -/
def unseen (seen : Std.HashSet Regex) : List Regex → List Regex
  | [] => []
  | r :: rest => if seen.contains r then unseen seen rest else r :: unseen (seen.insert r) rest

/-- The patterns of a list, each one once. -/
def distinct (rs : List Regex) : List Regex := unseen ∅ rs

/-- Whether a match ends at the place behind `before` or further on in the text. `states` are the
rests of the matches under way, and the pattern `r` starts anew at every place. -/
def endsWithin (r : Regex) (states : List Regex) (before : Option Char) : List Char → Bool
  | [] => states.any (acceptsEmpty ⟨before, none⟩)
  | c :: text =>
    let place : Place := ⟨before, some c⟩
    states.any (acceptsEmpty place) ||
      endsWithin r (distinct (r :: states.flatMap (rests place))) (some c) text

/-- Whether the pattern matches somewhere in the text. -/
def isMatch (r : Regex) (text : String) : Bool := r.endsWithin [r] none text.toList

end Regex

end Companion
