/-!
# Cutting and joining text

Small functions on `String` that the names, the paths and the emitted lines need. They work
on the list of characters, so that each has a plain recursion behind it.
-/

namespace Companion.Text

/-- The pieces of a text between the occurrences of a character; one more piece than there
are occurrences. -/
def splitChars (separator : Char) : List Char → List (List Char)
  | [] => [[]]
  | c :: cs =>
    if c = separator then [] :: splitChars separator cs
    else
      match splitChars separator cs with
      | piece :: pieces => (c :: piece) :: pieces
      | [] => [[c]]

/-- Cutting loses nothing: the pieces with the separator between them are the text again. -/
theorem intercalate_splitChars (separator : Char) (s : List Char) :
    [separator].intercalate (splitChars separator s) = s := by
  induction s with
  | nil => rfl
  | cons c cs ih =>
    by_cases h : c = separator
    · cases hs : splitChars separator cs with
      | nil => simp_all [splitChars, List.intercalate]
      | cons piece pieces => simp_all [splitChars, List.intercalate]
    · cases hs : splitChars separator cs with
      | nil => simp_all [splitChars, List.intercalate]
      | cons piece pieces =>
        rw [hs] at ih
        cases pieces <;> simp_all [splitChars, List.intercalate]

/-- No piece holds the separator. -/
theorem not_mem_of_mem_splitChars {separator : Char} {s piece : List Char}
    (h : piece ∈ splitChars separator s) : separator ∉ piece := by
  induction s generalizing piece with
  | nil => simp_all [splitChars]
  | cons c cs ih =>
    by_cases hc : c = separator
    · simp only [splitChars, hc, if_true, List.mem_cons] at h
      rcases h with rfl | h
      · simp
      · exact ih h
    · cases hs : splitChars separator cs with
      | nil =>
        simp only [splitChars, hc, if_false, hs, List.mem_singleton] at h
        simpa [h] using Ne.symm hc
      | cons first pieces =>
        simp only [splitChars, hc, if_false, hs, List.mem_cons] at h
        rcases h with rfl | h
        · have hfirst : first ∈ splitChars separator cs := by simp [hs]
          simpa using And.intro (Ne.symm hc) (ih hfirst)
        · exact ih (by simp [hs, h])

/-- `splitChars` on a text. -/
def split (separator : Char) (s : String) : List String :=
  (splitChars separator s.toList).map String.ofList

/-- The texts in order, with a separator between any two. -/
def join (separator : String) (pieces : List String) : String :=
  String.intercalate separator pieces

/-- Every occurrence of a character replaced by another one. -/
def replaceChar (c d : Char) (s : String) : String :=
  String.ofList (s.toList.map fun x => if x = c then d else x)

/-- The text before the first occurrence of a character; all of it if there is none. -/
def before (c : Char) (s : String) : String := String.ofList (s.toList.takeWhile (· ≠ c))

/-- What stands behind a text at the start of another; nothing if it does not start so. -/
def behind? (start s : String) : Option String :=
  if start.toList.isPrefixOf s.toList then some (String.ofList (s.toList.drop start.length))
  else none

/-- A character `n` times. -/
def replicate (n : Nat) (c : Char) : String := String.ofList (List.replicate n c)

end Companion.Text
