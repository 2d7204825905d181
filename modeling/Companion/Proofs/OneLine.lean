import Companion.Diagnostic.Basic
import Companion.Proofs.Text

/-!
# Texts of One Line

Generated code is put together from fixed texts and from names. Whether a text has a line feed is
settled by its parts, for every way of cutting and joining texts that the generators use. A fixed
text is settled by its characters.

## Main results

* `oneLine_append`, `OneLine.join`: texts put together.
* `OneLine.fixed`: fixed texts.
* `Diagnostic.oneLine_embed`: a problem is carried into code on one line, whatever its message.
-/

namespace Companion

/-- Whether a text has no line feed. -/
def OneLine (s : String) : Prop := '\n' ∉ s.toList

instance (s : String) : Decidable (OneLine s) := inferInstanceAs (Decidable ('\n' ∉ s.toList))

/-- Two texts in a row are on one line if both are. -/
@[simp] theorem oneLine_append {s t : String} : OneLine (s ++ t) ↔ OneLine s ∧ OneLine t := by
  simp [OneLine, not_or]

/-- Characters are on one line if no line feed is among them. -/
@[simp] theorem oneLine_ofList {cs : List Char} : OneLine (String.ofList cs) ↔ '\n' ∉ cs := by
  simp [OneLine]

@[simp] theorem oneLine_empty : OneLine "" := by simp [OneLine]

namespace OneLine

variable {s : String}

/-- A fixed text has no line feed if none of its characters is one. -/
theorem fixed {cs : List Char} (h : cs.all (· != '\n') = true) : OneLine (String.ofList cs) := by
  rw [oneLine_ofList]
  intro hfeed
  simpa using List.all_eq_true.1 h _ hfeed

/-- A text whose bytes do not include the code of a line feed. Bytes are faster to compute than
characters. -/
theorem of_bytes (h : 10 ∉ s.toByteArray.data.toList) : OneLine s := by
  intro hfeed
  have hbytes : s.toByteArray.data.toList = s.toList.flatMap String.utf8EncodeChar := by
    rw [← String.utf8Encode_toList, List.utf8Encode, List.data_toByteArray]
  refine h ?_
  rw [hbytes, List.mem_flatMap]
  exact ⟨'\n', hfeed, by decide⟩

/-- A text made of characters of another one. -/
theorem of_subset {t : String} (h : OneLine s) (hsub : t.toList ⊆ s.toList) : OneLine t :=
  fun hfeed => h (hsub hfeed)

/-- Pieces that are on one line stay so when joined by a text that is. -/
theorem join {between : String} (hbetween : OneLine between) {pieces : List String}
    (h : ∀ p ∈ pieces, OneLine p) : OneLine (Text.join between pieces) := by
  intro hfeed
  rcases Text.mem_toList_join hfeed with hfeed | ⟨p, hp, hfeed⟩
  · exact hbetween hfeed
  · exact h p hp hfeed

/-- Each piece of a text on one line is on one line. -/
theorem of_mem_split (h : OneLine s) {separator : Char} {piece : String}
    (hpiece : piece ∈ Text.split separator s) : OneLine piece :=
  h.of_subset (Text.subset_of_mem_split hpiece)

/-- What stands before a character is on one line with the rest. -/
theorem before (h : OneLine s) (c : Char) : OneLine (Text.before c s) := by
  refine h.of_subset ?_
  rw [Text.before, String.toList_ofList]
  exact (List.takeWhile_sublist _).subset

/-- To replace a character by another one that is no line feed keeps a text on one line. -/
theorem replaceChar (h : OneLine s) {c d : Char} (hd : d ≠ '\n') :
    OneLine (Text.replaceChar c d s) := by
  rw [Text.replaceChar, oneLine_ofList, List.mem_map]
  rintro ⟨x, hx, hfeed⟩
  split at hfeed
  · exact hd hfeed
  · exact h (hfeed ▸ hx)

/-- A character many times is on one line unless it is a line feed. -/
theorem replicate (n : Nat) {c : Char} (hc : c ≠ '\n') : OneLine (Text.replicate n c) := by
  rw [Text.replicate, oneLine_ofList]
  exact fun hfeed => hc (List.eq_of_mem_replicate hfeed).symm

/-- What follows the start of a text on one line is on one line. -/
theorem of_behind? {start t : String} (h : OneLine s) (ht : Text.behind? start s = some t) :
    OneLine t := by
  rw [Text.behind?] at ht
  split at ht
  · obtain rfl := Option.some.inj ht
    refine h.of_subset ?_
    rw [String.toList_ofList]
    exact (List.drop_sublist _ _).subset
  · cases ht

/-- A number is written in digits. -/
theorem repr (n : Nat) : OneLine n.repr := by
  intro hfeed
  rw [Nat.toList_repr] at hfeed
  cases Nat.isDigit_of_mem_toDigits (by decide) (by decide) hfeed

/-- The decimal digits of a number are on one line. -/
theorem toString_nat (n : Nat) : OneLine (toString n) := by
  rw [Nat.toString_eq_repr]
  exact repr n

/-- So are those of a number with a sign. -/
theorem toString_int (i : Int) : OneLine (toString i) := by
  cases i with
  | ofNat n => exact toString_nat n
  | negSucc n =>
      change OneLine ("-" ++ toString (n + 1))
      exact oneLine_append.2 ⟨.fixed rfl, toString_nat _⟩

end OneLine

/-- **A problem is carried on one line.** Breaks in its message become blanks. -/
theorem Diagnostic.oneLine_embed (d : Diagnostic) : OneLine d.embed := by
  have hdirective : OneLine d.severity.directive := by
    cases d.severity with
    | error => exact .fixed rfl
    | warning => exact .fixed rfl
  rw [embed, oneLine_append, oneLine_append]
  refine ⟨⟨hdirective, .fixed rfl⟩, ?_⟩
  rw [Text.replaceChar, oneLine_ofList, List.mem_map]
  rintro ⟨x, -, hfeed⟩
  split at hfeed
  · cases hfeed
  · next hx => exact hx hfeed

end Companion
