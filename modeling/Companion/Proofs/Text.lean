import Companion.Text

/-!
# Cutting Undoes Joining

`Text.join` writes pieces with a separator between any two, and `Text.split` cuts a text at a
character. A piece may hold the separator itself, so a joined text does not determine its pieces.
It determines what is left of them when each piece is cut too, and nothing more.

## Main results

* `split_join`: cutting a joined text cuts each of its pieces.
* `join_split`: joining what was cut gives the text again.
* `join_eq_join_iff`: two joined texts are equal exactly when their pieces, each cut at the
  separator, are the same list.
* `append_ne_append`: texts are told apart by beginnings neither of which begins the other.
-/

namespace Companion.Text

/-! ### Lists of characters -/

/-- There is always a piece, perhaps an empty one. -/
theorem splitChars_ne_nil (separator : Char) (s : List Char) : splitChars separator s ≠ [] := by
  cases s with
  | nil => simp [splitChars]
  | cons c cs =>
      by_cases hc : c = separator
      · simp [splitChars, hc]
      · cases hs : splitChars separator cs <;> simp [splitChars, hc, hs]

/-- A separator between two texts keeps their pieces apart. -/
theorem splitChars_append (separator : Char) (s t : List Char) :
    splitChars separator (s ++ separator :: t) =
      splitChars separator s ++ splitChars separator t := by
  induction s with
  | nil => simp [splitChars]
  | cons c cs ih =>
      by_cases hc : c = separator
      · simp [splitChars, hc, ih]
      · cases hs : splitChars separator cs with
        | nil => exact absurd hs (splitChars_ne_nil separator cs)
        | cons piece pieces => simp [splitChars, hc, ih, hs]

/-- A text without the separator is one piece. -/
theorem splitChars_of_not_mem {separator : Char} {s : List Char} (h : separator ∉ s) :
    splitChars separator s = [s] := by
  induction s with
  | nil => rfl
  | cons c cs ih =>
      simp only [List.mem_cons, not_or] at h
      simp [splitChars, Ne.symm h.1, ih h.2]

/-- A text without the separator goes to the last piece of the text before it. -/
theorem exists_splitChars_append {separator : Char} {t : List Char} (ht : separator ∉ t)
    (s : List Char) :
    ∃ before last, splitChars separator s = before ++ [last] ∧
      splitChars separator (s ++ t) = before ++ [last ++ t] := by
  induction s with
  | nil => exact ⟨[], [], rfl, splitChars_of_not_mem ht⟩
  | cons c cs ih =>
      obtain ⟨before, last, hs, hst⟩ := ih
      by_cases hc : c = separator
      · exact ⟨[] :: before, last, by simp [splitChars, hc, hs], by simp [splitChars, hc, hst]⟩
      · cases before with
        | nil => exact ⟨[], c :: last, by simp [splitChars, hc, hs], by simp [splitChars, hc, hst]⟩
        | cons piece before =>
            exact ⟨(c :: piece) :: before, last, by simp [splitChars, hc, hs],
              by simp [splitChars, hc, hst]⟩

/-- Joined lists keep the items of each. -/
theorem subset_intercalate {α : Type} (between : List α) {pieces : List (List α)} {p : List α}
    (h : p ∈ pieces) : p ⊆ between.intercalate pieces := by
  induction pieces with
  | nil => simp at h
  | cons q qs ih =>
      cases qs with
      | nil =>
          obtain rfl : p = q := by simpa using h
          simp
      | cons r rs =>
          rw [List.intercalate_cons_cons]
          rcases List.mem_cons.1 h with rfl | h
          · exact List.Subset.trans (List.subset_append_left _ _) (List.subset_append_left _ _)
          · exact List.Subset.trans (ih h) (List.subset_append_right _ _)

/-- A piece has characters of the text only. -/
theorem subset_of_mem_splitChars {separator : Char} {s piece : List Char}
    (h : piece ∈ splitChars separator s) : piece ⊆ s := by
  have hpiece := subset_intercalate [separator] h
  rwa [intercalate_splitChars] at hpiece

/-- Cutting pieces joined by the separator cuts each of them. -/
theorem splitChars_intercalate (separator : Char) {pieces : List (List Char)}
    (h : pieces ≠ []) :
    splitChars separator ([separator].intercalate pieces) =
      pieces.flatMap (splitChars separator) := by
  induction pieces with
  | nil => exact absurd rfl h
  | cons p ps ih =>
      cases ps with
      | nil => simp
      | cons q qs =>
          rw [List.intercalate_cons_cons, List.append_assoc, List.singleton_append,
            splitChars_append, ih (by simp)]
          simp only [List.flatMap_cons]

/-! ### Texts -/

/-- There is always a piece, perhaps an empty one. -/
theorem split_ne_nil (separator : Char) (s : String) : split separator s ≠ [] := by
  simpa [split] using splitChars_ne_nil separator s.toList

/-- A text without the separator is one piece. -/
theorem split_of_not_mem {separator : Char} {s : String} (h : separator ∉ s.toList) :
    split separator s = [s] := by
  simp [split, splitChars_of_not_mem h]

variable {between : String} {separator : Char}

/-- A separator between two texts keeps their pieces apart. -/
theorem split_append (hbetween : between.toList = [separator]) (s t : String) :
    split separator (s ++ between ++ t) = split separator s ++ split separator t := by
  rw [split, String.toList_append, String.toList_append, hbetween, List.append_assoc,
    List.singleton_append, splitChars_append, List.map_append]
  rfl

/-- A text without the separator goes to the last piece of the text before it. -/
theorem exists_split_append {t : String} (ht : separator ∉ t.toList) (s : String) :
    ∃ before last, split separator s = before ++ [last] ∧
      split separator (s ++ t) = before ++ [last ++ t] := by
  obtain ⟨before, last, hs, hst⟩ := exists_splitChars_append ht s.toList
  refine ⟨before.map String.ofList, String.ofList last, by simp [split, hs], ?_⟩
  simp [split, hst, String.ofList_append]

/-- No piece holds the separator. -/
theorem not_mem_of_mem_split {s piece : String} (h : piece ∈ split separator s) :
    separator ∉ piece.toList := by
  obtain ⟨cs, hcs, rfl⟩ := List.mem_map.1 h
  rw [String.toList_ofList]
  exact not_mem_of_mem_splitChars hcs

/-- A piece has characters of the text only. -/
theorem subset_of_mem_split {s piece : String} (h : piece ∈ split separator s) :
    piece.toList ⊆ s.toList := by
  obtain ⟨cs, hcs, rfl⟩ := List.mem_map.1 h
  rw [String.toList_ofList]
  exact subset_of_mem_splitChars hcs

/-- **Cutting a joined text** cuts each of its pieces. -/
theorem split_join (hbetween : between.toList = [separator]) {pieces : List String}
    (h : pieces ≠ []) :
    split separator (join between pieces) = pieces.flatMap (split separator) := by
  have hpieces : pieces.map String.toList ≠ [] := by simpa using h
  rw [split, join, String.toList_intercalate, hbetween, splitChars_intercalate _ hpieces]
  simp only [List.flatMap_map, List.map_flatMap]
  rfl

/-- The characters of a joined text are those of its pieces and of the separator. -/
theorem mem_toList_join {x : Char} {pieces : List String}
    (h : x ∈ (join between pieces).toList) :
    x ∈ between.toList ∨ ∃ p ∈ pieces, x ∈ p.toList := by
  rw [join, String.toList_intercalate] at h
  induction pieces with
  | nil => simp at h
  | cons p ps ih =>
      cases ps with
      | nil => exact Or.inr ⟨p, by simp, by simpa using h⟩
      | cons q qs =>
          rw [List.map_cons, List.map_cons, List.intercalate_cons_cons, List.mem_append,
            List.mem_append] at h
          rcases h with (hp | hbetween) | hrest
          · exact Or.inr ⟨p, by simp, hp⟩
          · exact Or.inl hbetween
          · rcases ih (by simpa using hrest) with hbetween | ⟨r, hr, hx⟩
            · exact Or.inl hbetween
            · exact Or.inr ⟨r, List.mem_cons_of_mem _ hr, hx⟩

/-- A joined text starts with the first piece and the separator, if more pieces follow. -/
theorem join_cons (between p : String) {pieces : List String} (h : pieces ≠ []) :
    join between (p :: pieces) = p ++ between ++ join between pieces :=
  String.intercalate_cons_of_ne_nil h

/-- A joined text changes with a piece of it by nothing but the piece. -/
theorem exists_join_append_cons (between : String) (before after : List String) :
    ∃ front back : String, ∀ p, join between (before ++ p :: after) = front ++ p ++ back := by
  induction before with
  | nil =>
      cases after with
      | nil => exact ⟨"", "", fun p => by simp [join]⟩
      | cons q qs =>
          refine ⟨"", between ++ join between (q :: qs), fun p => ?_⟩
          rw [List.nil_append, join_cons between p (List.cons_ne_nil q qs), String.empty_append,
            String.append_assoc]
  | cons q qs ih =>
      obtain ⟨front, back, hrest⟩ := ih
      refine ⟨q ++ between ++ front, back, fun p => ?_⟩
      rw [List.cons_append, join_cons between q (by simp), hrest p]
      simp only [String.append_assoc]

/-- **Joining what was cut** gives the text again. -/
theorem join_split (hbetween : between.toList = [separator]) (s : String) :
    join between (split separator s) = s := by
  rw [← String.toList_inj, join, String.toList_intercalate, hbetween, split, List.map_map]
  have hmap : (String.toList ∘ String.ofList) = id := by
    funext l
    simp
  rw [hmap, List.map_id, intercalate_splitChars]

/-- A text is determined by its pieces. -/
theorem split_inj {s t : String} : split separator s = split separator t ↔ s = t := by
  refine ⟨fun h => ?_, fun h => h ▸ rfl⟩
  have hbetween : (String.singleton separator).toList = [separator] := by simp
  rw [← join_split hbetween s, h, join_split hbetween t]

/-- Two joined texts are equal exactly when their pieces, each cut at the separator, are the
same list. -/
theorem join_eq_join_iff (hbetween : between.toList = [separator]) {ps qs : List String}
    (hps : ps ≠ []) (hqs : qs ≠ []) :
    join between ps = join between qs ↔
      ps.flatMap (split separator) = qs.flatMap (split separator) := by
  rw [← split_join hbetween hps, ← split_join hbetween hqs, split_inj]

/-! ### Texts by their beginnings -/

/-- Two beginnings, neither of which is the beginning of the other, tell texts apart. -/
theorem append_ne_append {p q : String} (h : ¬ p.toList <+: q.toList)
    (h' : ¬ q.toList <+: p.toList) (x y : String) : p ++ x ≠ q ++ y := by
  intro heq
  have heq := congrArg String.toList heq
  rw [String.toList_append, String.toList_append] at heq
  have hq : q.toList <+: p.toList ++ x.toList := heq ▸ List.prefix_append q.toList y.toList
  rcases List.prefix_or_prefix_of_prefix (List.prefix_append p.toList x.toList) hq with hp | hp
  · exact h hp
  · exact h' hp

end Companion.Text
