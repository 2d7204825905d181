import Companion.Model.Spelling
import Companion.Proofs.Text
import Mathlib.Data.List.Basic

/-!
# The Levels of a Metadata Name

A metadata name has a level for each namespace and each type on the way to the type it names. Levels
are joined by points, and by a plus sign where a type is nested in another one. A generic type has a
backtick and the number of its parameters behind its identifier. A source name has the identifiers
only, joined by points.

`sourceName` cuts a metadata name at its points before it drops what follows a backtick, and only
then puts points for plus signs. So it drops more than a number where a type is nested in a generic
one: all levels up to the next point go with it. Elsewhere it keeps every level.

## Main results

* `toList_sourceName`: a source name is read off a metadata name from left to right.
* `MetadataName.sourceName_text`: the levels that a source name keeps.
* `MetadataName.levels_kept_iff`: when it keeps all, and what this means for spelled references.
* `nested_level_lost`: a type in a generic one, which is spelled as that one.
-/

namespace Companion

/-! ### Source names from left to right -/

/-- The characters that a source name has for those of a metadata name. The flag tells whether a
backtick has been met since the last point. -/
def sourceChars : Bool → List Char → List Char
  | _, [] => []
  | hidden, c :: cs =>
    if c = '.' then '.' :: sourceChars false cs
    else if hidden || c = '`' then sourceChars true cs
    else (if c = '+' then '.' else c) :: sourceChars false cs

/-- A character in front of the first piece is one in front of the joined text. -/
theorem intercalate_cons_cons_piece (between : List Char) (c : Char) (piece : List Char)
    (pieces : List (List Char)) :
    between.intercalate ((c :: piece) :: pieces) = c :: between.intercalate (piece :: pieces) := by
  cases pieces <;> simp

/-- The first piece between points is dropped as far as a backtick has been met; each other piece is
kept up to its first backtick. -/
theorem sourceChars_eq (cs : List Char) : ∀ (hidden : Bool) (piece : List Char)
    (pieces : List (List Char)), Text.splitChars '.' cs = piece :: pieces →
      sourceChars hidden cs =
        (['.'].intercalate ((if hidden then [] else piece.takeWhile (· ≠ '`')) ::
          pieces.map (·.takeWhile (· ≠ '`')))).map fun x => if x = '+' then '.' else x := by
  induction cs with
  | nil =>
      rintro hidden piece pieces ⟨⟩
      cases hidden <;> simp [sourceChars]
  | cons c cs ih =>
      intro hidden piece pieces hsplit
      obtain ⟨first, rest, hrest⟩ :=
        List.exists_cons_of_ne_nil (Text.splitChars_ne_nil '.' cs)
      by_cases hpoint : c = '.'
      · subst hpoint
        simp only [Text.splitChars, if_true, hrest, List.cons.injEq] at hsplit
        obtain ⟨rfl, rfl⟩ := hsplit
        have hnext := ih false first rest hrest
        cases hidden <;> simpa [sourceChars] using hnext
      · simp only [Text.splitChars, hpoint, if_false, hrest, List.cons.injEq] at hsplit
        obtain ⟨rfl, rfl⟩ := hsplit
        by_cases hdropped : (hidden || c = '`') = true
        · have hnone : (if hidden then [] else (c :: first).takeWhile (· ≠ '`')) = [] := by
            cases hidden <;> simp_all
          rw [hnone, sourceChars, if_neg hpoint, if_pos hdropped]
          exact ih true first rest hrest
        · obtain ⟨rfl, hkept⟩ : hidden = false ∧ c ≠ '`' := by simpa using hdropped
          have hfirst : (c :: first).takeWhile (· ≠ '`') = c :: first.takeWhile (· ≠ '`') :=
            List.takeWhile_cons_of_pos (by simpa using hkept)
          rw [sourceChars, if_neg hpoint, if_neg hdropped, ih false first rest hrest, hfirst]
          simp only [Bool.false_eq_true, if_false, intercalate_cons_cons_piece, List.map_cons]

/-- **A source name** is read off a metadata name from left to right. -/
theorem toList_sourceName (s : String) : (sourceName s).toList = sourceChars false s.toList := by
  obtain ⟨piece, pieces, hsplit⟩ :=
    List.exists_cons_of_ne_nil (Text.splitChars_ne_nil '.' s.toList)
  rw [sourceChars_eq s.toList false piece pieces hsplit]
  simp [sourceName, Text.replaceChar, Text.join, Text.split, hsplit, Text.before,
    String.toList_intercalate, Function.comp_def]

/-! ### Levels -/

/-- Whether a text has none of the signs that a metadata name has between and behind
identifiers. -/
def IsPlainIdentifier (s : String) : Prop :=
  '.' ∉ s.toList ∧ '+' ∉ s.toList ∧ '`' ∉ s.toList

instance (s : String) : Decidable (IsPlainIdentifier s) :=
  inferInstanceAs (Decidable ('.' ∉ s.toList ∧ '+' ∉ s.toList ∧ '`' ∉ s.toList))

/-- A level of a metadata name: a namespace or a type. -/
structure NameLevel where
  identifier : String
  /-- For a generic type, the number of its parameters in digits. -/
  arity : Option String
  plain : IsPlainIdentifier identifier
  digits : ∀ s ∈ arity, ∀ c ∈ s.toList, c.isDigit = true

namespace NameLevel

/-- The level as a metadata name writes it. -/
def text (l : NameLevel) : String :=
  l.identifier ++ (l.arity.map ("`" ++ ·)).getD ""

/-- Whether the level is a generic type. -/
def isGeneric (l : NameLevel) : Bool := l.arity.isSome

/-- A number of parameters has no point. -/
theorem no_point_arity (l : NameLevel) {s : String} (h : l.arity = some s) : '.' ∉ s.toList := by
  intro hpoint
  exact absurd (l.digits s h '.' hpoint) (by decide)

/-- After a backtick, everything up to the next point is dropped. -/
theorem sourceChars_true_append {cs : List Char} (h : '.' ∉ cs) (rest : List Char) :
    sourceChars true (cs ++ rest) = sourceChars true rest := by
  induction cs with
  | nil => rfl
  | cons c cs ih =>
      rw [List.mem_cons, not_or] at h
      simp [sourceChars, Ne.symm h.1, ih h.2]

/-- An identifier is kept. -/
theorem sourceChars_false_append {cs : List Char} (hpoint : '.' ∉ cs) (hplus : '+' ∉ cs)
    (htick : '`' ∉ cs) (rest : List Char) :
    sourceChars false (cs ++ rest) = cs ++ sourceChars false rest := by
  induction cs with
  | nil => rfl
  | cons c cs ih =>
      rw [List.mem_cons, not_or] at hpoint hplus htick
      simp [sourceChars, Ne.symm hpoint.1, Ne.symm hplus.1, Ne.symm htick.1,
        ih hpoint.2 hplus.2 htick.2]

/-- Behind a backtick a level is dropped, elsewhere its identifier is kept; the backtick of a
generic type hides what follows. -/
theorem sourceChars_text (l : NameLevel) (hidden : Bool) (rest : List Char) :
    sourceChars hidden (l.text.toList ++ rest) =
      (if hidden then [] else l.identifier.toList) ++ sourceChars (hidden || l.isGeneric) rest := by
  -- what stands behind the identifier: nothing, or a backtick and digits
  obtain ⟨suffix, htext, hpoint, hsuffix⟩ : ∃ suffix,
      l.text.toList = l.identifier.toList ++ suffix ∧ '.' ∉ suffix ∧
        sourceChars false (suffix ++ rest) = sourceChars l.isGeneric rest := by
    cases harity : l.arity with
    | none => exact ⟨[], by simp [text, harity], List.not_mem_nil, by simp [isGeneric, harity]⟩
    | some s =>
        have hdigits := l.no_point_arity harity
        refine ⟨'`' :: s.toList, by simp [text, harity], by simpa using hdigits, ?_⟩
        simpa [isGeneric, harity, sourceChars] using sourceChars_true_append hdigits rest
  rw [htext, List.append_assoc]
  cases hidden with
  | true =>
      rw [sourceChars_true_append l.plain.1, sourceChars_true_append hpoint]
      rfl
  | false =>
      rw [sourceChars_false_append l.plain.1 l.plain.2.1 l.plain.2.2, hsuffix]
      rfl

/-- A point is kept, and ends what a backtick hides. -/
theorem sourceChars_point (hidden : Bool) (rest : List Char) :
    sourceChars hidden ('.' :: rest) = '.' :: sourceChars false rest := by
  simp [sourceChars]

/-- A plus sign becomes a point, unless it is hidden. -/
theorem sourceChars_plus (hidden : Bool) (rest : List Char) :
    sourceChars hidden ('+' :: rest) =
      (if hidden then [] else ['.']) ++ sourceChars hidden rest := by
  cases hidden <;> simp [sourceChars]

end NameLevel

/-- A metadata name: levels joined by points and plus signs. -/
inductive MetadataName where
  | last (level : NameLevel)
  /-- A level, and a point. -/
  | within (level : NameLevel) (rest : MetadataName)
  /-- A level, and the plus sign of a nested type. -/
  | nested (level : NameLevel) (rest : MetadataName)

namespace MetadataName

/-- The name as text. -/
def text : MetadataName → String
  | last l => l.text
  | within l rest => l.text ++ "." ++ rest.text
  | nested l rest => l.text ++ "+" ++ rest.text

/-- The identifiers of all levels, in order. -/
def identifiers : MetadataName → List String
  | last l => [l.identifier]
  | within l rest => l.identifier :: rest.identifiers
  | nested l rest => l.identifier :: rest.identifiers

/-- Whether a type is nested in a generic one. -/
def nestsInGeneric : MetadataName → Bool
  | last _ => false
  | within _ rest => rest.nestsInGeneric
  | nested l rest => l.isGeneric || rest.nestsInGeneric

/-- The identifiers that a source name keeps. The flag tells whether a backtick has been met since
the last point. -/
def keptAfter : Bool → MetadataName → List String
  | hidden, last l => if hidden then [] else [l.identifier]
  | hidden, within l rest => (if hidden then [] else [l.identifier]) ++ keptAfter false rest
  | hidden, nested l rest =>
    (if hidden then [] else [l.identifier]) ++ keptAfter (hidden || l.isGeneric) rest

/-- The identifiers that a source name keeps. -/
def kept (n : MetadataName) : List String := keptAfter false n

/-- The texts of a list, each with a point in front. -/
def dotted (texts : List String) : List Char := texts.flatMap fun s => '.' :: s.toList

/-- A list of texts joined by points, with a point in front. -/
theorem cons_toList_join {texts : List String} (h : texts ≠ []) :
    '.' :: (Text.join "." texts).toList = dotted texts := by
  have hpoint : ".".toList = ['.'] := rfl
  rw [Text.join, String.toList_intercalate, hpoint]
  induction texts with
  | nil => exact absurd rfl h
  | cons s ss ih =>
      cases ss with
      | nil => simp [dotted]
      | cons t ts =>
          have hrest := ih (List.cons_ne_nil t ts)
          simp only [List.map_cons, List.intercalate_cons_cons, dotted,
            List.flatMap_cons] at hrest ⊢
          rw [← hrest]
          simp

/-- A text that is kept or hidden, with a point in front. -/
theorem dotted_append (hidden : Bool) (s : String) (texts : List String) :
    dotted ((if hidden then [] else [s]) ++ texts) =
      (if hidden then [] else ['.']) ++ (if hidden then [] else s.toList) ++ dotted texts := by
  cases hidden <;> simp [dotted]

/-- A name contributes the identifiers that are kept, each with a point in front. -/
theorem sourceChars_text (hidden : Bool) (n : MetadataName) :
    (if hidden then [] else ['.']) ++ sourceChars hidden n.text.toList =
      dotted (keptAfter hidden n) := by
  induction n generalizing hidden with
  | last l =>
      have hlevel := l.sourceChars_text hidden []
      have hend := dotted_append hidden l.identifier []
      rw [List.append_nil] at hlevel hend
      rw [text, hlevel, keptAfter, hend, sourceChars, List.append_assoc]
      rfl
  | within l rest ih =>
      have htext : (within l rest).text.toList = l.text.toList ++ '.' :: rest.text.toList := by
        simp [text]
      rw [htext, l.sourceChars_text, NameLevel.sourceChars_point, keptAfter, dotted_append,
        ← ih false, ← List.append_assoc]
      rfl
  | nested l rest ih =>
      have htext : (nested l rest).text.toList = l.text.toList ++ '+' :: rest.text.toList := by
        simp [text]
      rw [htext, l.sourceChars_text, NameLevel.sourceChars_plus, keptAfter, dotted_append, ih,
        ← List.append_assoc]

/-- The first level is always kept. -/
theorem kept_ne_nil (n : MetadataName) : n.kept ≠ [] := by
  cases n <;> simp [kept, keptAfter]

/-- **A source name** has the kept identifiers, joined by points. -/
theorem sourceName_text (n : MetadataName) : sourceName n.text = Text.join "." n.kept := by
  have hchars := (sourceChars_text false n).trans (cons_toList_join n.kept_ne_nil).symm
  rw [← String.toList_inj, toList_sourceName]
  simpa using hchars

/-- Identifiers are kept in their order. -/
theorem keptAfter_sublist (hidden : Bool) (n : MetadataName) :
    (keptAfter hidden n).Sublist n.identifiers := by
  induction n generalizing hidden with
  | last l => cases hidden <;> simp [keptAfter, identifiers]
  | within l rest ih =>
      cases hidden with
      | true => exact (ih false).cons _
      | false => exact (ih false).cons_cons _
  | nested l rest ih =>
      cases hidden with
      | true => exact (ih true).cons _
      | false => exact (ih l.isGeneric).cons_cons _

/-- All identifiers are kept exactly if no backtick has been met and no type is nested in a generic
one. -/
theorem keptAfter_eq_identifiers_iff (hidden : Bool) (n : MetadataName) :
    keptAfter hidden n = n.identifiers ↔ hidden = false ∧ n.nestsInGeneric = false := by
  have hshort : ∀ (identifier : String) (b : Bool) (rest : MetadataName),
      keptAfter b rest ≠ identifier :: rest.identifiers := by
    intro identifier b rest heq
    have hle := (keptAfter_sublist b rest).length_le
    rw [heq, List.length_cons] at hle
    omega
  induction n generalizing hidden with
  | last l => cases hidden <;> simp [keptAfter, identifiers, nestsInGeneric]
  | within l rest ih =>
      cases hidden with
      | true => simpa [keptAfter, identifiers] using hshort l.identifier false rest
      | false => simpa [keptAfter, identifiers, nestsInGeneric] using ih false
  | nested l rest ih =>
      cases hidden with
      | true => simpa [keptAfter, identifiers] using hshort l.identifier true rest
      | false => simpa [keptAfter, identifiers, nestsInGeneric] using ih l.isGeneric

/-- No identifier has a point. -/
theorem no_point_of_mem_identifiers {n : MetadataName} {s : String} (h : s ∈ n.identifiers) :
    '.' ∉ s.toList := by
  induction n with
  | last l => exact List.mem_singleton.1 h ▸ l.plain.1
  | within l rest ih | nested l rest ih =>
      rcases List.mem_cons.1 h with rfl | h
      · exact l.plain.1
      · exact ih h

/-- Cutting a source name at its points gives the identifiers kept. -/
theorem split_sourceName_text (n : MetadataName) :
    Text.split '.' (sourceName n.text) = n.kept := by
  have hwhole : ∀ s ∈ n.kept, Text.split '.' s = [s] := fun s hs =>
    Text.split_of_not_mem (no_point_of_mem_identifiers ((keptAfter_sublist false n).subset hs))
  rw [sourceName_text, Text.split_join rfl n.kept_ne_nil, List.flatMap_congr hwhole,
    List.flatMap_singleton']

/-- A name has a level. -/
theorem identifiers_ne_nil (n : MetadataName) : n.identifiers ≠ [] := by
  cases n <;> simp [identifiers]

/-- Two names have one source name exactly if the same identifiers are kept. -/
theorem sourceName_text_eq_iff {n m : MetadataName} :
    sourceName n.text = sourceName m.text ↔ n.kept = m.kept := by
  rw [← Text.split_inj, split_sourceName_text, split_sourceName_text]

/-- The last segment of a source name is the last identifier kept. -/
theorem simpleName_text (n : MetadataName) : simpleName n.text = n.kept.getLast n.kept_ne_nil := by
  rw [simpleName, split_sourceName_text, List.getLast?_eq_getLast_of_ne_nil n.kept_ne_nil,
    Option.getD_some]

end MetadataName

/-! ### Spelled references -/

namespace TypeRef

/-- The type arguments of a reference between angle brackets, each as it is spelled. -/
def spelledArguments (spelled : TypeRef → String) (args : List TypeRef) : String :=
  if args.isEmpty then "" else "<" ++ Text.join ", " (args.map spelled) ++ ">"

/-- Spelling a list is spelling its items. -/
theorem spellAll_eq_map (σ : Spelling) (ts : List TypeRef) : spellAll σ ts = ts.map (spell σ) := by
  induction ts with
  | nil => rfl
  | cons t ts ih => simp [spellAll, ih]

/-- A named reference that is neither written as a keyword nor with a question mark is spelled as
its definition and its arguments. -/
theorem spell_named {σ : Spelling} {name : String} {args : List TypeRef}
    (hkeyword : args = [] → keyword? name = none)
    (hnullable : σ.marksNullable = true → name = "System.Nullable`1" → args.length ≠ 1) :
    spell σ (named name args) = σ.definition name ++ spelledArguments (spell σ) args := by
  match args with
  | [] => simp [spell, hkeyword rfl, spelledArguments]
  | [arg] =>
      have hplain : (σ.marksNullable && name == "System.Nullable`1") = false := by
        rw [← Bool.not_eq_true, Bool.and_eq_true, beq_iff_eq]
        exact fun ⟨hmarks, hname⟩ => hnullable hmarks hname rfl
      simp [spell, hplain, spelledArguments, Text.join, String.append_assoc]
  | first :: second :: rest =>
      simp [spell, spelledArguments, spellAll_eq_map, String.append_assoc]

end TypeRef

/-- **All levels are kept** exactly if no type is nested in a generic one. Source names of such
names are told apart by their identifiers. A reference by such a name shows all identifiers where it
is qualified, and the last one where it is short, unless it is written as a keyword or with a
question mark. -/
theorem MetadataName.levels_kept_iff (n : MetadataName) :
    (sourceName n.text = Text.join "." n.identifiers ↔ n.nestsInGeneric = false) ∧
      (∀ m : MetadataName, n.nestsInGeneric = false → m.nestsInGeneric = false →
        (sourceName n.text = sourceName m.text ↔ n.identifiers = m.identifiers)) ∧
      ∀ args : List TypeRef, (args = [] → keyword? n.text = none) →
        ((n.text = "System.Nullable`1" → args.length ≠ 1) →
          ((TypeRef.named n.text args).display =
              "global::" ++ Text.join "." n.identifiers ++
                TypeRef.spelledArguments TypeRef.display args ↔ n.nestsInGeneric = false)) ∧
        (n.nestsInGeneric = false →
          (TypeRef.named n.text args).friendly =
            n.identifiers.getLast n.identifiers_ne_nil ++
              TypeRef.spelledArguments TypeRef.friendly args) := by
  have hkept : ∀ m : MetadataName, m.kept = m.identifiers ↔ m.nestsInGeneric = false := fun m =>
    (keptAfter_eq_identifiers_iff false m).trans (and_iff_right rfl)
  have hsource : sourceName n.text = Text.join "." n.identifiers ↔ n.nestsInGeneric = false := by
    rw [← hkept, ← Text.split_inj, split_sourceName_text, Text.split_join rfl n.identifiers_ne_nil]
    have hwhole : ∀ s ∈ n.identifiers, Text.split '.' s = [s] := fun s hs =>
      Text.split_of_not_mem (no_point_of_mem_identifiers hs)
    rw [List.flatMap_congr hwhole, List.flatMap_singleton']
  refine ⟨hsource, fun m hn hm => ?_, fun args hkeyword => ⟨fun hnullable => ?_, fun hn => ?_⟩⟩
  · rw [sourceName_text_eq_iff, (hkept n).2 hn, (hkept m).2 hm]
  · rw [← hsource, TypeRef.display, TypeRef.spell_named hkeyword fun _ => hnullable]
    simp
  · have hlast : simpleName n.text = n.identifiers.getLast n.identifiers_ne_nil := by
      simp only [simpleName_text, (hkept n).2 hn]
    rw [TypeRef.friendly, TypeRef.spell_named hkeyword (by simp), ← hlast]

/-- A level that is not generic. -/
def NameLevel.ofIdentifier (identifier : String) (plain : IsPlainIdentifier identifier) :
    NameLevel where
  identifier := identifier
  arity := none
  plain := plain
  digits := by simp

/-- A generic type `Outer` of one parameter. -/
def genericOuter : NameLevel where
  identifier := "Outer"
  arity := some "1"
  plain := by decide
  digits := by simp

/-- The name of a type in a namespace, and of the one nested in it. -/
def nestedName (outer : NameLevel) : MetadataName :=
  .within (.ofIdentifier "Ns" (by decide))
    (.nested outer (.last (.ofIdentifier "Inner" (by decide))))

/-- A type nested in one without parameters keeps its levels. -/
theorem nested_level_kept :
    (nestedName (.ofIdentifier "Outer" (by decide))).text = "Ns.Outer+Inner" ∧
      (TypeRef.named "Ns.Outer+Inner" []).display = "global::Ns.Outer.Inner" ∧
      (TypeRef.named "Ns.Outer+Inner" []).friendly = "Inner" := by
  have htext : (nestedName (.ofIdentifier "Outer" (by decide))).text = "Ns.Outer+Inner" := by
    decide +kernel
  obtain ⟨-, -, hspelled⟩ :=
    (nestedName (.ofIdentifier "Outer" (by decide))).levels_kept_iff
  rw [htext] at hspelled
  obtain ⟨hdisplay, hfriendly⟩ := hspelled [] (by decide +kernel)
  exact ⟨htext, (hdisplay (by decide)).2 rfl, hfriendly rfl⟩

/-- **A level that is lost**: a type nested in a generic one is spelled as that one. -/
theorem nested_level_lost :
    (nestedName genericOuter).text = "Ns.Outer`1+Inner" ∧
      (nestedName genericOuter).identifiers = ["Ns", "Outer", "Inner"] ∧
      sourceName "Ns.Outer`1+Inner" = "Ns.Outer" ∧
      (TypeRef.named "Ns.Outer`1+Inner" []).display = "global::Ns.Outer" ∧
      (TypeRef.named "Ns.Outer`1+Inner" []).friendly = "Outer" ∧
      (TypeRef.named "Ns.Outer`1+Inner" []).display =
        (TypeRef.named "Ns.Outer`1" []).display := by
  decide +kernel

end Companion
