import Companion.Immutable.AttributeCopy
import Companion.Proofs.Text

/-!
# How Written Texts Are Read

An attribute is written into source code with its arguments, and each text among them as a literal:
a quote, the text with backslashes in front of what could not stand there, and a quote. Source code
reads a literal up to the first quote without a backslash in front. A backslash and the character
behind it stand for one character, and no end of a line may come before the closing quote.

Quotes, backslashes and tabs are written with a backslash, and so are two of the characters that end
a line. The other three are written as they are. So a literal is always read back as its text as far
as backslashes and quotes go, but one with a line or paragraph separator in it ends too early.

## Main results

* `readLiteral_literal`: what a written literal is read as, whatever may not stand in a literal.
* `Attribute.TextPlace.exists_written_fill_eq`: at any depth, the text of an attribute changes with
  one text of it by nothing but the literal.
* `literal_read_iff`: when the literal of a text is read back, and what holds in any case.
* `separator_breaks_literal`: a text whose literal is none.
-/

namespace Companion

namespace AttributeValue

/-! ### Reading a literal -/

/-- The characters that end a line of source code. -/
def lineTerminators : List Char := ['\n', '\r', '\u0085', '\u2028', '\u2029']

/-- Those of them that are written as they are. -/
def plainTerminators : List Char := ['\u0085', '\u2028', '\u2029']

/-- What a backslash and a character stand for, as far as they are ever written. -/
def unescape? : Char → Option Char
  | '\\' => some '\\'
  | '"' => some '"'
  | 'n' => some '\n'
  | 'r' => some '\r'
  | 't' => some '\t'
  | _ => none

/-- Read a literal behind its opening quote: the text up to the closing quote, and what stands
behind that. Characters that are barred may not stand in a literal. -/
def readBody (barred : List Char) : List Char → Option (List Char × List Char)
  | [] => none
  | '"' :: rest => some ([], rest)
  | ['\\'] => none
  | '\\' :: c :: rest =>
    (unescape? c).bind fun x => (readBody barred rest).map (Prod.map (x :: ·) id)
  | c :: rest =>
    if c ∈ barred then none else (readBody barred rest).map (Prod.map (c :: ·) id)

/-- Read a literal: its text, and what stands behind it. -/
def readLiteral (barred : List Char) : List Char → Option (List Char × List Char)
  | '"' :: rest => readBody barred rest
  | _ => none

variable {barred : List Char}

/-- A backslash and a character are read as what they stand for. -/
theorem readBody_backslash {x c : Char} (h : unescape? x = some c) (rest : List Char) :
    readBody barred ('\\' :: x :: rest) = (readBody barred rest).map (Prod.map (c :: ·) id) := by
  rw [readBody, h, Option.bind_some]

/-- Any other character is read as it is, unless it is barred. -/
theorem readBody_cons {c : Char} (hslash : c ≠ '\\') (hquote : c ≠ '"') (rest : List Char) :
    readBody barred (c :: rest) =
      if c ∈ barred then none else (readBody barred rest).map (Prod.map (c :: ·) id) := by
  rw [readBody]
  · exact hquote
  · exact fun h => absurd h hslash
  · exact fun _ _ h => absurd h hslash

/-- A character is written as it is, or as a backslash and a character that stand for it. -/
theorem escapeChar_cases (c : Char) :
    (escapeChar c = [c] ∧ c ≠ '\\' ∧ c ≠ '"') ∨
      ∃ x, escapeChar c = ['\\', x] ∧ unescape? x = some c := by
  unfold escapeChar
  split
  case h_6 hslash hquote _ _ _ => exact .inl ⟨rfl, hslash, hquote⟩
  all_goals exact .inr ⟨_, rfl, rfl⟩

/-- Whether no barred character among others is written as it is. -/
def spelledOut (barred cs : List Char) : Bool :=
  cs.all fun c => !barred.contains c || escapeChar c != [c]

theorem spelledOut_iff {cs : List Char} :
    spelledOut barred cs = true ↔ ∀ c ∈ cs, c ∈ barred → escapeChar c ≠ [c] := by
  simp only [spelledOut, List.all_eq_true, Bool.or_eq_true, Bool.not_eq_true',
    List.contains_eq_mem, decide_eq_false_iff_not, bne_iff_ne]
  exact forall₂_congr fun c _ => Decidable.imp_iff_not_or.symm

/-- **The body of a literal** is read back as its text, up to the quote behind it, unless a barred
character of the text is written as it is. -/
theorem readBody_flatMap_escapeChar (cs rest : List Char) :
    readBody barred (cs.flatMap escapeChar ++ '"' :: rest) =
      if spelledOut barred cs then some (cs, rest) else none := by
  induction cs with
  | nil => rfl
  | cons c cs ih =>
      rw [List.flatMap_cons, List.append_assoc, spelledOut, List.all_cons, ← spelledOut]
      rcases escapeChar_cases c with ⟨hplain, hslash, hquote⟩ | ⟨x, hescape, hx⟩
      · rw [hplain, List.singleton_append, readBody_cons hslash hquote, ih]
        by_cases hbarred : c ∈ barred
        · simp [hbarred]
        · simp only [hbarred, if_false, List.contains_eq_mem, decide_false, Bool.not_false,
            Bool.true_or, Bool.true_and]
          split <;> rfl
      · rw [hescape, List.cons_append, List.singleton_append, readBody_backslash hx, ih]
        have hspelled : (['\\', x] != [c]) = true := by simp
        rw [hspelled, Bool.or_true, Bool.true_and]
        split <;> rfl

/-- The literal of a text. -/
def literal (s : String) : String := (string s).written

/-- A literal has the escaped characters between quotes. -/
theorem toList_literal (s : String) :
    (literal s).toList = '"' :: (s.toList.flatMap escapeChar ++ ['"']) := by
  simp [literal, written, escape]

/-- **A written literal**, whatever stands behind it, is read back as its text, unless a barred
character of the text is written as it is. -/
theorem readLiteral_literal (s : String) (rest : List Char) :
    readLiteral barred ((literal s).toList ++ rest) =
      if spelledOut barred s.toList then some (s.toList, rest) else none := by
  rw [toList_literal, List.cons_append, List.append_assoc, readLiteral,
    List.singleton_append, readBody_flatMap_escapeChar]

/-- Texts with one literal are equal. -/
theorem literal_injective : Function.Injective literal := by
  intro s t h
  have hread : ∀ u, readLiteral [] ((literal u).toList ++ []) = some (u.toList, []) := by
    intro u
    rw [readLiteral_literal, if_pos (spelledOut_iff.2 fun _ _ h => absurd h List.not_mem_nil)]
  have heq : some (s.toList, ([] : List Char)) = some (t.toList, []) := by
    rw [← hread s, h, hread t]
  simpa [String.toList_inj] using heq

/-! ### Ends of lines -/

/-- Of the characters that end a line, only these three are written as they are. None is written
behind a backslash. -/
theorem escapeChar_of_mem_lineTerminators {c : Char} (h : c ∈ lineTerminators) :
    (escapeChar c = [c] ↔ c ∈ plainTerminators) ∧ c ≠ '\\' ∧ unescape? c = none := by
  simp only [lineTerminators, List.mem_cons, List.not_mem_nil, or_false] at h
  rcases h with rfl | rfl | rfl | rfl | rfl <;> decide

/-- A character that ends a line stands in what is written for a character only if that is the
character itself. -/
theorem mem_escapeChar_iff {c x : Char} (hc : c ∈ lineTerminators) :
    c ∈ escapeChar x ↔ x = c ∧ c ∈ plainTerminators := by
  obtain ⟨hplain_iff, hslash, hnone⟩ := escapeChar_of_mem_lineTerminators hc
  constructor
  · intro hmem
    rcases escapeChar_cases x with ⟨hplain, -, -⟩ | ⟨y, hescape, hy⟩
    · obtain rfl : c = x := by simpa [hplain] using hmem
      exact ⟨rfl, hplain_iff.1 hplain⟩
    · simp only [hescape, List.mem_cons, List.not_mem_nil, or_false] at hmem
      rcases hmem with rfl | rfl
      · exact absurd rfl hslash
      · exact absurd hy (by simp [hnone])
  · rintro ⟨rfl, hplain⟩
    rw [hplain_iff.2 hplain]
    exact List.mem_singleton_self x

/-- Of the characters that end a line, a literal has those of its text that are written as they
are. -/
theorem mem_escape_iff {s : String} {c : Char} (hc : c ∈ lineTerminators) :
    c ∈ (escape s).toList ↔ c ∈ s.toList ∧ c ∈ plainTerminators := by
  rw [escape, String.toList_ofList, List.mem_flatMap]
  simp only [mem_escapeChar_iff hc]
  constructor
  · rintro ⟨x, hx, rfl, hplain⟩
    exact ⟨hx, hplain⟩
  · rintro ⟨hmem, hplain⟩
    exact ⟨c, hmem, rfl, hplain⟩

/-- A literal is read back, where no end of a line may stand in it, exactly if its text has none
that is written as it is. -/
theorem readLiteral_lineTerminators_iff (s : String) (rest : List Char) :
    readLiteral lineTerminators ((literal s).toList ++ rest) = some (s.toList, rest) ↔
      ∀ c ∈ s.toList, c ∉ plainTerminators := by
  have hsubset : ∀ c ∈ plainTerminators, c ∈ lineTerminators :=
    fun c hc => List.mem_cons_of_mem '\n' (List.mem_cons_of_mem '\r' hc)
  have hspelled : spelledOut lineTerminators s.toList = true ↔
      ∀ c ∈ s.toList, c ∉ plainTerminators := by
    rw [spelledOut_iff]
    refine forall₂_congr fun c _ => ⟨fun h hplain => ?_, fun h hc => ?_⟩
    · exact h (hsubset c hplain)
        ((escapeChar_of_mem_lineTerminators (hsubset c hplain)).1.2 hplain)
    · exact mt (escapeChar_of_mem_lineTerminators hc).1.1 h
  rw [readLiteral_literal, ← hspelled]
  cases spelledOut lineTerminators s.toList <;> simp

/-! ### Texts within an argument -/

mutual

/-- The texts among an argument and the items of its arrays, at any depth. -/
def strings : AttributeValue → List String
  | string s => [s]
  | array items => stringsAll items
  | null | bool _ | int _ | type _ | enum _ => []

/-- `strings` for the items of an array. -/
def stringsAll : List AttributeValue → List String
  | [] => []
  | v :: vs => v.strings ++ stringsAll vs

end

/-- The texts of many values are those of each. -/
@[simp] theorem mem_stringsAll {s : String} {vs : List AttributeValue} :
    s ∈ stringsAll vs ↔ ∃ v ∈ vs, s ∈ v.strings := by
  induction vs with
  | nil => simp [stringsAll]
  | cons v vs ih => simp [stringsAll, ih]

/-- A place for a text within an argument: the argument as a whole, or a place within an item of an
array. -/
inductive TextPlace where
  | whole
  | item (before : List AttributeValue) (inner : TextPlace) (after : List AttributeValue)

/-- The argument with a text at the place. -/
def TextPlace.fill : TextPlace → String → AttributeValue
  | whole, s => .string s
  | item before inner after, s => .array (before ++ inner.fill s :: after)

/-- A text that fills a place of a value is one of its texts. -/
theorem TextPlace.mem_strings_fill (place : TextPlace) (s : String) :
    s ∈ (place.fill s).strings := by
  induction place with
  | whole => simp [fill, strings]
  | item before inner after ih =>
      rw [fill, strings, mem_stringsAll]
      exact ⟨inner.fill s, by simp, ih⟩

mutual

/-- Each text of a value fills a place of it. The induction is on the value. -/
theorem exists_fill_eq {s : String} : ∀ v : AttributeValue, s ∈ v.strings →
    ∃ place : TextPlace, place.fill s = v
  | .string t, h => ⟨.whole, by rw [List.mem_singleton.1 h, TextPlace.fill]⟩
  | .array items, h => by
      obtain ⟨before, inner, after, rfl⟩ := exists_fill_eqAll items h
      exact ⟨.item before inner after, rfl⟩
  | .null, h | .bool _, h | .int _, h | .type _, h | .enum _, h => absurd h List.not_mem_nil

theorem exists_fill_eqAll {s : String} : ∀ vs : List AttributeValue, s ∈ stringsAll vs →
    ∃ before, ∃ inner : TextPlace, ∃ after, before ++ inner.fill s :: after = vs
  | [], h => absurd h List.not_mem_nil
  | v :: vs, h => by
      rcases List.mem_append.1 h with hv | hvs
      · obtain ⟨place, rfl⟩ := exists_fill_eq v hv
        exact ⟨[], place, vs, rfl⟩
      · obtain ⟨before, place, after, rfl⟩ := exists_fill_eqAll vs hvs
        exact ⟨v :: before, place, after, rfl⟩

end

/-- Items are written one by one. -/
theorem writtenAll_eq_map (vs : List AttributeValue) : writtenAll vs = vs.map written := by
  induction vs with
  | nil => rfl
  | cons v vs ih => rw [writtenAll, ih, List.map_cons]

/-- What is written for an argument changes with a text in it by nothing but the literal. -/
theorem TextPlace.exists_written_fill_eq (place : TextPlace) :
    ∃ front back : String, ∀ s, (place.fill s).written = front ++ literal s ++ back := by
  induction place with
  | whole => exact ⟨"", "", fun s => by simp [fill, literal]⟩
  | item before inner after ih =>
      obtain ⟨front, back, hinner⟩ := ih
      obtain ⟨front', back', hjoin⟩ :=
        Text.exists_join_append_cons ", " (before.map written) (after.map written)
      refine ⟨"new[] \x7b " ++ front' ++ front, back ++ back' ++ " \x7d", fun s => ?_⟩
      rw [fill, written, writtenAll_eq_map, List.map_append, List.map_cons, hinner, hjoin]
      · simp only [String.append_assoc]
      · simp

end AttributeValue

/-! ### Texts within an attribute -/

namespace Attribute

open AttributeValue

/-- The texts among the arguments of an attribute, at any depth. -/
def strings (a : Attribute) : List String :=
  a.arguments.flatMap AttributeValue.strings ++ a.namedArguments.flatMap (·.value.strings)

/-- A place for a text within an attribute: one within an argument by position, or within one by
name. -/
inductive TextPlace where
  | positional (className : String) (before : List AttributeValue)
      (inner : AttributeValue.TextPlace) (after : List AttributeValue)
      (namedArguments : List NamedArgument)
  | named (className : String) (arguments : List AttributeValue) (before : List NamedArgument)
      (name : String) (inner : AttributeValue.TextPlace) (after : List NamedArgument)

/-- The attribute with a text at the place. -/
def TextPlace.fill : TextPlace → String → Attribute
  | positional className before inner after namedArguments, s =>
    ⟨className, before ++ inner.fill s :: after, namedArguments⟩
  | named className arguments before name inner after, s =>
    ⟨className, arguments, before ++ ⟨name, inner.fill s⟩ :: after⟩

/-- The texts of an attribute are those that stand at a place of it. -/
theorem mem_strings_iff {a : Attribute} {s : String} :
    s ∈ a.strings ↔ ∃ place : TextPlace, place.fill s = a := by
  rw [strings, List.mem_append, List.mem_flatMap, List.mem_flatMap]
  constructor
  · rintro (⟨v, hv, hs⟩ | ⟨n, hn, hs⟩)
    · obtain ⟨place, rfl⟩ := exists_fill_eq v hs
      obtain ⟨before, after, harguments⟩ := List.append_of_mem hv
      exact ⟨.positional a.className before place after a.namedArguments, by
        rw [TextPlace.fill, ← harguments]⟩
    · obtain ⟨place, hvalue⟩ := exists_fill_eq n.value hs
      obtain ⟨before, after, harguments⟩ := List.append_of_mem hn
      exact ⟨.named a.className a.arguments before n.name place after, by
        rw [TextPlace.fill, hvalue, ← harguments]⟩
  · rintro ⟨place, rfl⟩
    cases place with
    | positional className before inner after namedArguments =>
        exact .inl ⟨inner.fill s, by simp [TextPlace.fill], inner.mem_strings_fill s⟩
    | named className arguments before name inner after =>
        exact .inr ⟨⟨name, inner.fill s⟩, by simp [TextPlace.fill], inner.mem_strings_fill s⟩

/-- The arguments as source code writes them, by position and then by name. -/
def argumentTexts (a : Attribute) : List String :=
  a.arguments.map AttributeValue.written ++
    a.namedArguments.map fun n => n.name ++ " = " ++ n.value.written

/-- An attribute with arguments is written with all of them in parentheses. -/
theorem written_of_argumentTexts_ne_nil {a : Attribute} (h : a.argumentTexts ≠ []) :
    a.written =
      Text.replaceChar '+' '.' a.className ++ "(" ++ Text.join ", " a.argumentTexts ++ ")" :=
  if_neg (mt List.isEmpty_iff.1 h)

/-- One of the written arguments changes with a text in it by nothing but the literal, and the
others do not change. -/
theorem TextPlace.exists_argumentTexts_fill_eq (place : TextPlace) :
    ∃ (className : String) (before after : List String) (front back : String), ∀ s,
      (place.fill s).className = className ∧
        (place.fill s).argumentTexts = before ++ (front ++ literal s ++ back) :: after := by
  cases place with
  | positional className before inner after namedArguments =>
      obtain ⟨front, back, hinner⟩ := inner.exists_written_fill_eq
      refine ⟨className, before.map AttributeValue.written, after.map AttributeValue.written ++
        namedArguments.map (fun n => n.name ++ " = " ++ n.value.written), front, back,
        fun s => ⟨rfl, ?_⟩⟩
      simp [argumentTexts, fill, hinner]
  | named className arguments before name inner after =>
      obtain ⟨front, back, hinner⟩ := inner.exists_written_fill_eq
      refine ⟨className, arguments.map AttributeValue.written ++
        before.map (fun n => n.name ++ " = " ++ n.value.written),
        after.map (fun n => n.name ++ " = " ++ n.value.written), name ++ " = " ++ front, back,
        fun s => ⟨rfl, ?_⟩⟩
      simp [argumentTexts, fill, hinner, String.append_assoc]

/-- What is written for an attribute changes with a text in it by nothing but the literal. -/
theorem TextPlace.exists_written_fill_eq (place : TextPlace) :
    ∃ front back : String, ∀ s, (place.fill s).written = front ++ literal s ++ back := by
  obtain ⟨className, before, after, front, back, htexts⟩ := place.exists_argumentTexts_fill_eq
  obtain ⟨front', back', hjoin⟩ := Text.exists_join_append_cons ", " before after
  refine ⟨Text.replaceChar '+' '.' className ++ "(" ++ front' ++ front, back ++ back' ++ ")",
    fun s => ?_⟩
  obtain ⟨hname, harguments⟩ := htexts s
  rw [written_of_argumentTexts_ne_nil (by simp [harguments]), hname, harguments, hjoin]
  simp only [String.append_assoc]

/-- **A text is read back from what is written for its attribute**, wherever it stands among the
arguments: only the literal at its place changes with it, and differs for different texts. Undoing
backslashes from the opening quote on gives the text, and ends at the closing quote. Where no end of
a line may stand in a literal, this is so exactly if none of those written as they are is in the
text; these are all the ends of lines that the literal has. -/
theorem literal_read_iff {a : Attribute} {s : String} (h : s ∈ a.strings) :
    ∃ (place : TextPlace) (front back : String), place.fill s = a ∧
      (∀ t, (place.fill t).written = front ++ literal t ++ back) ∧
      (∀ t, (place.fill t).written = a.written → t = s) ∧
      readLiteral [] ((literal s).toList ++ back.toList) = some (s.toList, back.toList) ∧
      (readLiteral lineTerminators ((literal s).toList ++ back.toList) =
          some (s.toList, back.toList) ↔ ∀ c ∈ s.toList, c ∉ plainTerminators) ∧
      ∀ c ∈ lineTerminators, (c ∈ (escape s).toList ↔ c ∈ s.toList ∧ c ∈ plainTerminators) := by
  obtain ⟨place, rfl⟩ := mem_strings_iff.1 h
  obtain ⟨front, back, hwritten⟩ := place.exists_written_fill_eq
  refine ⟨place, front, back, rfl, hwritten, fun t ht => ?_, ?_,
    readLiteral_lineTerminators_iff s back.toList, fun c hc => mem_escape_iff hc⟩
  · rw [hwritten, hwritten, String.append_left_inj, String.append_right_inj] at ht
    exact literal_injective ht
  · rw [readLiteral_literal, if_pos (spelledOut_iff.2 fun _ _ h => absurd h List.not_mem_nil)]

/-- An attribute with a text in an array, given by name. -/
def taggedNote : Attribute where
  className := "Docs.NoteAttribute"
  namedArguments := [⟨"Tags", .array [.string "say \"hi\"\n"]⟩]

/-- A text with quotes and an end of a line is read back from its literal. -/
theorem quoted_text_read :
    ∃ front back : String, taggedNote.written = front ++ literal "say \"hi\"\n" ++ back ∧
      readLiteral lineTerminators ((literal "say \"hi\"\n").toList ++ back.toList) =
        some ("say \"hi\"\n".toList, back.toList) := by
  have hmem : "say \"hi\"\n" ∈ taggedNote.strings := by decide +kernel
  have hplain : ∀ c ∈ "say \"hi\"\n".toList, c ∉ plainTerminators := by
    have hall : ("say \"hi\"\n".toList.all fun c => !plainTerminators.contains c) = true := by
      decide +kernel
    simpa using hall
  obtain ⟨place, front, back, hfill, hwritten, -, -, hread, -⟩ := literal_read_iff hmem
  exact ⟨front, back, hfill ▸ hwritten _, hread.2 hplain⟩

/-- An attribute with one text, in which a line separator stands. -/
def separatedNote : Attribute where
  className := "Docs.NoteAttribute"
  arguments := [.string "a\u2028b"]

/-- **A text whose literal is none**: the line separator in it is written as it is, so the line ends
before the literal does. -/
theorem separator_breaks_literal :
    separatedNote.strings = ["a\u2028b"] ∧
      separatedNote.written = "Docs.NoteAttribute(\"a\u2028b\")" ∧
      '\u2028' ∈ (escape "a\u2028b").toList ∧
      readLiteral lineTerminators (literal "a\u2028b").toList = none := by
  decide +kernel

end Attribute

end Companion
