import Companion.Json.Reader
import Companion.Json.Writer
import Mathlib.Data.List.Basic

/-!
# Reading What Was Written

The text of a document is read back as that document: members keep their order and repetitions,
numbers their form, and a string that is no text stays one that is none. A reader of a part stops
where the part ends, since what follows a value in a document is a comma or a closing bracket and
goes on no number. The steps that a reader counts are twice the length of the text, and each value
takes at least one character and at most two steps on its own.

## Main results

* `Reader.number_append`, `Reader.string_append`: numbers and strings are read back.
* `Reader.value_append`: a value is read back from the front of a text.
* `parse_render`: a document is read back from its text.
-/

namespace Companion.Json

namespace Reader

/-! ### Numbers -/

/-- No digit comes next. -/
def NoDigit (rest : List Char) : Prop := ∀ c ∈ rest.head?, c.isDigit = false

/-- A run of digits is read to its end. -/
theorem digits_append {cs rest : List Char} (hcs : ∀ c ∈ cs, c.isDigit = true)
    (hrest : NoDigit rest) (n count : Nat) :
    digits n count (cs ++ rest) = (Nat.ofDigitChars 10 cs n, count + cs.length, rest) := by
  induction cs generalizing n count with
  | nil =>
      cases rest with
      | nil => simp [digits]
      | cons c rest => simp [digits, hrest c rfl]
  | cons c cs ih =>
      have hc : c.isDigit = true := hcs c List.mem_cons_self
      have hdigits := ih fun d hd => hcs d (List.mem_cons_of_mem c hd)
      have hcount : cs.length + (count + 1) = count + (cs.length + 1) := by omega
      simp [digits, hc, hdigits, Nat.ofDigitChars_cons, Nat.mul_comm, Nat.add_comm, hcount]

/-- The digits of a natural number are read as that number. -/
theorem digits_toString {rest : List Char} (hrest : NoDigit rest) (n : Nat) :
    digits 0 0 ((toString n).toList ++ rest) = (n, (toString n).toList.length, rest) := by
  have hdigits : ∀ c ∈ Nat.toDigits 10 n, c.isDigit = true := fun c hc =>
    Nat.isDigit_of_mem_toDigits (by decide) (by decide) hc
  rw [Nat.toString_eq_repr, Nat.toList_repr, digits_append hdigits hrest,
    Nat.ofDigitChars_toDigits (by decide) (by decide), Nat.zero_add]

/-- The text of a natural number starts with a digit. -/
theorem exists_toString_eq_cons (n : Nat) :
    ∃ d ds, (toString n).toList = d :: ds ∧ d.isDigit = true := by
  cases htext : (toString n).toList with
  | nil => simp at htext
  | cons d ds =>
      have hd : d ∈ Nat.toDigits 10 n := by
        rw [← Nat.toList_repr, ← Nat.toString_eq_repr, htext]
        exact List.mem_cons_self
      exact ⟨d, ds, rfl, Nat.isDigit_of_mem_toDigits (by decide) (by decide) hd⟩

/-- A digit is none of the marks that may stand in front of one. -/
theorem ne_of_isDigit {d c : Char} (hd : d.isDigit = true) (hc : c.isDigit = false) : d ≠ c := by
  rintro rfl
  rw [hd] at hc
  cases hc

/-- The digits of a positive number do not start with a zero. -/
theorem head?_toDigits_ne_zero {n : Nat} (hn : 0 < n) :
    ∀ c ∈ (Nat.toDigits 10 n).head?, c ≠ '0' := by
  induction n using Nat.strongRecOn with
  | ind n ih =>
      by_cases hsmall : n < 10
      · rw [Nat.toDigits_of_lt_base hsmall]
        rintro c ⟨⟩ hzero
        have htoNat := Nat.toNat_digitChar_of_lt_ten hsmall
        rw [hzero] at htoNat
        have : '0'.toNat = 48 := rfl
        omega
      · rw [Nat.toDigits_of_base_le (by decide) (by omega),
          List.head?_append_of_ne_nil _ Nat.toDigits_ne_nil]
        exact ih (n / 10) (by omega) (by omega)

/-- The integer part of a number is read to its end. -/
theorem unsignedNumber_toString {rest : List Char} (hrest : NoDigit rest) (negative : Bool)
    (n : Nat) :
    unsignedNumber negative ((toString n).toList ++ rest) = numberTail negative n rest := by
  have hread := digits_toString hrest n
  rcases Nat.eq_zero_or_pos n with rfl | hn
  · cases rest with
    | nil => simp [unsignedNumber, digits]
    | cons c rest => simp [unsignedNumber, hrest c rfl]
  · have hzero := head?_toDigits_ne_zero hn
    rw [← Nat.toList_repr, ← Nat.toString_eq_repr] at hzero
    cases htext : (toString n).toList with
    | nil => simp at htext
    | cons d ds =>
        have hd : d ≠ '0' := hzero d (by rw [htext]; rfl)
        rw [htext] at hread
        rw [List.cons_append] at hread ⊢
        unfold unsignedNumber
        split
        · simp_all
        · rw [hread]
          rfl

/-- Nothing comes next that goes on a number. -/
def EndsNumber (rest : List Char) : Prop :=
  ∀ c ∈ rest.head?, c.isDigit = false ∧ c ≠ '.' ∧ c ≠ 'e' ∧ c ≠ 'E'

/-- What ends a number is no digit. -/
theorem EndsNumber.noDigit {rest : List Char} (h : EndsNumber rest) : NoDigit rest :=
  fun c hc => (h c hc).1

/-- Behind a number there is no exponent. -/
theorem exponent_of_endsNumber {rest : List Char} (h : EndsNumber rest) :
    exponent rest = some (none, rest) := by
  cases rest with
  | nil => rfl
  | cons c rest =>
      obtain ⟨-, -, he, hE⟩ := h c rfl
      simp [exponent, he, hE]

/-- The digits of an exponent are read to their end. -/
theorem exponentDigits_toString {rest : List Char} (h : EndsNumber rest) (n : Nat) :
    exponentDigits ((toString n).toList ++ rest) = some (n, rest) := by
  obtain ⟨d, ds, htext, -⟩ := exists_toString_eq_cons n
  have hread := digits_toString h.noDigit n
  rw [htext] at hread ⊢
  rw [exponentDigits, hread]
  rfl

/-- An exponent is read to its end. -/
theorem exponent_toString {rest : List Char} (h : EndsNumber rest) (e : Int) :
    exponent ('e' :: ((toString e).toList ++ rest)) = some (some e, rest) := by
  cases e with
  | ofNat n =>
      obtain ⟨d, ds, htext, hd⟩ := exists_toString_eq_cons n
      have hread := exponentDigits_toString h n
      have htext' : (toString (Int.ofNat n)).toList = d :: ds := htext
      rw [htext] at hread
      have hminus : d ≠ '-' := ne_of_isDigit hd rfl
      have hplus : d ≠ '+' := ne_of_isDigit hd rfl
      rw [htext', List.cons_append] at *
      simp [exponent, hminus, hplus, hread]
  | negSucc n =>
      have htext : (toString (Int.negSucc n)).toList = '-' :: (toString (n + 1)).toList := by
        rw [show toString (Int.negSucc n) = "-" ++ toString (n + 1) from rfl,
          String.toList_append]
        rfl
      rw [htext, List.cons_append]
      simp only [exponent, beq_self_eq_true, Bool.true_or, if_true,
        exponentDigits_toString h (n + 1), Option.map_some]
      rfl

/-- A sign and an integer part are read, and what is behind them is left to be read. -/
theorem number_sign {rest : List Char} (hrest : NoDigit rest) (negative : Bool) (n : Nat) :
    number (((if negative then "-" else "") ++ toString n).toList ++ rest) =
      numberTail negative n rest := by
  rw [← unsignedNumber_toString hrest, String.toList_append]
  cases negative with
  | true => rfl
  | false =>
      obtain ⟨d, ds, htext, hd⟩ := exists_toString_eq_cons n
      have hminus : d ≠ '-' := ne_of_isDigit hd rfl
      have hplain : (if false = true then "-" else "").toList = [] := rfl
      rw [hplain, List.nil_append, htext, List.cons_append]
      simp [number, hminus]

/-- Without a fraction, a number goes on with an exponent or is an integer. -/
theorem numberTail_of_ne {s : List Char} (hs : ∀ c ∈ s.head?, c ≠ '.') (negative : Bool)
    (n : Nat) :
    numberTail negative n s =
      (exponent s).map fun (e?, rest) =>
        (e?.elim (.integer negative n) (.decimal negative n), rest) := by
  unfold numberTail
  split
  · exact absurd rfl (hs _ rfl)
  · refine congrArg (Option.map · (exponent s)) (funext fun found => ?_)
    rcases found with ⟨_ | e, rest⟩ <;> rfl

/-- **A number literal is read back.** -/
theorem number_append {rest : List Char} (h : EndsNumber rest) (n : Number) :
    number ((Writer.number n).toList ++ rest) = some (n, rest) := by
  cases n with
  | integer negative n =>
      have hpoint : ∀ c ∈ rest.head?, c ≠ '.' := fun c hc => (h c hc).2.1
      rw [Writer.number, number_sign h.noDigit, numberTail_of_ne hpoint,
        exponent_of_endsNumber h]
      rfl
  | decimal negative n e =>
      have hmark : NoDigit ('e' :: ((toString e).toList ++ rest)) := by
        rintro c ⟨⟩
        rfl
      have hpoint : ∀ c ∈ ('e' :: ((toString e).toList ++ rest)).head?, c ≠ '.' := by
        rintro c ⟨⟩
        decide
      have htext : (Writer.number (.decimal negative n e)).toList ++ rest =
          ((if negative then "-" else "") ++ toString n).toList ++
            'e' :: ((toString e).toList ++ rest) := by
        simp [Writer.number]
      rw [htext, number_sign hmark, numberTail_of_ne hpoint, exponent_toString h]
      rfl

/-! ### Strings -/

/-- The digits of an escape are read as what they were written for. -/
theorem hexDigit?_hexChar : ∀ n < 16, hexDigit? (Writer.hexChar n) = some n := by
  decide

/-- An escape that names a character by a small number is read as that character. -/
theorem unit?_hexChar {n : Nat} (hn : n < 0x20) :
    unit? '0' '0' (Writer.hexChar (n / 16)) (Writer.hexChar (n % 16)) = some n := by
  have hzero : hexDigit? '0' = some 0 := rfl
  have hvalue : n / 16 * 16 + n % 16 = n := by omega
  simp [unit?, hzero, hexDigit?_hexChar (n / 16) (by omega),
    hexDigit?_hexChar (n % 16) (by omega), hvalue]

/-- A character that needs no escape stands for itself. -/
theorem string_cons {c : Char} (hquote : c ≠ '"') (hslash : c ≠ '\\') (hraw : ¬ c.toNat < 0x20)
    (p : Partial) (s : List Char) : string p (c :: s) = string (p.push c) s := by
  rw [string.eq_def]
  split
  · next heq => exact absurd (List.cons.inj heq).1 hquote
  · next heq => exact absurd (List.cons.inj heq).1 hslash
  · next heq => exact absurd (List.cons.inj heq).1 hslash
  · next heq =>
      obtain ⟨rfl, rfl⟩ := List.cons.inj heq
      rw [if_neg hraw]
  · next heq => cases heq

/-- What stands for a character is read as that character. -/
theorem string_escapeChar (cs : List Char) (c : Char) (s : List Char) :
    string ⟨some cs, none⟩ (Writer.escapeChar c ++ s) = string ⟨some (c :: cs), none⟩ s := by
  rw [Writer.escapeChar]
  split
  · subst_vars; rfl
  split
  · subst_vars; rfl
  split
  · subst_vars; rfl
  split
  · subst_vars; rfl
  split
  · subst_vars; rfl
  split
  · subst_vars; rfl
  split
  · subst_vars; rfl
  split
  · next hcontrol =>
      have hpush : Partial.pushUnit ⟨some cs, none⟩ c.toNat = ⟨some (c :: cs), none⟩ := by
        have hhigh : isHighSurrogate c.toNat = false := by simp [isHighSurrogate]; omega
        have hlow : isLowSurrogate c.toNat = false := by simp [isLowSurrogate]; omega
        simp [Partial.pushUnit, hhigh, hlow, Partial.push]
      simp [string, unit?_hexChar hcontrol, hpush]
  · next hquote hslash _ _ _ _ _ hcontrol =>
      rw [List.singleton_append, string_cons hquote hslash hcontrol]
      rfl

/-- The characters of a text are read back. -/
theorem string_flatMap_escapeChar (acc cs rest : List Char) :
    string ⟨some acc, none⟩ (cs.flatMap Writer.escapeChar ++ '"' :: rest) =
      some (some (String.ofList (acc.reverse ++ cs)), rest) := by
  induction cs generalizing acc with
  | nil => simp [string, Partial.text?]
  | cons c cs ih =>
      rw [List.flatMap_cons, List.append_assoc, string_escapeChar, ih, List.reverse_cons,
        List.append_assoc, List.singleton_append]

/-- **A string literal is read back**, behind its first quote. -/
theorem string_append (s? : Option String) :
    ∃ body, (Writer.string s?).toList = '"' :: body ∧
      ∀ rest, string {} (body ++ rest) = some (s?, rest) := by
  cases s? with
  | none => exact ⟨['\\', 'u', 'd', '8', '0', '0', '"'], rfl, fun rest => rfl⟩
  | some s =>
      refine ⟨s.toList.flatMap Writer.escapeChar ++ ['"'], by simp [Writer.string, Writer.quote],
        fun rest => ?_⟩
      simpa using string_flatMap_escapeChar [] s.toList rest

/-! ### Values -/

/-- What may stand behind a value, a blank included, goes on no number. -/
theorem endsNumber_cons {c : Char} (hc : c = ',' ∨ c = ']' ∨ c = '\x7d' ∨ c = '\n')
    (rest : List Char) : EndsNumber (c :: rest) := by
  rintro _ ⟨⟩
  rcases hc with rfl | rfl | rfl | rfl <;> decide

/-- A character with which no value starts: a blank, or one that ends a value. -/
def isNoStart (c : Char) : Bool :=
  c == ' ' || c == '\t' || c == '\n' || c == '\r' || c == ',' || c == ']' || c == '\x7d'

/-- What starts a value is no blank to be skipped. -/
theorem skipBlanks_cons {c : Char} (hc : isNoStart c = false) (s : List Char) :
    skipBlanks (c :: s) = c :: s := by
  simp only [isNoStart, Bool.or_eq_false_iff] at hc
  simp [skipBlanks, hc]

/-- A number starts with a minus sign or a digit. -/
theorem exists_number_eq_cons (n : Number) :
    ∃ c s, (Writer.number n).toList = c :: s ∧ (c = '-' ∨ c.isDigit = true) := by
  have hsigned : ∀ (negative : Bool) (m : Nat), ∃ c s,
      ((if negative then "-" else "") ++ toString m).toList = c :: s ∧
        (c = '-' ∨ c.isDigit = true) := by
    intro negative m
    obtain ⟨d, ds, htext, hd⟩ := exists_toString_eq_cons m
    cases negative with
    | true => exact ⟨'-', (toString m).toList, by simp, .inl rfl⟩
    | false =>
        have hplain : (if false = true then "-" else "").toList = [] := rfl
        exact ⟨d, ds, by rw [String.toList_append, hplain, List.nil_append, htext], .inr hd⟩
  cases n with
  | integer negative m => exact hsigned negative m
  | decimal negative m e =>
      obtain ⟨c, s, htext, hc⟩ := hsigned negative m
      refine ⟨c, s ++ "e".toList ++ (toString e).toList, ?_, hc⟩
      rw [Writer.number, String.toList_append, String.toList_append, htext]
      rfl

/-- A text that starts with a minus sign or a digit is read as a number. -/
theorem value_number {c : Char} (hc : c = '-' ∨ c.isDigit = true) (steps : Nat) (s : List Char) :
    value (steps + 1) (c :: s) = (number (c :: s)).map fun (n, rest) => (.number n, rest) := by
  have hne : ∀ d : Char, d ≠ '-' → d.isDigit = false → c ≠ d := by
    rintro d hminus hdigit rfl
    rcases hc with rfl | h
    · exact hminus rfl
    · rw [h] at hdigit
      cases hdigit
  have hstart : isNoStart c = false := by
    simp [isNoStart, hne]
  rw [value, skipBlanks_cons hstart]
  split
  all_goals first
    | rfl
    | next heq => exact absurd (List.cons.inj heq).1 (hne _ (by decide) (by decide))

/-- A value starts with a character that may start one. -/
theorem exists_render_eq_cons (v : Value) :
    ∃ c s, v.render.toList = c :: s ∧ isNoStart c = false := by
  cases v with
  | null => exact ⟨'n', ['u', 'l', 'l'], rfl, rfl⟩
  | bool b =>
      cases b with
      | true => exact ⟨'t', ['r', 'u', 'e'], rfl, rfl⟩
      | false => exact ⟨'f', ['a', 'l', 's', 'e'], rfl, rfl⟩
  | number n =>
      obtain ⟨c, s, htext, hc⟩ := exists_number_eq_cons n
      refine ⟨c, s, by rw [Value.render, htext], ?_⟩
      rcases hc with rfl | hc
      · rfl
      · simp [isNoStart, ne_of_isDigit hc]
  | string s? =>
      obtain ⟨body, htext, -⟩ := string_append s?
      exact ⟨'"', body, by rw [Value.render, htext], rfl⟩
  | array items =>
      exact ⟨'[', (Value.renderItems items).toList ++ [']'], by simp [Value.render], rfl⟩
  | object members =>
      exact ⟨'\x7b', (Value.renderMembers members).toList ++ ['\x7d'], by simp [Value.render],
        rfl⟩

/-- Items start like the first of them. -/
theorem exists_renderItems_eq_cons (v : Value) (vs : List Value) :
    ∃ c s, (Value.renderItems (v :: vs)).toList = c :: s ∧ isNoStart c = false := by
  obtain ⟨c, s, htext, hc⟩ := exists_render_eq_cons v
  cases vs with
  | nil => exact ⟨c, s, by rw [Value.renderItems, htext], hc⟩
  | cons w ws =>
      refine ⟨c, s ++ ',' :: (Value.renderItems (w :: ws)).toList, ?_, hc⟩
      simp [Value.renderItems, htext]

/-- Members start with the quote of the first key. -/
theorem exists_renderMembers_eq_cons (m : Option String × Value)
    (ms : List (Option String × Value)) :
    ∃ s, (Value.renderMembers (m :: ms)).toList = '"' :: s := by
  obtain ⟨key, v⟩ := m
  obtain ⟨body, htext, -⟩ := string_append key
  cases ms with
  | nil => exact ⟨body ++ ':' :: v.render.toList, by simp [Value.renderMembers, htext]⟩
  | cons n ms =>
      exact ⟨body ++ ':' :: (v.render.toList ++ ',' :: (Value.renderMembers (n :: ms)).toList), by
        simp [Value.renderMembers, htext]⟩

/-- A text is not empty, so there is a step to take. -/
theorem exists_steps_eq_succ (v : Value) {steps : Nat}
    (hsteps : 2 * v.render.toList.length ≤ steps) : ∃ k, steps = k + 1 := by
  obtain ⟨c, s, htext, -⟩ := exists_render_eq_cons v
  rw [htext, List.length_cons] at hsteps
  exact ⟨steps - 1, by omega⟩

/-- Behind the opening bracket, what is no closing one is read as items. -/
theorem value_items {c : Char} (hc : isNoStart c = false) (steps : Nat) (s : List Char) :
    value (steps + 1) ('[' :: c :: s) = items steps [] (c :: s) := by
  rw [value, skipBlanks_cons rfl]
  simp only [skipBlanks_cons hc]
  split
  · next heq =>
      rw [(List.cons.inj heq).1] at hc
      cases hc
  · rfl

/-- Behind the opening brace, a quote is read as the first key. -/
theorem value_members (steps : Nat) (s : List Char) :
    value (steps + 1) ('\x7b' :: '"' :: s) = members steps [] ('"' :: s) := by
  rw [value, skipBlanks_cons rfl]
  rfl

mutual

/-- **A value is read back from the front of a text**, given enough steps and an end behind it. -/
theorem value_append : ∀ (v : Value) (steps : Nat) (rest : List Char),
    2 * v.render.toList.length ≤ steps → EndsNumber rest →
      value steps (v.render.toList ++ rest) = some (v, rest)
  | .null, steps, rest, hsteps, _ => by
      obtain ⟨k, rfl⟩ := exists_steps_eq_succ _ hsteps
      rfl
  | .bool b, steps, rest, hsteps, _ => by
      obtain ⟨k, rfl⟩ := exists_steps_eq_succ _ hsteps
      cases b <;> rfl
  | .number n, steps, rest, hsteps, hrest => by
      obtain ⟨c, s, htext, hc⟩ := exists_number_eq_cons n
      have hread := number_append hrest n
      obtain ⟨k, rfl⟩ := exists_steps_eq_succ _ hsteps
      rw [htext, List.cons_append] at hread
      rw [Value.render, htext, List.cons_append, value_number hc, hread]
      rfl
  | .string s?, steps, rest, hsteps, _ => by
      obtain ⟨body, htext, hread⟩ := string_append s?
      obtain ⟨k, rfl⟩ := exists_steps_eq_succ _ hsteps
      rw [Value.render, htext, List.cons_append, value, skipBlanks_cons rfl]
      simp only [hread rest, Option.map_some]
  | .array [], steps, rest, hsteps, _ => by
      obtain ⟨k, rfl⟩ := exists_steps_eq_succ _ hsteps
      rfl
  | .array (v :: vs), steps, rest, hsteps, _ => by
      have hrender : (Value.array (v :: vs)).render.toList =
          '[' :: ((Value.renderItems (v :: vs)).toList ++ [']']) := by
        simp [Value.render]
      obtain ⟨k, rfl⟩ := exists_steps_eq_succ _ hsteps
      rw [hrender, List.length_cons, List.length_append, List.length_singleton] at hsteps
      have hread := items_append (v :: vs) (List.cons_ne_nil v vs) k [] rest (by omega)
      obtain ⟨c, s, htext, hc⟩ := exists_renderItems_eq_cons v vs
      rw [hrender, List.cons_append, List.append_assoc, List.singleton_append]
      rw [htext, List.cons_append] at hread ⊢
      rw [value_items hc, hread]
      rfl
  | .object [], steps, rest, hsteps, _ => by
      obtain ⟨k, rfl⟩ := exists_steps_eq_succ _ hsteps
      rfl
  | .object (m :: ms), steps, rest, hsteps, _ => by
      have hrender : (Value.object (m :: ms)).render.toList =
          '\x7b' :: ((Value.renderMembers (m :: ms)).toList ++ ['\x7d']) := by
        simp [Value.render]
      obtain ⟨k, rfl⟩ := exists_steps_eq_succ _ hsteps
      rw [hrender, List.length_cons, List.length_append, List.length_singleton] at hsteps
      have hread := members_append (m :: ms) (List.cons_ne_nil m ms) k [] rest (by omega)
      obtain ⟨s, htext⟩ := exists_renderMembers_eq_cons m ms
      rw [hrender, List.cons_append, List.append_assoc, List.singleton_append]
      rw [htext, List.cons_append] at hread ⊢
      rw [value_members, hread]
      rfl

/-- Items are read back up to the bracket behind the last one. -/
theorem items_append : ∀ (vs : List Value), vs ≠ [] → ∀ (steps : Nat) (acc : List Value)
    (rest : List Char), 2 * (Value.renderItems vs).toList.length < steps →
      items steps acc ((Value.renderItems vs).toList ++ ']' :: rest) =
        some (.array (acc.reverse ++ vs), rest)
  | [], hne, _, _, _, _ => absurd rfl hne
  | [v], _, steps, acc, rest, hsteps => by
      obtain ⟨k, rfl⟩ : ∃ k, steps = k + 1 := ⟨steps - 1, by omega⟩
      rw [Value.renderItems] at hsteps ⊢
      rw [items, value_append v k (']' :: rest) (by omega) (endsNumber_cons (by simp) rest)]
      simp [skipBlanks]
  | v :: w :: ws, _, steps, acc, rest, hsteps => by
      have hrender : (Value.renderItems (v :: w :: ws)).toList =
          v.render.toList ++ ',' :: (Value.renderItems (w :: ws)).toList := by
        simp [Value.renderItems]
      obtain ⟨k, rfl⟩ : ∃ k, steps = k + 1 := ⟨steps - 1, by omega⟩
      rw [hrender, List.length_append, List.length_cons] at hsteps
      have hread := items_append (w :: ws) (List.cons_ne_nil w ws) k (v :: acc) rest (by omega)
      rw [hrender, List.append_assoc, List.cons_append, items,
        value_append v k _ (by omega) (endsNumber_cons (by simp) _)]
      simpa [skipBlanks] using hread

/-- Members are read back up to the brace behind the last one. -/
theorem members_append : ∀ (ms : List (Option String × Value)), ms ≠ [] → ∀ (steps : Nat)
    (acc : List (Option String × Value)) (rest : List Char),
      2 * (Value.renderMembers ms).toList.length < steps →
        members steps acc ((Value.renderMembers ms).toList ++ '\x7d' :: rest) =
          some (.object (acc.reverse ++ ms), rest)
  | [], hne, _, _, _, _ => absurd rfl hne
  | [(key, v)], _, steps, acc, rest, hsteps => by
      obtain ⟨body, htext, hkey⟩ := string_append key
      have hrender : (Value.renderMembers [(key, v)]).toList =
          '"' :: (body ++ ':' :: v.render.toList) := by
        simp [Value.renderMembers, htext]
      obtain ⟨k, rfl⟩ : ∃ k, steps = k + 1 := ⟨steps - 1, by omega⟩
      rw [hrender, List.length_cons, List.length_append, List.length_cons] at hsteps
      have hread := value_append v k ('\x7d' :: rest) (by omega) (endsNumber_cons (by simp) rest)
      rw [hrender, List.cons_append, List.append_assoc, members, skipBlanks_cons rfl]
      simp [hkey, skipBlanks, hread]
  | (key, v) :: m :: ms, _, steps, acc, rest, hsteps => by
      obtain ⟨body, htext, hkey⟩ := string_append key
      have hrender : (Value.renderMembers ((key, v) :: m :: ms)).toList =
          '"' :: (body ++ ':' :: (v.render.toList ++
            ',' :: (Value.renderMembers (m :: ms)).toList)) := by
        simp [Value.renderMembers, htext]
      obtain ⟨k, rfl⟩ : ∃ k, steps = k + 1 := ⟨steps - 1, by omega⟩
      rw [hrender, List.length_cons, List.length_append, List.length_cons, List.length_append,
        List.length_cons] at hsteps
      have hvalue := value_append v k
        (',' :: ((Value.renderMembers (m :: ms)).toList ++ '\x7d' :: rest)) (by omega)
        (endsNumber_cons (by simp) _)
      have hread := members_append (m :: ms) (List.cons_ne_nil m ms) k ((key, v) :: acc) rest
        (by omega)
      rw [hrender, List.cons_append, List.append_assoc, members, skipBlanks_cons rfl]
      simpa [hkey, skipBlanks, hvalue] using hread

end

end Reader

/-- **A document is read back from its text.** -/
theorem parse_render (v : Value) : parse v.render = some v := by
  have hread := Reader.value_append v (2 * v.render.toList.length + 2) []
    (Nat.le_add_right _ 2) (fun c hc => by cases hc)
  rw [List.append_nil] at hread
  simp [parse, Reader.leading, hread, Reader.skipBlanks]

end Companion.Json
