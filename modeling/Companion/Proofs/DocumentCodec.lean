import Companion.Model.Codec
import Companion.Proofs.JsonText
import Mathlib.Data.List.Basic

/-!
# Laws of Codecs

An encoder and a decoder of one type meet in a document, and all that can come between them is room.
Two laws make a pair of them a codec (`IsCodec`).

* A value is decoded from its document wherever there is room for the document.
* The document of a decoded value needs no more room than there was to decode it in. A small
  document can stand for a large one, as a member that is missing takes a default and the default is
  written out. So the second law holds from some `least` room on.

Lists and objects are codecs if their parts are, and words for the constructors of a type are one if
each is decoded from its word. What an object is decoded to depends on the member that stands under
a key, so the rules for its fields are about the members in front and the member under the key
(`required_cons_self`, `optional_cons_of_ne` and the like). They are simplification rules: an object
that is written with distinct keys is decoded field by field.

## Main results

* `IsCodec.word`, `IsCodec.list`, `IsCodec.record`: words, lists and objects.
* `IsCodec.roundTrips`: a codec whose `least` room is within the limit for program documents takes
  the text of a value back to the value exactly when the document nests within the limit, and the
  value of any text back to itself.
-/

namespace Companion.Json

/-! ### Nesting -/

mutual

/-- How deep arrays and objects nest in a document. -/
def Value.nesting : Value → Nat
  | .null => 0
  | .bool _ => 0
  | .number _ => 0
  | .string _ => 0
  | .array items => itemsNesting items + 1
  | .object members => membersNesting members + 1

/-- `nesting` of the deepest item of an array. -/
def Value.itemsNesting : List Value → Nat
  | [] => 0
  | v :: vs => max v.nesting (itemsNesting vs)

/-- `nesting` of the deepest member of an object. -/
def Value.membersNesting : List (Option String × Value) → Nat
  | [] => 0
  | (_, v) :: rest => max v.nesting (membersNesting rest)

end

namespace Value

@[simp]
theorem nesting_null : null.nesting = 0 := by rw [nesting]

@[simp]
theorem nesting_bool (b : Bool) : (bool b).nesting = 0 := by rw [nesting]

@[simp]
theorem nesting_text (s : String) : (text s).nesting = 0 := by rw [text, nesting]

@[simp]
theorem nesting_textOrNull (s? : Option String) : (textOrNull s?).nesting = 0 := by
  cases s? <;> simp [textOrNull]

@[simp]
theorem nesting_int (i : Int) : (int i).nesting = 0 := by rw [int, nesting]

/-- The items of an array nest within some room if each of them does. -/
theorem itemsNesting_le {vs : List Value} {room : Nat} :
    itemsNesting vs ≤ room ↔ ∀ v ∈ vs, v.nesting ≤ room := by
  induction vs with
  | nil => simp [itemsNesting]
  | cons v vs ih => rw [itemsNesting, Nat.max_le, ih, List.forall_mem_cons]

/-- The members of an object nest within some room if each of them does. -/
theorem membersNesting_le {ms : List (Option String × Value)} {room : Nat} :
    membersNesting ms ≤ room ↔ ∀ m ∈ ms, m.2.nesting ≤ room := by
  induction ms with
  | nil => simp [membersNesting]
  | cons m ms ih => rw [membersNesting, Nat.max_le, ih, List.forall_mem_cons]

/-- An array takes one level more than its items. -/
theorem nesting_array_le_succ {vs : List Value} {room : Nat} :
    (array vs).nesting ≤ room + 1 ↔ ∀ v ∈ vs, v.nesting ≤ room := by
  rw [nesting, Nat.succ_le_succ_iff, itemsNesting_le]

/-- An object takes one level more than its members. -/
theorem nesting_record_le_succ {fs : List (String × Value)} {room : Nat} :
    (record fs).nesting ≤ room + 1 ↔ ∀ f ∈ fs, f.2.nesting ≤ room := by
  rw [record, nesting, Nat.succ_le_succ_iff, membersNesting_le, List.forall_mem_map]

/-- An array takes a level of the room, and its items have what is left. -/
theorem exists_succ_of_nesting_array_le {vs : List Value} {room : Nat}
    (h : (array vs).nesting ≤ room) : ∃ r, room = r + 1 ∧ ∀ v ∈ vs, v.nesting ≤ r := by
  cases room with
  | zero => simp [nesting] at h
  | succ r => exact ⟨r, rfl, nesting_array_le_succ.mp h⟩

/-- An object takes a level of the room, and its members have what is left. -/
theorem exists_succ_of_nesting_record_le {fs : List (String × Value)} {room : Nat}
    (h : (record fs).nesting ≤ room) : ∃ r, room = r + 1 ∧ ∀ f ∈ fs, f.2.nesting ≤ r := by
  cases room with
  | zero => simp [record, nesting] at h
  | succ r => exact ⟨r, rfl, nesting_record_le_succ.mp h⟩

/-! ### Storable documents -/

/-- Nesting is all that could keep a document from being stored. -/
def IsPlain (v : Value) : Prop := ∀ room, v.nesting ≤ room → v.isStorable room = true

/-- Documents without parts are plain. -/
@[simp]
theorem isPlain_null : null.IsPlain := fun room _ => by
  cases room <;> rw [isStorable]

@[simp]
theorem isPlain_bool (b : Bool) : (bool b).IsPlain := fun room _ => by
  cases room <;> rw [isStorable]

@[simp]
theorem isPlain_text (s : String) : (text s).IsPlain := fun room _ => by
  cases room <;> rw [text, isStorable, Option.isSome_some]

/-- A text that may be missing is plain. -/
@[simp]
theorem isPlain_textOrNull (s? : Option String) : (textOrNull s?).IsPlain := by
  cases s? <;> simp [textOrNull]

/-- An integer is plain if its digits fit a word of 64 bits. -/
theorem isPlain_int {i : Int} (h : i.natAbs < Number.wordSize) : (int i).IsPlain := fun room _ => by
  cases room <;> simp [int, isStorable, Number.isInRange, h]

/-- The integers of the model are plain, being words of at most 64 bits. -/
@[simp]
theorem isPlain_uint8 (n : UInt8) : (int n.toNat).IsPlain := by
  have hn := n.toNat_lt
  exact isPlain_int (by simp only [Number.wordSize]; omega)

@[simp]
theorem isPlain_uint32 (n : UInt32) : (int n.toNat).IsPlain := by
  have hn := n.toNat_lt
  exact isPlain_int (by simp only [Number.wordSize]; omega)

@[simp]
theorem isPlain_int64 (i : Int64) : (int i.toInt).IsPlain := by
  have hlower := i.le_toInt
  have hupper := i.toInt_lt
  exact isPlain_int (by simp only [Number.wordSize]; omega)

/-- The items of an array can be stored if each of them can. -/
theorem areStorable_iff {vs : List Value} {room : Nat} :
    areStorable room vs = true ↔ ∀ v ∈ vs, v.isStorable room = true := by
  induction vs with
  | nil => simp [areStorable]
  | cons v vs ih => simp [areStorable, ih]

/-- The members of an object whose keys are texts can be stored if each of them can. -/
theorem membersStorable_record_iff {fs : List (String × Value)} {room : Nat} :
    membersStorable room (fs.map fun (key, v) => (some key, v)) = true ↔
      ∀ f ∈ fs, f.2.isStorable room = true := by
  induction fs with
  | nil => simp [membersStorable]
  | cons f fs ih => simp [membersStorable, ih]

/-- An array of plain items is plain. -/
theorem isPlain_array {vs : List Value} (h : ∀ v ∈ vs, v.IsPlain) : (array vs).IsPlain := by
  intro room hroom
  obtain ⟨r, rfl, hfit⟩ := exists_succ_of_nesting_array_le hroom
  rw [isStorable, areStorable_iff]
  exact fun v hv => h v hv r (hfit v hv)

/-- An object of plain members is plain. -/
theorem isPlain_record {fs : List (String × Value)} (h : ∀ f ∈ fs, f.2.IsPlain) :
    (record fs).IsPlain := by
  intro room hroom
  obtain ⟨r, rfl, hfit⟩ := exists_succ_of_nesting_record_le hroom
  rw [record, isStorable, membersStorable_record_iff]
  exact fun f hf => h f hf r (hfit f hf)

end Value

/-! ### Decoders -/

namespace Decode

variable {α : Type} {key : String} {v : Value} {fs : Fields}

/-- Documents of leaves are decoded to what they hold. -/
@[simp]
theorem text_text (s : String) : text (.text s) = some s := rfl

/-- A text is a word in every context. -/
@[simp]
theorem variant_text (buffered : Bool) (room : Nat) (s : String) :
    variant buffered room (.text s) = some s := by
  cases room <;> rfl

@[simp]
theorem bool_bool (b : Bool) : bool (.bool b) = some b := rfl

/-- An integer within the bounds is decoded from its literal. -/
theorem integer_int {i lower upper : Int} (hlower : lower ≤ i) (hupper : i ≤ upper) :
    integer lower upper (.int i) = some i := by
  have hvalue : (Number.integer (decide (i < 0)) i.natAbs).toInt? = some i := by
    by_cases hneg : i < 0
    · obtain ⟨n, hn⟩ : ∃ n, i.natAbs = n + 1 := ⟨i.natAbs - 1, by omega⟩
      have hi : -((n + 1 : Nat) : Int) = i := by omega
      simp only [hneg, decide_true, hn, Number.toInt?, hi]
    · have hi : (i.natAbs : Int) = i := by omega
      simp only [hneg, decide_false, Number.toInt?, hi]
  simp [Value.int, integer, hvalue, hlower, hupper]

/-- The literal of a byte is decoded to the byte. -/
@[simp]
theorem uint8_int (n : UInt8) : uint8 (.int n.toNat) = some n := by
  have hn := n.toNat_lt
  rw [uint8, integer_int (by omega) (by omega)]
  simp

/-- The literal of a word of 32 bits is decoded to the word. -/
@[simp]
theorem uint32_int (n : UInt32) : uint32 (.int n.toNat) = some n := by
  have hn := n.toNat_lt
  rw [uint32, integer_int (by omega) (by omega)]
  simp

/-- The literal of a word of 64 bits with a sign is decoded to the word. -/
@[simp]
theorem int64_int (i : Int64) : int64 (.int i.toInt) = some i := by
  have hlower := i.le_toInt
  have hupper := i.toInt_lt
  rw [int64, integer_int (by omega) (by omega), Option.map_some, Int64.ofInt_toInt]

/-- The members of an object are found as they were written. -/
@[simp]
theorem fields_record (fs : Fields) : fields (.record fs) = some fs := by
  simp only [Value.record, fields]
  induction fs with
  | nil => rfl
  | cons f fs ih => simp [ih]

/-- The fields of an object are its members, whatever the names in an array are. -/
@[simp]
theorem recordFields_record (names : List Value → List String) (least : Nat) :
    recordFields names least (.record fs) = some fs :=
  fields_record fs

/-- The fields of an array are its items, each under the name that it has there. -/
theorem recordFields_array_eq_some {names : List Value → List String} {least : Nat}
    {vs : List Value} :
    recordFields names least (.array vs) = some fs ↔
      least ≤ vs.length ∧ vs.length ≤ (names vs).length ∧ fs = (names vs).zip vs := by
  rw [recordFields, Option.ite_none_right_eq_some, Option.some.injEq, and_assoc, eq_comm]

variable {names : List Value → List String} {content : Nat → Fields → Option α} {room : Nat}

/-- An object with room for its members is decoded by what it makes of them. -/
@[simp]
theorem record_succ_record : record names content (room + 1) (.record fs) = content room fs := by
  simp [record]

/-- A record is decoded where there is room for its fields. -/
theorem record_eq_some {x : α} :
    record names content room v = some x ↔
      ∃ r fs, room = r + 1 ∧ recordFields names 0 v = some fs ∧ content r fs = some x := by
  cases room with
  | zero => simp [record]
  | succ r => simp [record, Option.bind_eq_some_iff]

/-- An object without members has none under any key. -/
@[simp]
theorem member?_nil : member? [] key = some none := rfl

/-- A key under which one member stands, the one in front. -/
@[simp]
theorem member?_cons_self (hkey : key ∉ fs.map (·.1)) :
    member? ((key, v) :: fs) key = some (some v) := by
  have hrest : fs.filter (·.1 == key) = [] := by
    refine List.filter_eq_nil_iff.mpr fun f hf heq => hkey ?_
    exact List.mem_map.mpr ⟨f, hf, eq_of_beq heq⟩
  simp [member?, hrest]

/-- A member in front matters only under its own key. -/
@[simp]
theorem member?_cons_of_ne {other : String} (hne : other ≠ key) :
    member? ((other, v) :: fs) key = member? fs key := by
  simp [member?, hne]

variable {decode : Value → Option α} {default : α}

/-- A member that has to be there is decoded where it stands in front. -/
@[simp]
theorem required_cons_self (hkey : key ∉ fs.map (·.1)) :
    required ((key, v) :: fs) key decode = decode v := by
  simp [required, member?_cons_self hkey]

/-- A member in front is passed over by what asks for another key. -/
@[simp]
theorem required_cons_of_ne {other : String} (hne : other ≠ key) :
    required ((other, v) :: fs) key decode = required fs key decode := by
  simp [required, member?_cons_of_ne hne]

/-- A default is taken where no member is left. -/
@[simp]
theorem defaulted_nil : defaulted [] key default decode = some default := rfl

/-- A member with a default is decoded where it stands in front. -/
@[simp]
theorem defaulted_cons_self (hkey : key ∉ fs.map (·.1)) :
    defaulted ((key, v) :: fs) key default decode = decode v := by
  simp [defaulted, member?_cons_self hkey]

/-- A member in front is passed over by what asks for another key and has a default. -/
@[simp]
theorem defaulted_cons_of_ne {other : String} (hne : other ≠ key) :
    defaulted ((other, v) :: fs) key default decode = defaulted fs key default decode := by
  simp [defaulted, member?_cons_of_ne hne]

/-- A member in front is passed over by what asks for another key and may go without. -/
@[simp]
theorem optional_cons_of_ne {other : String} (hne : other ≠ key) :
    optional ((other, v) :: fs) key decode = optional fs key decode := by
  simp [optional, member?_cons_of_ne hne]

/-- A `null` stands for a missing member. -/
theorem optional_cons_null (hkey : key ∉ fs.map (·.1)) :
    optional ((key, .null) :: fs) key decode = some none := by
  simp [optional, member?_cons_self hkey]

/-- A member that may be missing is decoded where it stands in front and is not `null`. -/
theorem optional_cons_of_ne_null (hkey : key ∉ fs.map (·.1)) (hv : v ≠ .null) :
    optional ((key, v) :: fs) key decode = (decode v).map some := by
  simp [optional, member?_cons_self hkey]

/-- A text that may be missing is decoded to itself, or to none from `null`. -/
@[simp]
theorem optional_cons_textOrNull {s? : Option String} (hkey : key ∉ fs.map (·.1)) :
    optional ((key, .textOrNull s?) :: fs) key text = some s? := by
  cases s? with
  | none => exact optional_cons_null hkey
  | some s => exact optional_cons_of_ne_null hkey (by simp [Value.textOrNull, Value.text])

variable {x : α}

/-- What has to be there was decoded from some document. -/
theorem exists_of_required_eq_some (h : required fs key decode = some x) :
    ∃ v, decode v = some x := by
  simp only [required, Option.bind_eq_bind, Option.bind_eq_some_iff] at h
  obtain ⟨v | v, -, hv⟩ := h
  · cases hv
  · exact ⟨v, hv⟩

/-- What has a default is that, or was decoded from some document. -/
theorem eq_or_exists_of_defaulted_eq_some (h : defaulted fs key default decode = some x) :
    x = default ∨ ∃ v, decode v = some x := by
  simp only [defaulted, Option.bind_eq_bind, Option.bind_eq_some_iff] at h
  obtain ⟨v | v, -, hv⟩ := h
  · cases hv
    exact .inl rfl
  · exact .inr ⟨v, hv⟩

/-- What was not missing was decoded from some document. -/
theorem exists_of_optional_eq_some (h : optional fs key decode = some (some x)) :
    ∃ v, decode v = some x := by
  simp only [optional, Option.bind_eq_bind, Option.bind_eq_some_iff] at h
  obtain ⟨v?, -, hv⟩ := h
  split at hv
  · cases hv
  · cases hv
  · obtain ⟨y, hy, hxy⟩ := Option.map_eq_some_iff.mp hv
    cases hxy
    exact ⟨_, hy⟩

end Decode

end Companion.Json

namespace Companion

open Json (Number Value)
open Json.Decode

variable {α : Type} {least room : Nat} {encode : α → Value} {decode : Nat → Value → Option α}

/-! ### Codecs -/

/-- An encoder and a decoder that agree: on the document of a value in whatever room it fits, and on
the value of a document where there is at least some room. -/
structure IsCodec (least : Nat) (encode : α → Value) (decode : Nat → Value → Option α) : Prop where
  isPlain (x : α) : (encode x).IsPlain
  /-- No value is taken for a missing one. -/
  ne_null (x : α) : encode x ≠ .null
  decode_encode {room : Nat} {x : α} :
    (encode x).nesting ≤ room → decode room (encode x) = some x
  nesting_le {room : Nat} {v : Value} {x : α} :
    least ≤ room → decode room v = some x → (encode x).nesting ≤ room

/-! ### Words -/

/-- Words take no room. -/
@[simp]
theorem nesting_encodeWord [BEq α] (words : List (String × α)) (x : α) :
    (encodeWord words x).nesting = 0 :=
  Value.nesting_textOrNull _

/-- Nothing keeps a word from being stored. -/
@[simp]
theorem isPlain_encodeWord [BEq α] (words : List (String × α)) (x : α) :
    (encodeWord words x).IsPlain :=
  Value.isPlain_textOrNull _

/-- Words are a codec if each value is the one that its word stands for. -/
theorem IsCodec.word [BEq α] {words : List (String × α)} (buffered : Bool)
    (hwords : ∀ x, ∃ s, encodeWord words x = .text s ∧ words.lookup s = some x) :
    IsCodec 0 (encodeWord words) (word words buffered) where
  isPlain := isPlain_encodeWord words
  ne_null x := by
    obtain ⟨s, hs, -⟩ := hwords x
    simp [hs, Value.text]
  decode_encode {room x} _ := by
    obtain ⟨s, hs, hlookup⟩ := hwords x
    rw [Json.Decode.word, hs, variant_text, Option.bind_some, hlookup]
  nesting_le _ _ := by simp

/-! ### Lists -/

/-- Items that are decoded from their documents make a list that is. -/
theorem mapM_map_eq_some {xs : List α} {item : Value → Option α}
    (h : ∀ x ∈ xs, item (encode x) = some x) : (xs.map encode).mapM item = some xs := by
  induction xs with
  | nil => rfl
  | cons x xs ih =>
      have hx : item (encode x) = some x := h x List.mem_cons_self
      have hxs := ih fun y hy => h y (List.mem_cons_of_mem x hy)
      simp [hx, hxs]

/-- Each item of a decoded list was decoded from some document. -/
theorem exists_of_mapM_eq_some {items : List Value} {item : Value → Option α} {xs : List α}
    (h : items.mapM item = some xs) : ∀ x ∈ xs, ∃ v, item v = some x := by
  induction items generalizing xs with
  | nil =>
      cases h
      simp
  | cons v items ih =>
      simp only [List.mapM_cons, Option.bind_eq_bind, Option.pure_def, Option.bind_eq_some_iff,
        Option.some.injEq] at h
      obtain ⟨y, hy, ys, hys, rfl⟩ := h
      exact List.forall_mem_cons.mpr ⟨⟨v, hy⟩, ih hys⟩

/-- A list is plain if its items are. -/
theorem isPlain_encodeList {xs : List α} (h : ∀ x ∈ xs, (encode x).IsPlain) :
    (encodeList encode xs).IsPlain :=
  Value.isPlain_array (List.forall_mem_map.mpr h)

/-- A list is decoded from its document if its items are decoded from theirs. -/
theorem list_encodeList {xs : List α}
    (h : ∀ x ∈ xs, ∀ r, (encode x).nesting ≤ r → decode r (encode x) = some x)
    (hroom : (encodeList encode xs).nesting ≤ room) :
    list decode room (encodeList encode xs) = some xs := by
  obtain ⟨r, rfl, hfit⟩ := Value.exists_succ_of_nesting_array_le hroom
  exact mapM_map_eq_some fun x hx => h x hx r (hfit (encode x) (List.mem_map_of_mem hx))

/-- Each item of a decoded list was decoded from some document, with one level less. -/
theorem exists_of_list_eq_some {v : Value} {xs : List α} (h : list decode room v = some xs) :
    ∃ r, room = r + 1 ∧ ∀ x ∈ xs, ∃ v, decode r v = some x := by
  cases room with
  | zero => cases h
  | succ r =>
      cases v with
      | array items => exact ⟨r, rfl, exists_of_mapM_eq_some h⟩
      | _ => cases h

/-- A list takes one level more than its items. -/
theorem nesting_encodeList_le {xs : List α} (h : ∀ x ∈ xs, (encode x).nesting ≤ room) :
    (encodeList encode xs).nesting ≤ room + 1 :=
  Value.nesting_array_le_succ.mpr (List.forall_mem_map.mpr h)

/-- A decoded list takes no more room than there was if its items do not. -/
theorem nesting_le_of_list {v : Value} {xs : List α}
    (h : ∀ r, room = r + 1 → ∀ v x, decode r v = some x → (encode x).nesting ≤ r)
    (hlist : list decode room v = some xs) : (encodeList encode xs).nesting ≤ room := by
  obtain ⟨r, rfl, hitems⟩ := exists_of_list_eq_some hlist
  refine nesting_encodeList_le fun x hx => ?_
  obtain ⟨v, hv⟩ := hitems x hx
  exact h r rfl v x hv

namespace IsCodec

/-- Lists of what has a codec have one. -/
theorem list (hc : IsCodec least encode decode) :
    IsCodec (least + 1) (encodeList encode) (list decode) where
  isPlain xs := isPlain_encodeList fun x _ => hc.isPlain x
  ne_null xs := by simp [encodeList]
  decode_encode := list_encodeList fun _ _ _ => hc.decode_encode
  nesting_le {room v xs} hleast :=
    nesting_le_of_list fun r hr v x => hc.nesting_le (by omega)

/-- A decoder may insist on a document that can be stored. -/
theorem storable (hc : IsCodec least encode decode) :
    IsCodec least encode fun room v => if v.isStorable room then decode room v else none where
  isPlain := hc.isPlain
  ne_null := hc.ne_null
  decode_encode {room x} hroom := by
    rw [if_pos (hc.isPlain x room hroom), hc.decode_encode hroom]
  nesting_le hleast h := hc.nesting_le hleast (Option.ite_none_right_eq_some.mp h).2

/-! ### Fields of a record -/

variable {key : String} {fs : Fields} {x default : α} {x? : Option α}

/-- What may be missing is plain if it is where it is there. -/
theorem isPlain_option (hc : IsCodec least encode decode) (x? : Option α) :
    (encodeOption encode x?).IsPlain := by
  cases x? with
  | none => exact Value.isPlain_null
  | some x => exact hc.isPlain x

/-- What may be missing is decoded to itself, or to none from `null`. -/
theorem optional_cons_self (hc : IsCodec least encode decode) (hkey : key ∉ fs.map (·.1))
    (hroom : (encodeOption encode x?).nesting ≤ room) :
    optional ((key, encodeOption encode x?) :: fs) key (decode room) = some x? := by
  cases x? with
  | none => exact optional_cons_null hkey
  | some x =>
      rw [encodeOption, optional_cons_of_ne_null hkey (hc.ne_null x), hc.decode_encode hroom,
        Option.map_some]

/-- What has to be there takes no more room than there was to decode it. -/
theorem nesting_le_required (hc : IsCodec least encode decode) (hleast : least ≤ room)
    (h : required fs key (decode room) = some x) : (encode x).nesting ≤ room := by
  obtain ⟨v, hv⟩ := exists_of_required_eq_some h
  exact hc.nesting_le hleast hv

/-- What has a default takes no more room than there was to decode it, if the default does not. -/
theorem nesting_le_defaulted (hc : IsCodec least encode decode) (hleast : least ≤ room)
    (hdefault : (encode default).nesting ≤ room)
    (h : defaulted fs key default (decode room) = some x) : (encode x).nesting ≤ room := by
  obtain rfl | ⟨v, hv⟩ := eq_or_exists_of_defaulted_eq_some h
  · exact hdefault
  · exact hc.nesting_le hleast hv

/-- `nesting_le_defaulted` for a list that is empty when it is missing. -/
theorem nesting_le_list (hc : IsCodec least encode decode) {xs : List α} (hleast : least + 1 ≤ room)
    (h : defaulted fs key [] (Json.Decode.list decode room) = some xs) :
    (encodeList encode xs).nesting ≤ room := by
  obtain ⟨r, rfl⟩ : ∃ r, room = r + 1 := ⟨room - 1, by omega⟩
  exact hc.list.nesting_le_defaulted hleast (nesting_encodeList_le (by simp)) h

/-- What may be missing takes no more room than there was to decode it. -/
theorem nesting_le_optional (hc : IsCodec least encode decode) (hleast : least ≤ room)
    (h : optional fs key (decode room) = some x?) : (encodeOption encode x?).nesting ≤ room := by
  cases x? with
  | none => simp [encodeOption]
  | some x =>
      obtain ⟨v, hv⟩ := exists_of_optional_eq_some h
      exact hc.nesting_le hleast hv

end IsCodec

/-! ### Records -/

/-- The laws of a codec for the fields of an object. -/
structure IsContent (least : Nat) (fields : α → Fields) (content : Nat → Fields → Option α) :
    Prop where
  isPlain (x : α) : ∀ f ∈ fields x, f.2.IsPlain
  decode_encode {room : Nat} {x : α} :
    (∀ f ∈ fields x, f.2.nesting ≤ room) → content room (fields x) = some x
  nesting_le {room : Nat} {fs : Fields} {x : α} :
    least ≤ room → content room fs = some x → ∀ f ∈ fields x, f.2.nesting ≤ room

/-- An object takes one level more than its fields. Without room nothing is decoded to an object, so
fields that are content with any room make an object that is. -/
theorem IsCodec.record {names : List Value → List String} {fields : α → Fields}
    {content : Nat → Fields → Option α}
    (hencode : ∀ x, encode x = .record (fields x)) (hc : IsContent (least - 1) fields content) :
    IsCodec least encode (record names content) where
  isPlain x := by
    rw [hencode]
    exact Value.isPlain_record (hc.isPlain x)
  ne_null x := by simp [hencode, Value.record]
  decode_encode {room x} hroom := by
    rw [hencode] at hroom ⊢
    obtain ⟨r, rfl, hfit⟩ := Value.exists_succ_of_nesting_record_le hroom
    rw [record_succ_record, hc.decode_encode hfit]
  nesting_le {room v x} hleast h := by
    obtain ⟨r, fs, rfl, -, hcontent⟩ := record_eq_some.mp h
    rw [hencode, Value.nesting_record_le_succ]
    exact hc.nesting_le (by omega) hcontent

/-! ### Round trips -/

/-- The value that the text of a program document holds. -/
def readText (decode : Nat → Value → Option α) (text : String) : Option α :=
  (Json.parse text).bind (decode Program.nesting)

/-- The text of a value holds the value exactly when its document nests within the limit, and the
value that any text holds is held by its own text as well. -/
def RoundTrips (encode : α → Value) (decode : Nat → Value → Option α) : Prop :=
  (∀ x, readText decode (encode x).render = some x ↔ (encode x).nesting ≤ Program.nesting) ∧
    ∀ text x, readText decode text = some x → readText decode (encode x).render = some x

/-- A document that is written out is read as what it is decoded to. -/
theorem readText_render (v : Value) : readText decode v.render = decode Program.nesting v := by
  rw [readText, Json.parse_render, Option.bind_some]

/-- **A codec round-trips** if the limit is room enough. -/
theorem IsCodec.roundTrips (hc : IsCodec least encode decode) (hleast : least ≤ Program.nesting) :
    RoundTrips encode decode := by
  have hwritten : ∀ x, readText decode (encode x).render = some x ↔
      (encode x).nesting ≤ Program.nesting := by
    intro x
    rw [readText_render]
    exact ⟨hc.nesting_le hleast, hc.decode_encode⟩
  refine ⟨hwritten, fun text x hx => (hwritten x).mpr ?_⟩
  obtain ⟨v, -, hv⟩ := Option.bind_eq_some_iff.mp hx
  exact hc.nesting_le hleast hv

end Companion
