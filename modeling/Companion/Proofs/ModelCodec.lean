import Companion.Compilation.Basic
import Companion.Proofs.DocumentCodec

/-!
# The Codecs of the Model

Every type of the model is written as a document and read back by a codec in the sense of
`Companion.IsCodec`. References and attribute arguments are trees of any depth, and their documents
nest no deeper than what they are read from: the encoder and the decoder follow the same recursion,
the one over the value and the other over the room. The documents of the other types hold a few
levels that need not be there when they are read, since a list that is missing is written as an
empty one. A member takes four such levels, which are its own, that of its attributes, that of an
attribute and that of the arguments of one; a definition takes six and a program eight.

The tag of a reference, a member or an attribute argument is the first member that the encoder
writes, so nothing the encoder writes has its content in front of its tag. It is no key of another
field either, which lets a member carry its tag among the fields of the declaration.

## Main results

* `TypeRef.isCodec`, `AttributeValue.isCodec`: the two recursive types.
* `Property.isContent`, `Field.isContent`, `Method.isContent`, `Member.isCodec`: members.
* `TypeDef.isCodec`, `Program.isCodec`: definitions and programs.
* `Compilation.ofText_render_encode`: a program that is handed over as text is compiled as it is.
* `model_roundTrips`: the round trip for each serialized type, at the limit for program documents.
-/

namespace Companion

open Json (Value)
open Json.Decode

/-! ### Type references -/

namespace TypeRef

/-- The encoder of a list of references, which is part of the recursion, encodes one by one. -/
theorem encodeAll_eq_map (ts : List TypeRef) : encodeAll ts = ts.map encode := by
  induction ts with
  | nil => rw [encodeAll, List.map_nil]
  | cons t ts ih => rw [encodeAll, ih, List.map_cons]

/-- A reference without arguments is written without a list of them. -/
theorem encode_named_nil (name : String) :
    encode (named name []) = .record [("kind", .text "named"), ("name", .text name)] := by
  rw [encode]

/-- A reference with arguments is written with the list of them. -/
theorem encode_named_cons (name : String) (t : TypeRef) (ts : List TypeRef) :
    encode (named name (t :: ts)) =
      .record [("kind", .text "named"), ("name", .text name),
        ("args", encodeList encode (t :: ts))] := by
  rw [encode, encodeAll_eq_map, encodeList]

/-- A tuple is written with the list of its elements. -/
theorem encode_tuple (elements : List TypeRef) :
    encode (tuple elements) =
      .record [("kind", .text "tuple"), ("elements", encodeList encode elements)] := by
  rw [encode, encodeAll_eq_map, encodeList]

/-- The decoder of a list of references, which is part of the recursion, is the one of lists. -/
theorem decodeStoredList_eq (room : Nat) :
    decodeStoredList room = list (decodeStored true) room := by
  funext v
  cases room <;> cases v <;> simp [decodeStoredList, list]

/-- A tag is read by its word, whether or not positions are read too. -/
@[simp]
theorem variant?_text (numbered : Bool) (s : String) :
    variant? numbered (.text s) = some s := by
  rw [Value.text, variant?]

/-- No document of a reference holds a large number or a lone surrogate. -/
theorem isPlain_encode : ∀ t : TypeRef, (encode t).IsPlain
  | named name [] => by
      rw [encode_named_nil]
      exact Value.isPlain_record (by simp)
  | named name (t :: ts) => by
      have hargs : (encodeList encode (t :: ts)).IsPlain :=
        isPlain_encodeList fun u _ => isPlain_encode u
      rw [encode_named_cons]
      exact Value.isPlain_record (by simp [hargs])
  | array element rank => by
      rw [encode]
      exact Value.isPlain_record (by simp [isPlain_encode element])
  | parameter name => by
      rw [encode]
      exact Value.isPlain_record (by simp)
  | tuple elements => by
      have helements : (encodeList encode elements).IsPlain :=
        isPlain_encodeList fun u _ => isPlain_encode u
      rw [encode_tuple]
      exact Value.isPlain_record (by simp [helements])

/-- A reference is decoded from its document, by the recursion of the encoder. -/
theorem decodeStored_encode : ∀ (t : TypeRef) (numbered : Bool) {room : Nat},
    (encode t).nesting ≤ room → decodeStored numbered room (encode t) = some t
  | named name [], numbered, room, hroom => by
      rw [encode_named_nil] at hroom ⊢
      obtain ⟨r, rfl, -⟩ := Value.exists_succ_of_nesting_record_le hroom
      simp [decodeStored]
  | named name (t :: ts), numbered, room, hroom => by
      rw [encode_named_cons] at hroom ⊢
      obtain ⟨r, rfl, hfit⟩ := Value.exists_succ_of_nesting_record_le hroom
      have hargs : list (decodeStored true) r (encodeList encode (t :: ts)) = some (t :: ts) :=
        list_encodeList (fun u _ _ => decodeStored_encode u true) (by simpa using hfit)
      simp [decodeStored, decodeStoredList_eq, hargs]
  | array element rank, numbered, room, hroom => by
      rw [encode] at hroom ⊢
      obtain ⟨r, rfl, hfit⟩ := Value.exists_succ_of_nesting_record_le hroom
      have helement : decodeStored true r (encode element) = some element :=
        decodeStored_encode element true (by simpa using hfit)
      simp [decodeStored, helement]
  | parameter name, numbered, room, hroom => by
      rw [encode] at hroom ⊢
      obtain ⟨r, rfl, -⟩ := Value.exists_succ_of_nesting_record_le hroom
      simp [decodeStored]
  | tuple elements, numbered, room, hroom => by
      rw [encode_tuple] at hroom ⊢
      obtain ⟨r, rfl, hfit⟩ := Value.exists_succ_of_nesting_record_le hroom
      have helements : list (decodeStored true) r (encodeList encode elements) = some elements :=
        list_encodeList (fun u _ _ => decodeStored_encode u true) (by simpa using hfit)
      simp [decodeStored, decodeStoredList_eq, helements]

/-- A decoded reference takes no more levels than there were. The room goes down by two for an item
of a list, so the induction is a strong one. -/
theorem nesting_le_of_decodeStored {room : Nat} :
    ∀ {numbered v t}, decodeStored numbered room v = some t → (encode t).nesting ≤ room := by
  induction room using Nat.strongRecOn with
  | ind room ih =>
      cases room with
      | zero =>
          intro numbered v t h
          simp [decodeStored] at h
      | succ room =>
          have hlist : ∀ {v ts}, list (decodeStored true) room v = some ts →
              (encodeList encode ts).nesting ≤ room :=
            nesting_le_of_list fun r hr v t => ih r (by omega)
          intro numbered v t h
          simp only [decodeStored, decodeStoredList_eq, Option.bind_eq_bind, Option.pure_def,
            Option.bind_eq_some_iff] at h
          obtain ⟨fs, -, kind, -, h⟩ := h
          split at h <;> simp only [Option.bind_eq_some_iff, Option.some.injEq, reduceCtorEq] at h
          · obtain ⟨name, -, args, hargs, rfl⟩ := h
            -- no arguments are not written out, so a missing list takes no room
            cases args with
            | nil =>
                rw [encode_named_nil, Value.nesting_record_le_succ]
                simp
            | cons t ts =>
                obtain hnil | ⟨v, hv⟩ := eq_or_exists_of_defaulted_eq_some hargs
                · cases hnil
                · rw [encode_named_cons, Value.nesting_record_le_succ]
                  simp [hlist hv]
          · obtain ⟨element, helement, rank, -, rfl⟩ := h
            obtain ⟨v, hv⟩ := exists_of_required_eq_some helement
            rw [encode, Value.nesting_record_le_succ]
            simp [ih room (Nat.lt_succ_self room) hv]
          · obtain ⟨name, -, rfl⟩ := h
            rw [encode, Value.nesting_record_le_succ]
            simp
          · obtain ⟨elements, helements, rfl⟩ := h
            obtain ⟨v, hv⟩ := exists_of_required_eq_some helements
            rw [encode_tuple, Value.nesting_record_le_succ]
            simp [hlist hv]

/-- References have a codec within stored trees. -/
theorem isCodec_decodeStored (numbered : Bool) : IsCodec 0 encode (decodeStored numbered) where
  isPlain := isPlain_encode
  ne_null t := by
    cases t with
    | named name args => cases args <;> simp [encode, Value.record]
    | _ => simp [encode, Value.record]
  decode_encode := decodeStored_encode _ numbered
  nesting_le _ := nesting_le_of_decodeStored

/-- **References have a codec**, in a stored tree and outside of one. -/
theorem isCodec (buffered : Bool) : IsCodec 0 encode (decode buffered) :=
  (isCodec_decodeStored buffered).storable

end TypeRef

/-- Type parameters have a codec, with two levels for constraints that are missing. -/
theorem TypeParameter.isCodec : IsCodec 2 encode decode :=
  .record (fun _ => rfl) {
    isPlain := fun p => by simp [(TypeRef.isCodec false).list.isPlain]
    decode_encode := fun {room p} hfit => by
      simp only [List.forall_mem_cons] at hfit
      simp [(TypeRef.isCodec false).list.decode_encode hfit.2.1]
    nesting_le := fun {room fs p} hleast h => by
      obtain ⟨name, -, h⟩ := Option.bind_eq_some_iff.mp h
      obtain ⟨constraints, hconstraints, h⟩ := Option.bind_eq_some_iff.mp h
      obtain ⟨isReferenceType, -, h⟩ := Option.bind_eq_some_iff.mp h
      obtain ⟨isValueType, -, h⟩ := Option.bind_eq_some_iff.mp h
      obtain ⟨hasConstructor, -, h⟩ := Option.bind_eq_some_iff.mp h
      cases h
      simp [(TypeRef.isCodec false).nesting_le_list hleast hconstraints] }

/-! ### Attributes -/

/-- Constants of enumerations have a codec. -/
theorem EnumConstant.isCodec : IsCodec 0 encode decode :=
  .record (fun _ => rfl) {
    isPlain := fun e => by simp
    decode_encode := fun {room e} _ => by simp
    nesting_le := fun {room fs e} _ _ => by simp }

namespace AttributeValue

/-- The encoder of a list of arguments, which is part of the recursion, encodes one by one. -/
theorem encodeAll_eq_map (as : List AttributeValue) : encodeAll as = as.map encode := by
  induction as with
  | nil => rw [encodeAll, List.map_nil]
  | cons a as ih => rw [encodeAll, ih, List.map_cons]

/-- An array of arguments is written with the list of them. -/
theorem encode_array (items : List AttributeValue) :
    encode (array items) =
      .record [("kind", .text "array"), ("value", encodeList encode items)] := by
  rw [encode, encodeAll_eq_map, encodeList]

/-- The decoder of a list of arguments, which is part of the recursion, is the one of lists. -/
theorem decodeList_eq (buffered : Bool) (room : Nat) :
    decodeList buffered room = list (decode buffered) room := by
  funext v
  cases room <;> cases v <;> simp [decodeList, list]

/-- The encoder writes the tag first. -/
@[simp]
theorem contentFirst_cons_kind (v : Value) (fs : Fields) :
    contentFirst (("kind", v) :: fs) = false := by
  simp [contentFirst]

/-- No document of an argument holds a large number or a lone surrogate. -/
theorem isPlain_encode : ∀ a : AttributeValue, (encode a).IsPlain
  | null | bool _ | int _ | string _ => by
      rw [encode]
      exact Value.isPlain_record (by simp)
  | type t => by
      rw [encode]
      exact Value.isPlain_record (by simp [t.isPlain_encode])
  | enum e => by
      rw [encode]
      exact Value.isPlain_record (by simp [EnumConstant.isCodec.isPlain])
  | array items => by
      have hitems : (encodeList encode items).IsPlain :=
        isPlain_encodeList fun a _ => isPlain_encode a
      rw [encode_array]
      exact Value.isPlain_record (by simp [hitems])

/-- An argument is decoded from its document, by the recursion of the encoder. -/
theorem decode_encode (buffered : Bool) : ∀ (a : AttributeValue) {room : Nat},
    (encode a).nesting ≤ room → decode buffered room (encode a) = some a
  | null, room, hroom | bool _, room, hroom | int _, room, hroom | string _, room, hroom => by
      rw [encode] at hroom ⊢
      obtain ⟨r, rfl, -⟩ := Value.exists_succ_of_nesting_record_le hroom
      simp [decode]
  | type t, room, hroom => by
      rw [encode] at hroom ⊢
      obtain ⟨r, rfl, hfit⟩ := Value.exists_succ_of_nesting_record_le hroom
      have ht : TypeRef.decode buffered r t.encode = some t :=
        (TypeRef.isCodec buffered).decode_encode (by simpa using hfit)
      simp [decode, ht]
  | enum e, room, hroom => by
      rw [encode] at hroom ⊢
      obtain ⟨r, rfl, hfit⟩ := Value.exists_succ_of_nesting_record_le hroom
      have he : EnumConstant.decode r e.encode = some e :=
        EnumConstant.isCodec.decode_encode (by simpa using hfit)
      simp [decode, he]
  | array items, room, hroom => by
      rw [encode_array] at hroom ⊢
      obtain ⟨r, rfl, hfit⟩ := Value.exists_succ_of_nesting_record_le hroom
      have hitems : list (decode buffered) r (encodeList encode items) = some items :=
        list_encodeList (fun a _ _ => decode_encode buffered a) (by simpa using hfit)
      simp [decode, decodeList_eq, hitems]

/-- A decoded argument takes no more levels than there were. -/
theorem nesting_le_of_decode {room : Nat} :
    ∀ {buffered v a}, decode buffered room v = some a → (encode a).nesting ≤ room := by
  induction room using Nat.strongRecOn with
  | ind room ih =>
      cases room with
      | zero =>
          intro buffered v a h
          simp [decode] at h
      | succ room =>
          intro buffered v a h
          simp only [decode, decodeList_eq, Option.bind_eq_bind, Option.pure_def,
            Option.bind_eq_some_iff, Option.ite_none_left_eq_some] at h
          obtain ⟨fs, -, kind, -, content, -, -, h⟩ := h
          split at h <;> simp only [Option.bind_eq_some_iff, Option.some.injEq, reduceCtorEq] at h
          case h_1 | h_2 =>
            subst h
            rw [encode, Value.nesting_record_le_succ]
            simp
          case h_3 | h_4 | h_5 =>
            obtain ⟨_, -, rfl⟩ := h
            rw [encode, Value.nesting_record_le_succ]
            simp
          case h_6 =>
            obtain ⟨t, ht, rfl⟩ := h
            have hnesting := (TypeRef.isCodec _).nesting_le (Nat.zero_le room) ht
            rw [encode, Value.nesting_record_le_succ]
            simp [hnesting]
          case h_7 =>
            obtain ⟨e, he, rfl⟩ := h
            have hnesting := EnumConstant.isCodec.nesting_le (Nat.zero_le room) he
            rw [encode, Value.nesting_record_le_succ]
            simp [hnesting]
          case h_8 =>
            obtain ⟨items, hitems, rfl⟩ := h
            have hnesting : (encodeList encode items).nesting ≤ room :=
              nesting_le_of_list (fun r hr v a => ih r (by omega)) hitems
            rw [encode_array, Value.nesting_record_le_succ]
            simp [hnesting]

/-- **Attribute arguments have a codec**, in a stored tree and outside of one. -/
theorem isCodec (buffered : Bool) : IsCodec 0 encode (decode buffered) where
  isPlain := isPlain_encode
  ne_null a := by cases a <;> simp [encode, Value.record]
  decode_encode := decode_encode buffered _
  nesting_le _ := nesting_le_of_decode

end AttributeValue

/-- Named arguments have a codec. -/
theorem NamedArgument.isCodec (buffered : Bool) : IsCodec 0 encode (decode buffered) :=
  .record (fun _ => rfl) {
    isPlain := fun a => by simp [(AttributeValue.isCodec buffered).isPlain]
    decode_encode := fun {room a} hfit => by
      simp only [List.forall_mem_cons] at hfit
      simp [(AttributeValue.isCodec buffered).decode_encode hfit.2.1]
    nesting_le := fun {room fs a} hleast h => by
      obtain ⟨name, -, h⟩ := Option.bind_eq_some_iff.mp h
      obtain ⟨value, hvalue, h⟩ := Option.bind_eq_some_iff.mp h
      cases h
      simp [(AttributeValue.isCodec buffered).nesting_le_required hleast hvalue] }

/-- Attributes have a codec, with two levels for lists of arguments that are missing. -/
theorem Attribute.isCodec (buffered : Bool) : IsCodec 2 encode (decode buffered) :=
  .record (fun _ => rfl) {
    isPlain := fun a => by
      simp [(AttributeValue.isCodec buffered).list.isPlain,
        (NamedArgument.isCodec buffered).list.isPlain]
    decode_encode := fun {room a} hfit => by
      simp only [List.forall_mem_cons] at hfit
      obtain ⟨-, harguments, hnamedArguments, -⟩ := hfit
      simp [(AttributeValue.isCodec buffered).list.decode_encode harguments,
        (NamedArgument.isCodec buffered).list.decode_encode hnamedArguments]
    nesting_le := fun {room fs a} hleast h => by
      obtain ⟨className, -, h⟩ := Option.bind_eq_some_iff.mp h
      obtain ⟨arguments, harguments, h⟩ := Option.bind_eq_some_iff.mp h
      obtain ⟨namedArguments, hnamedArguments, h⟩ := Option.bind_eq_some_iff.mp h
      cases h
      simp [(AttributeValue.isCodec buffered).nesting_le_list (by omega) harguments,
        (NamedArgument.isCodec buffered).nesting_le_list (by omega) hnamedArguments] }

/-! ### Members -/

namespace Accessibility

@[simp]
theorem nesting_encode (a : Accessibility) : (encode a).nesting = 0 := nesting_encodeWord words a

/-- Accessibilities have a codec, in a stored tree and outside of one. -/
theorem isCodec (buffered : Bool) : IsCodec 0 encode (decodeIn buffered) :=
  .word buffered fun a => by cases a <;> exact ⟨_, rfl, rfl⟩

/-- An accessibility is decoded from its word, with whatever room there is. -/
@[simp]
theorem decodeIn_encode (buffered : Bool) (room : Nat) (a : Accessibility) :
    decodeIn buffered room (encode a) = some a :=
  (isCodec buffered).decode_encode (by simp)

end Accessibility

/-- Locations have a codec. -/
theorem Location.isCodec : IsCodec 0 encode decode :=
  .record (fun _ => rfl) {
    isPlain := fun l => by simp
    decode_encode := fun {room l} _ => by simp
    nesting_le := fun {room fs l} _ _ => by simp }

/-- The fields of a property, with the levels of attributes that are missing. -/
theorem Property.isContent : IsContent 3 encodeFields decodeFields where
  isPlain p := by
    simp [encodeFields, (Accessibility.isCodec true).isPlain, (TypeRef.isCodec true).isPlain,
      (Accessibility.isCodec true).isPlain_option, (Attribute.isCodec true).list.isPlain,
      Location.isCodec.isPlain_option]
  decode_encode {room p} hfit := by
    simp only [encodeFields, List.forall_mem_cons] at hfit
    obtain ⟨-, htype, -, hgetter, -, -, -, -, -, -, hattributes, hlocation, -⟩ := hfit
    simp [encodeFields, decodeFields, (TypeRef.isCodec true).decode_encode htype,
      (Accessibility.isCodec true).optional_cons_self _ hgetter,
      (Attribute.isCodec true).list.decode_encode hattributes,
      Location.isCodec.optional_cons_self _ hlocation]
  nesting_le {room fs p} hleast h := by
    obtain ⟨name, -, h⟩ := Option.bind_eq_some_iff.mp h
    obtain ⟨type, htype, h⟩ := Option.bind_eq_some_iff.mp h
    obtain ⟨accessibility, -, h⟩ := Option.bind_eq_some_iff.mp h
    obtain ⟨getter, hgetter, h⟩ := Option.bind_eq_some_iff.mp h
    obtain ⟨hasSetter, -, h⟩ := Option.bind_eq_some_iff.mp h
    obtain ⟨isWriteOnly, -, h⟩ := Option.bind_eq_some_iff.mp h
    obtain ⟨isStatic, -, h⟩ := Option.bind_eq_some_iff.mp h
    obtain ⟨isAuto, -, h⟩ := Option.bind_eq_some_iff.mp h
    obtain ⟨isIndexer, -, h⟩ := Option.bind_eq_some_iff.mp h
    obtain ⟨isImplicit, -, h⟩ := Option.bind_eq_some_iff.mp h
    obtain ⟨attributes, hattributes, h⟩ := Option.bind_eq_some_iff.mp h
    obtain ⟨location, hlocation, h⟩ := Option.bind_eq_some_iff.mp h
    cases h
    simp [encodeFields, (TypeRef.isCodec true).nesting_le_required (Nat.zero_le room) htype,
      (Accessibility.isCodec true).nesting_le_optional (Nat.zero_le room) hgetter,
      (Attribute.isCodec true).nesting_le_list hleast hattributes,
      Location.isCodec.nesting_le_optional (Nat.zero_le room) hlocation]

/-- The fields of a field declaration, with the levels of attributes that are missing. -/
theorem Field.isContent : IsContent 3 encodeFields decodeFields where
  isPlain f := by
    simp [encodeFields, (Accessibility.isCodec true).isPlain, (TypeRef.isCodec true).isPlain,
      (Attribute.isCodec true).list.isPlain, Location.isCodec.isPlain_option]
  decode_encode {room f} hfit := by
    simp only [encodeFields, List.forall_mem_cons] at hfit
    obtain ⟨-, htype, -, -, -, -, hattributes, hlocation, -⟩ := hfit
    simp [encodeFields, decodeFields, (TypeRef.isCodec true).decode_encode htype,
      (Attribute.isCodec true).list.decode_encode hattributes,
      Location.isCodec.optional_cons_self _ hlocation]
  nesting_le {room fs f} hleast h := by
    obtain ⟨name, -, h⟩ := Option.bind_eq_some_iff.mp h
    obtain ⟨type, htype, h⟩ := Option.bind_eq_some_iff.mp h
    obtain ⟨accessibility, -, h⟩ := Option.bind_eq_some_iff.mp h
    obtain ⟨isStatic, -, h⟩ := Option.bind_eq_some_iff.mp h
    obtain ⟨isReadonly, -, h⟩ := Option.bind_eq_some_iff.mp h
    obtain ⟨isImplicit, -, h⟩ := Option.bind_eq_some_iff.mp h
    obtain ⟨attributes, hattributes, h⟩ := Option.bind_eq_some_iff.mp h
    obtain ⟨location, hlocation, h⟩ := Option.bind_eq_some_iff.mp h
    cases h
    simp [encodeFields, (TypeRef.isCodec true).nesting_le_required (Nat.zero_le room) htype,
      (Attribute.isCodec true).nesting_le_list hleast hattributes,
      Location.isCodec.nesting_le_optional (Nat.zero_le room) hlocation]

/-- Parameters have a codec. -/
theorem Parameter.isCodec (buffered : Bool) : IsCodec 0 encode (decode buffered) :=
  .record (fun _ => rfl) {
    isPlain := fun p => by simp [(TypeRef.isCodec buffered).isPlain]
    decode_encode := fun {room p} hfit => by
      simp only [List.forall_mem_cons] at hfit
      simp [(TypeRef.isCodec buffered).decode_encode hfit.2.1]
    nesting_le := fun {room fs p} hleast h => by
      obtain ⟨name, -, h⟩ := Option.bind_eq_some_iff.mp h
      obtain ⟨type, htype, h⟩ := Option.bind_eq_some_iff.mp h
      obtain ⟨defaultValue, -, h⟩ := Option.bind_eq_some_iff.mp h
      cases h
      simp [(TypeRef.isCodec buffered).nesting_le_required hleast htype] }

/-- The fields of a method, with the levels of lists and of a return type that are missing. -/
theorem Method.isContent (buffered : Bool) :
    IsContent 3 encodeFields (decodeFields buffered) where
  isPlain m := by
    simp [encodeFields, (Accessibility.isCodec buffered).isPlain,
      (TypeRef.isCodec buffered).isPlain, (TypeRef.isCodec buffered).isPlain_option,
      (Parameter.isCodec buffered).list.isPlain,
      (Attribute.isCodec buffered).list.isPlain, Location.isCodec.isPlain_option]
  decode_encode {room m} hfit := by
    simp only [encodeFields, List.forall_mem_cons] at hfit
    obtain ⟨-, hreturnType, hparameters, -, -, -, -, -, -, hinterface, hattributes, hlocation,
      -⟩ := hfit
    simp [encodeFields, decodeFields, (TypeRef.isCodec buffered).decode_encode hreturnType,
      (Parameter.isCodec buffered).list.decode_encode hparameters,
      (TypeRef.isCodec buffered).optional_cons_self _ hinterface,
      (Attribute.isCodec buffered).list.decode_encode hattributes,
      Location.isCodec.optional_cons_self _ hlocation]
  nesting_le {room fs m} hleast h := by
    obtain ⟨name, -, h⟩ := Option.bind_eq_some_iff.mp h
    obtain ⟨returnType, hreturnType, h⟩ := Option.bind_eq_some_iff.mp h
    obtain ⟨parameters, hparameters, h⟩ := Option.bind_eq_some_iff.mp h
    obtain ⟨accessibility, -, h⟩ := Option.bind_eq_some_iff.mp h
    obtain ⟨isStatic, -, h⟩ := Option.bind_eq_some_iff.mp h
    obtain ⟨isOverride, -, h⟩ := Option.bind_eq_some_iff.mp h
    obtain ⟨isVirtual, -, h⟩ := Option.bind_eq_some_iff.mp h
    obtain ⟨isAbstract, -, h⟩ := Option.bind_eq_some_iff.mp h
    obtain ⟨isSealed, -, h⟩ := Option.bind_eq_some_iff.mp h
    obtain ⟨interface, hinterface, h⟩ := Option.bind_eq_some_iff.mp h
    obtain ⟨attributes, hattributes, h⟩ := Option.bind_eq_some_iff.mp h
    obtain ⟨location, hlocation, h⟩ := Option.bind_eq_some_iff.mp h
    cases h
    have hvoid : (TypeRef.named "System.Void" []).encode.nesting ≤ room := by
      obtain ⟨r, rfl⟩ : ∃ r, room = r + 1 := ⟨room - 1, by omega⟩
      rw [TypeRef.encode_named_nil, Value.nesting_record_le_succ]
      simp
    simp [encodeFields,
      (TypeRef.isCodec buffered).nesting_le_defaulted (Nat.zero_le room) hvoid hreturnType,
      (Parameter.isCodec buffered).nesting_le_list (by omega) hparameters,
      (TypeRef.isCodec buffered).nesting_le_optional (Nat.zero_le room) hinterface,
      (Attribute.isCodec buffered).nesting_le_list hleast hattributes,
      Location.isCodec.nesting_le_optional (Nat.zero_le room) hlocation]

/-- The tag of a member is no field of the declaration it announces. -/
theorem Property.decodeFields_cons_member (room : Nat) (v : Value) (fs : Fields) :
    decodeFields room (("member", v) :: fs) = decodeFields room fs := by
  simp only [decodeFields, required_cons_of_ne, defaulted_cons_of_ne, optional_cons_of_ne, ne_eq,
    String.reduceEq, not_false_eq_true]

/-- The tag of a member is no field of a field declaration. -/
theorem Field.decodeFields_cons_member (room : Nat) (v : Value) (fs : Fields) :
    decodeFields room (("member", v) :: fs) = decodeFields room fs := by
  simp only [decodeFields, required_cons_of_ne, defaulted_cons_of_ne, optional_cons_of_ne, ne_eq,
    String.reduceEq, not_false_eq_true]

/-- The tag of a member is no field of a method. -/
theorem Method.decodeFields_cons_member (buffered : Bool) (room : Nat) (v : Value) (fs : Fields) :
    decodeFields buffered room (("member", v) :: fs) = decodeFields buffered room fs := by
  simp only [decodeFields, required_cons_of_ne, defaulted_cons_of_ne, optional_cons_of_ne, ne_eq,
    String.reduceEq, not_false_eq_true]

namespace Member

/-- The fields of a member, its tag in front. -/
def encodeFields : Member → Fields
  | property p => ("member", .text "property") :: p.encodeFields
  | field f => ("member", .text "field") :: f.encodeFields
  | method m => ("member", .text "method") :: m.encodeFields

/-- What `Member.decode` makes of the fields of an object. -/
def decodeFields (room : Nat) (fs : Fields) : Option Member := do
  match ← required fs "member" text with
  | "property" => return property (← Property.decodeFields room fs)
  | "field" => return field (← Field.decodeFields room fs)
  | "method" => return method (← Method.decodeFields true room fs)
  | _ => none

/-- The fields of a member are its tag and those of the declaration. -/
theorem isContent : IsContent 3 encodeFields decodeFields where
  isPlain m := by
    cases m with
    | property p => simpa [encodeFields] using Property.isContent.isPlain p
    | field f => simpa [encodeFields] using Field.isContent.isPlain f
    | method m => simpa [encodeFields] using (Method.isContent true).isPlain m
  decode_encode {room m} hfit := by
    cases m with
    | property p =>
        have htag : "member" ∉ p.encodeFields.map (·.1) := by simp [Property.encodeFields]
        have hp := Property.isContent.decode_encode (List.forall_mem_cons.mp hfit).2
        simp [encodeFields, decodeFields, required_cons_self htag,
          Property.decodeFields_cons_member, hp]
    | field f =>
        have htag : "member" ∉ f.encodeFields.map (·.1) := by simp [Field.encodeFields]
        have hf := Field.isContent.decode_encode (List.forall_mem_cons.mp hfit).2
        simp [encodeFields, decodeFields, required_cons_self htag,
          Field.decodeFields_cons_member, hf]
    | method m =>
        have htag : "member" ∉ m.encodeFields.map (·.1) := by simp [Method.encodeFields]
        have hm := (Method.isContent true).decode_encode (List.forall_mem_cons.mp hfit).2
        simp [encodeFields, decodeFields, required_cons_self htag,
          Method.decodeFields_cons_member, hm]
  nesting_le {room fs m} hleast h := by
    obtain ⟨tag, -, h⟩ := Option.bind_eq_some_iff.mp h
    split at h
    · obtain ⟨p, hp, h⟩ := Option.bind_eq_some_iff.mp h
      cases h
      simpa [encodeFields] using Property.isContent.nesting_le hleast hp
    · obtain ⟨f, hf, h⟩ := Option.bind_eq_some_iff.mp h
      cases h
      simpa [encodeFields] using Field.isContent.nesting_le hleast hf
    · obtain ⟨m, hm, h⟩ := Option.bind_eq_some_iff.mp h
      cases h
      simpa [encodeFields] using (Method.isContent true).nesting_le hleast hm
    · cases h

/-- **Members have a codec**, being stored before they are decoded. -/
theorem isCodec : IsCodec 4 encode decode :=
  (IsCodec.record (fun m => by cases m <;> rfl) isContent).storable

end Member

/-! ### Definitions and programs -/

namespace TypeKind

@[simp]
theorem nesting_encode (k : TypeKind) : (encode k).nesting = 0 := nesting_encodeWord words k

/-- Kinds of types have a codec. -/
theorem isCodec : IsCodec 0 encode decode :=
  .word false fun k => by cases k <;> exact ⟨_, rfl, rfl⟩

/-- A kind of type is decoded from its word, with whatever room there is. -/
@[simp]
theorem decode_encode (room : Nat) (k : TypeKind) : decode room (encode k) = some k :=
  isCodec.decode_encode (by simp)

end TypeKind

namespace Origin

@[simp]
theorem nesting_encode (o : Origin) : (encode o).nesting = 0 := nesting_encodeWord words o

/-- Origins have a codec. -/
theorem isCodec : IsCodec 0 encode decode :=
  .word false fun o => by cases o <;> exact ⟨_, rfl, rfl⟩

/-- An origin is decoded from its word, with whatever room there is. -/
@[simp]
theorem decode_encode (room : Nat) (o : Origin) : decode room (encode o) = some o :=
  isCodec.decode_encode (by simp)

end Origin

/-- Special types have a codec. -/
theorem SpecialType.isCodec : IsCodec 0 encode decode :=
  .word false fun s => by cases s <;> exact ⟨_, rfl, rfl⟩

/-- **Definitions have a codec**, with the levels of members that are missing. -/
theorem TypeDef.isCodec : IsCodec 6 encode decode :=
  .record (fun _ => rfl) {
    isPlain := fun d => by
      simp [TypeParameter.isCodec.list.isPlain, TypeKind.isCodec.isPlain,
        (Accessibility.isCodec false).isPlain, Origin.isCodec.isPlain,
        SpecialType.isCodec.isPlain_option, (TypeRef.isCodec false).isPlain_option,
        (TypeRef.isCodec false).list.isPlain,
        (Attribute.isCodec false).list.isPlain, Member.isCodec.list.isPlain,
        Location.isCodec.isPlain_option]
    decode_encode := fun {room d} hfit => by
      simp only [List.forall_mem_cons] at hfit
      obtain ⟨-, -, htypeParameters, -, -, -, -, -, -, -, hspecial, hbaseType, hinterfaces,
        hattributes, hmembers, hlocation, -⟩ := hfit
      simp [TypeParameter.isCodec.list.decode_encode htypeParameters,
        SpecialType.isCodec.optional_cons_self _ hspecial,
        (TypeRef.isCodec false).optional_cons_self _ hbaseType,
        (TypeRef.isCodec false).list.decode_encode hinterfaces,
        (Attribute.isCodec false).list.decode_encode hattributes,
        Member.isCodec.list.decode_encode hmembers,
        Location.isCodec.optional_cons_self _ hlocation]
    nesting_le := fun {room fs d} hleast h => by
      obtain ⟨ns, -, h⟩ := Option.bind_eq_some_iff.mp h
      obtain ⟨name, -, h⟩ := Option.bind_eq_some_iff.mp h
      obtain ⟨typeParameters, htypeParameters, h⟩ := Option.bind_eq_some_iff.mp h
      obtain ⟨kind, -, h⟩ := Option.bind_eq_some_iff.mp h
      obtain ⟨accessibility, -, h⟩ := Option.bind_eq_some_iff.mp h
      obtain ⟨isAbstract, -, h⟩ := Option.bind_eq_some_iff.mp h
      obtain ⟨isStatic, -, h⟩ := Option.bind_eq_some_iff.mp h
      obtain ⟨isSealed, -, h⟩ := Option.bind_eq_some_iff.mp h
      obtain ⟨isPartial, -, h⟩ := Option.bind_eq_some_iff.mp h
      obtain ⟨origin, -, h⟩ := Option.bind_eq_some_iff.mp h
      obtain ⟨special, hspecial, h⟩ := Option.bind_eq_some_iff.mp h
      obtain ⟨baseType, hbaseType, h⟩ := Option.bind_eq_some_iff.mp h
      obtain ⟨interfaces, hinterfaces, h⟩ := Option.bind_eq_some_iff.mp h
      obtain ⟨attributes, hattributes, h⟩ := Option.bind_eq_some_iff.mp h
      obtain ⟨members, hmembers, h⟩ := Option.bind_eq_some_iff.mp h
      obtain ⟨location, hlocation, h⟩ := Option.bind_eq_some_iff.mp h
      cases h
      simp [TypeParameter.isCodec.nesting_le_list (by omega) htypeParameters,
        SpecialType.isCodec.nesting_le_optional (Nat.zero_le room) hspecial,
        (TypeRef.isCodec false).nesting_le_optional (Nat.zero_le room) hbaseType,
        (TypeRef.isCodec false).nesting_le_list (by omega) hinterfaces,
        (Attribute.isCodec false).nesting_le_list (by omega) hattributes,
        Member.isCodec.nesting_le_list hleast hmembers,
        Location.isCodec.nesting_le_optional (Nat.zero_le room) hlocation] }

/-- Assemblies have a codec, with the levels of attributes that are missing. -/
theorem Assembly.isCodec : IsCodec 4 encode decode :=
  .record (fun _ => rfl) {
    isPlain := fun a => by simp [(Attribute.isCodec false).list.isPlain]
    decode_encode := fun {room a} hfit => by
      simp only [List.forall_mem_cons] at hfit
      simp [(Attribute.isCodec false).list.decode_encode hfit.2.1]
    nesting_le := fun {room fs a} hleast h => by
      obtain ⟨name, -, h⟩ := Option.bind_eq_some_iff.mp h
      obtain ⟨attributes, hattributes, h⟩ := Option.bind_eq_some_iff.mp h
      cases h
      simp [(Attribute.isCodec false).nesting_le_list hleast hattributes] }

/-- **Programs have a codec**, with the levels of definitions that are missing. -/
theorem Program.isCodec : IsCodec 8 encode decode :=
  .record (fun _ => rfl) {
    isPlain := fun p => by simp [Assembly.isCodec.isPlain, TypeDef.isCodec.list.isPlain]
    decode_encode := fun {room p} hfit => by
      simp only [List.forall_mem_cons] at hfit
      simp [Assembly.isCodec.decode_encode hfit.1, TypeDef.isCodec.list.decode_encode hfit.2.1]
    nesting_le := fun {room fs p} hleast h => by
      obtain ⟨assembly, hassembly, h⟩ := Option.bind_eq_some_iff.mp h
      obtain ⟨types, htypes, h⟩ := Option.bind_eq_some_iff.mp h
      obtain ⟨includesCoreLibrary, -, h⟩ := Option.bind_eq_some_iff.mp h
      cases h
      have hdefault : (Assembly.encode {}).nesting ≤ room := by
        obtain ⟨r, rfl⟩ : ∃ r, room = r + 2 := ⟨room - 2, by omega⟩
        rw [Assembly.encode, Value.nesting_record_le_succ]
        simp [nesting_encodeList_le]
      simp [Assembly.isCodec.nesting_le_defaulted (by omega) hdefault hassembly,
        TypeDef.isCodec.nesting_le_list hleast htypes] }

/-- A program that is handed over as text is compiled as it is. -/
theorem Compilation.ofText_render_encode {p : Program} (hp : p.encode.nesting ≤ Program.nesting) :
    ofText p.encode.render = ofProgram p := by
  rw [ofText, Json.parse_render]
  simp only [ofDocument, Program.isCodec.decode_encode hp]

/-- **Every serialized type of the model round-trips**: the text of a value is read back as the
value exactly when its document nests within the limit, and whatever value a text is read as is read
back from its own text. -/
theorem model_roundTrips :
    RoundTrips TypeRef.encode (TypeRef.decode false) ∧
      RoundTrips AttributeValue.encode (AttributeValue.decode false) ∧
      RoundTrips Attribute.encode (Attribute.decode false) ∧
      RoundTrips TypeParameter.encode TypeParameter.decode ∧
      RoundTrips Location.encode Location.decode ∧
      RoundTrips Member.encode Member.decode ∧
      RoundTrips TypeDef.encode TypeDef.decode ∧
      RoundTrips Program.encode Program.decode :=
  ⟨(TypeRef.isCodec false).roundTrips (by decide),
    (AttributeValue.isCodec false).roundTrips (by decide),
    (Attribute.isCodec false).roundTrips (by decide),
    TypeParameter.isCodec.roundTrips (by decide),
    Location.isCodec.roundTrips (by decide),
    Member.isCodec.roundTrips (by decide),
    TypeDef.isCodec.roundTrips (by decide),
    Program.isCodec.roundTrips (by decide)⟩

end Companion
