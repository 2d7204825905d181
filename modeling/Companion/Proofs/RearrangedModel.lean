import Companion.Proofs.ModelCodec
import Companion.Proofs.Rearrangement

/-!
# Rearranged Programs

Each decoder of the model agrees with itself on a document and whatever that is rearranged to. For
most types this is a walk along the fields. References and arguments are trees, and are compared by
induction on the room; they are compared within stored trees and elsewhere at once, as moving a
content behind its tag takes what it holds out of a stored tree. A declaration is read from the
stored fields of a member, its tag being no key of another field.

A return type and an assembly have an object as their default, and the document of one may be
decoded with one room in the first document and with another one in the second. Both defaults are
the same in every room, since all that takes room in them is an empty list.

## Main results

* `TypeRef.alike`, `AttributeValue.alike`: the two recursive types.
* `Method.alike`, `Member.alike`, `TypeDef.alike`, `Program.alike`: declarations and programs.
* `model_keepsValues`: a rearranged document of any serialized type is decoded to the same value if
  it is readable, and else refused.
* `reordered_or_extended_refused`: an order and an unknown member that are refused.
-/

namespace Companion

open Json (Value)
open Json.Decode

/-- A list that is decoded to the empty one is decoded to no other one, with whatever room. -/
theorem list_eq_nil {α : Type} {item item' : Nat → Value → Option α} {room room' : Nat} {v : Value}
    {xs : List α} (h : list item room v = some []) (hxs : list item' room' v = some xs) :
    xs = [] := by
  cases room with
  | zero => cases h
  | succ r =>
      cases room' with
      | zero => cases hxs
      | succ r' =>
          cases v with
          | array vs =>
              cases vs with
              | nil => exact (Option.some.inj hxs).symm
              | cons u vs => simp [list, List.mapM_cons, Option.bind_eq_some_iff] at h
          | _ => cases h

/-- A list that is missing or empty stays so, with whatever room it is decoded. -/
theorem defaulted_list_eq_nil {α : Type} {item item' : Nat → Value → Option α} {room room' : Nat}
    {fs : Fields} {key : String} {xs : List α}
    (h : defaulted fs key [] (list item room) = some [])
    (hxs : defaulted fs key [] (list item' room') = some xs) : xs = [] := by
  simp only [defaulted, Option.bind_eq_bind, Option.bind_eq_some_iff] at h hxs
  obtain ⟨o, ho, h⟩ := h
  obtain ⟨o', ho', hxs⟩ := hxs
  obtain rfl : o = o' := Option.some.inj (ho.symm.trans ho')
  cases o with
  | none => exact (Option.some.inj hxs).symm
  | some v => exact list_eq_nil h hxs

/-! ### Type references -/

namespace TypeRef

/-- A tag that is taken for a variant is taken for it, or for none, wherever else it stands. -/
theorem agrees_variant? (numbered numbered' : Bool) (tag : Value) :
    Agrees (numbered' = false → ∃ s, tag = .text s) (variant? numbered tag)
      (variant? numbered' tag) := by
  intro s hs
  cases tag with
  | string s? =>
      cases s? with
      | none => simp [variant?] at hs
      | some t => exact ⟨fun _ => by simpa [variant?] using hs, fun _ _ _ => ⟨t, rfl⟩⟩
  | number n =>
      cases numbered with
      | false => simp [variant?] at hs
      | true =>
          cases numbered' with
          | false => exact ⟨fun h => by simpa [Value.text] using h rfl, by simp [variant?]⟩
          | true => exact ⟨fun _ => hs, by simp⟩
  | _ => simp [variant?] at hs

/-- What `decodeStored` makes of the fields of an object under a variant. -/
def decodeVariant (room : Nat) (fs : Fields) : String → Option TypeRef
  | "named" => do
    return named (← required fs "name" text)
      (← defaulted fs "args" [] (list (decodeStored true) room))
  | "array" => do
    return array (← required fs "element" (decodeStored true room))
      (← defaulted fs "rank" 1 uint8)
  | "parameter" => do return parameter (← required fs "name" text)
  | "tuple" => do return tuple (← required fs "elements" (list (decodeStored true) room))
  | _ => none

/-- A reference within a stored tree is an object whose tag comes first. -/
theorem decodeStored_eq (numbered : Bool) (room : Nat) :
    decodeStored numbered room =
      record fieldNames
        (fun r fs => (required fs "kind" (variant? numbered)).bind (decodeVariant r fs)) room := by
  funext v
  cases room with
  | zero => rw [decodeStored, record]
  | succ room =>
      simp only [decodeStored, decodeStoredList_eq, record, Option.bind_eq_bind]
      refine congrArg _ (funext fun fs => congrArg _ (funext fun tag => ?_))
      unfold decodeVariant
      split <;> simp_all

/-- A tag that is read by its word is read as the same one where positions are read too. -/
theorem required_numbered {fs : Fields} {numbered : Bool} {tag : String}
    (h : required fs "kind" (variant? numbered) = some tag) :
    required fs "kind" (variant? true) = some tag := by
  simp only [required, Option.bind_eq_bind, Option.bind_eq_some_iff] at h ⊢
  obtain ⟨o, ho, htag⟩ := h
  refine ⟨o, ho, ?_⟩
  cases o with
  | none => cases htag
  | some v => exact ((agrees_variant? numbered true v) tag htag).1 (by simp)

/-- The fields of two objects under one variant, within stored trees. -/
theorem agrees_decodeVariant {room : Nat} {fs gs : Fields} {tag : String}
    (hdecode : ∀ r v w, r ≤ room → Rearranged (.object .reference) v w →
      Agrees True (decodeStored true r v) (decodeStored true r w))
    (h : ∀ m ∈ ObjectKind.variantMembers (some tag), MemberFollows fs gs m) :
    Agrees True (decodeVariant room fs tag) (decodeVariant room gs tag) := by
  have hlist : ∀ v w, Rearranged (.list (.object .reference)) v w →
      Agrees True (list (decodeStored true) room v) (list (decodeStored true) room w) := by
    intro v w hvw
    refine (agrees_list (p := fun _ _ => True) (fun r v w hr => ?_) v w hvw).congr (by simp)
    exact hdecode r v w (by omega)
  have hfields : Agrees (∀ m ∈ ObjectKind.variantMembers (some tag),
      MemberIs (fun _ _ => True) gs m) (decodeVariant room fs tag) (decodeVariant room gs tag) := by
    unfold decodeVariant
    split
    · simp only [ObjectKind.variantMembers, List.forall_mem_cons] at h
      obtain ⟨hname, hargs, -⟩ := h
      exact .field (hname.plainRequired fun _ => trivial) fun name =>
        .field (hargs.list hlist) fun args => .done _
    · simp only [ObjectKind.variantMembers, List.forall_mem_cons] at h
      obtain ⟨helement, hrank, -⟩ := h
      exact .field (helement.required (hdecode room · · (Nat.le_refl room))) fun element =>
        .field (hrank.plainDefaulted fun _ => trivial) fun rank => .done _
    · simp only [ObjectKind.variantMembers, List.forall_mem_cons] at h
      obtain ⟨hname, -⟩ := h
      exact .field (hname.plainRequired fun _ => trivial) fun name => .done _
    · simp only [ObjectKind.variantMembers, List.forall_mem_cons] at h
      obtain ⟨helements, -⟩ := h
      exact .field (helements.required hlist) fun elements => .done _
    · exact .none
  exact hfields.congr (by simp [MemberIs])

/-- Of two references within stored trees, the second one is decoded as the first unless its tag is
a position where none is read. The room goes down by two for an item of a list, so the induction is
a strong one. -/
theorem agrees_decodeStored {room : Nat} :
    ∀ {numbered numbered' v w}, Rearranged (.object .reference) v w →
      Agrees (numbered' = false → HasWordTag w) (decodeStored numbered room v)
        (decodeStored numbered' room w) := by
  induction room using Nat.strongRecOn with
  | ind room ih =>
      intro numbered numbered' v w h
      rw [decodeStored_eq, decodeStored_eq]
      refine h.agrees_record rfl fun r fs gs hr hgs hmembers => ?_
      have htag : Agrees (MemberIs (fun _ tag => numbered' = false → ∃ s, tag = .text s) gs
            (.required "kind"))
          (required fs "kind" (variant? numbered)) (required gs "kind" (variant? numbered')) :=
        (hmembers _ List.mem_cons_self).required fun u u' hu => by
          obtain rfl := hu.eq_of_plain
          exact agrees_variant? numbered numbered' _
      have hvariant : ∀ tag, required fs "kind" (variant? numbered) = some tag →
          Agrees True (decodeVariant r fs tag) (decodeVariant r gs tag) := by
        intro tag htag
        refine agrees_decodeVariant (fun r' v w hr' hvw => ?_) fun m hm => hmembers m ?_
        · exact (ih r' (by omega) hvw).congr (by simp)
        · rw [ObjectKind.known, required_numbered htag]
          exact List.mem_cons_of_mem _ hm
      refine (htag.bind fun tag htag _ => hvariant tag htag).congr ?_
      simp only [and_true, HasWordTag, hgs, Option.some.injEq]
      exact ⟨fun hword hnumbered fs tag hfs hkind => hword tag (hfs ▸ hkind) hnumbered,
        fun hword tag hkind hnumbered => hword hnumbered gs tag rfl hkind⟩

/-- **References**, within stored trees and elsewhere. -/
theorem alike (buffered buffered' : Bool) :
    Alike buffered' (.object .reference) (decode buffered) (decode buffered') := by
  intro room v w h t ht
  obtain ⟨-, ht⟩ := Option.ite_none_right_eq_some.1 ht
  obtain ⟨hsame, hneeds⟩ := agrees_decodeStored h t ht
  rw [readable_reference, decode]
  constructor
  · rintro ⟨hstorable, hword⟩
    rw [if_pos hstorable, hsame hword]
  · intro u hu
    obtain ⟨hstorable, hu⟩ := Option.ite_none_right_eq_some.1 hu
    exact ⟨hstorable, hneeds u hu⟩

/-- A reference without arguments is the same wherever it is decoded. -/
theorem eq_of_decode_eq_named {buffered buffered' : Bool} {room room' : Nat} {v : Value}
    {name : String} {t : TypeRef} (h : decode buffered room v = some (named name []))
    (ht : decode buffered' room' v = some t) : t = named name [] := by
  obtain ⟨-, h⟩ := Option.ite_none_right_eq_some.1 h
  obtain ⟨-, ht⟩ := Option.ite_none_right_eq_some.1 ht
  rw [decodeStored_eq, record_eq_some] at h ht
  obtain ⟨r, fs, -, hfs, h⟩ := h
  obtain ⟨r', fs', -, hfs', ht⟩ := ht
  obtain rfl : fs = fs' := Option.some.inj (hfs.symm.trans hfs')
  obtain ⟨tag, htag, h⟩ := Option.bind_eq_some_iff.1 h
  obtain ⟨tag', htag', ht⟩ := Option.bind_eq_some_iff.1 ht
  obtain rfl : tag = tag' :=
    Option.some.inj ((required_numbered htag).symm.trans (required_numbered htag'))
  unfold decodeVariant at h ht
  split at h <;> simp only [Option.bind_eq_bind, Option.pure_def, Option.bind_eq_some_iff,
    Option.some.injEq, reduceCtorEq, and_false, exists_const, named.injEq] at h ht
  obtain ⟨_, hname, args, hargs, rfl, rfl⟩ := h
  obtain ⟨name', hname', args', hargs', rfl⟩ := ht
  rw [hname] at hname'
  rw [defaulted_list_eq_nil hargs hargs', Option.some.inj hname']

end TypeRef

/-- Type parameters, field by field. -/
theorem TypeParameter.alike : Alike false (.object .typeParameter) decode decode :=
  .record rfl fun room fs gs h => by
    have hplain := readable_plain false room
    simp only [ObjectKind.known, List.forall_mem_cons] at h
    obtain ⟨hname, hconstraints, hreferenceType, hvalueType, hconstructor, -⟩ := h
    exact .field (hname.plainRequired hplain) fun name =>
      .field (hconstraints.list ((TypeRef.alike false false).list room)) fun constraints =>
      .field (hreferenceType.plainDefaulted hplain) fun isReferenceType =>
      .field (hvalueType.plainDefaulted hplain) fun isValueType =>
      .field (hconstructor.plainDefaulted hplain) fun hasConstructor => .done _

/-! ### Attributes -/

/-- Constants of enumerations, field by field. -/
theorem EnumConstant.alike (buffered : Bool) :
    Alike buffered (.object .enumConstant) decode decode :=
  .record rfl fun room fs gs h => by
    have hplain := readable_plain buffered room
    simp only [ObjectKind.known, List.forall_mem_cons] at h
    obtain ⟨htypeName, hvalue, hmember, -⟩ := h
    exact .field (htypeName.plainRequired hplain) fun typeName =>
      .field (hvalue.plainRequired hplain) fun value =>
      .field (hmember.plainOptional hplain) fun member => .done _

namespace AttributeValue

/-- What `decode` makes of the content of an argument under a tag. -/
def decodeContent (buffered : Bool) (room : Nat) : String → Option Value → Option AttributeValue
  | "null", none | "null", some .null => some null
  | "bool", some v => do return bool (← Json.Decode.bool v)
  | "int", some v => do return int (← int64 v)
  | "string", some v => do return string (← text v)
  | "type", some v => do return type (← TypeRef.decode buffered room v)
  | "enum", some v => do return enum (← EnumConstant.decode room v)
  | "array", some v => do return array (← list (decode buffered) room v)
  | _, _ => none

/-- What `decode` makes of the fields of an argument. -/
def decodeFields (buffered : Bool) (room : Nat) (fs : Fields) : Option AttributeValue :=
  (required fs "kind" (variant buffered room)).bind fun kind =>
    (member? fs "value").bind fun content =>
      if contentFirst fs && !content.all (·.isStorable room) then none
      else decodeContent (buffered || contentFirst fs) room kind content

/-- An argument is a record that has its tag read before its content. -/
theorem decode_succ (buffered : Bool) (room : Nat) (v : Value) :
    decode buffered (room + 1) v =
      (ObjectKind.argument.fields? v).bind (decodeFields buffered room) := by
  simp only [decode, decodeList_eq, Option.bind_eq_bind]
  refine congrArg _ (funext fun fs => congrArg _ (funext fun kind => congrArg _
    (funext fun content => ?_)))
  split
  · rfl
  · unfold decodeContent
    split <;> simp_all

/-- The contents of two arguments under one tag. -/
theorem agrees_decodeContent {buffered buffered' : Bool} {room : Nat} {kind : String}
    {v w : Value}
    (hdecode : ∀ r v w, r < room → Rearranged (.object .argument) v w →
      Agrees (Readable buffered' r (.object .argument) w) (decode buffered r v)
        (decode buffered' r w))
    (h : Rearranged (ObjectKind.contentMember (some kind)).kind v w) :
    Agrees (Readable buffered' room (ObjectKind.contentMember (some kind)).kind w)
      (decodeContent buffered room kind (some v)) (decodeContent buffered' room kind (some w)) := by
  by_cases htype : kind = "type"
  · subst htype
    exact (TypeRef.alike buffered buffered' room v w h).bind_same fun t => some (type t)
  by_cases henum : kind = "enum"
  · subst henum
    exact (EnumConstant.alike buffered' room v w h).bind_same fun e => some (enum e)
  by_cases harray : kind = "array"
  · subst harray
    have hitems := agrees_readable_list
      (fun r v w (hr : room = r + 1) => hdecode r v w (by omega)) v w h
    exact hitems.bind_same fun items => some (array items)
  have hplain : (ObjectKind.contentMember (some kind)).kind = .plain := by
    unfold ObjectKind.contentMember
    split <;> simp_all [KnownMember.optional, KnownMember.required]
  rw [hplain] at h ⊢
  obtain rfl := h.eq_of_plain
  have hsame : decodeContent buffered room kind (some w) =
      decodeContent buffered' room kind (some w) := by
    unfold decodeContent
    split <;> simp_all
  rw [hsame]
  exact .refl (readable_plain _ _ _) _

/-- The contents of two arguments under one tag, where one that stands before the tag is stored. -/
theorem agrees_content {buffered buffered' : Bool} {room : Nat} {fs gs : Fields} {kind : String}
    (hdecode : ∀ buffered buffered' r v w, r < room → Rearranged (.object .argument) v w →
      Agrees (Readable buffered' r (.object .argument) w) (decode buffered r v)
        (decode buffered' r w))
    (h : MemberFollows fs gs (ObjectKind.contentMember (some kind))) :
    Agrees (MemberIs (fun k w => (contentFirst gs = true → w.isStorable room = true) ∧
        Readable (buffered' || contentFirst gs) room k w) gs (ObjectKind.contentMember (some kind)))
      ((member? fs "value").bind fun content =>
        if contentFirst fs && !content.all (·.isStorable room) then none
        else decodeContent (buffered || contentFirst fs) room kind content)
      ((member? gs "value").bind fun content =>
        if contentFirst gs && !content.all (·.isStorable room) then none
        else decodeContent (buffered' || contentFirst gs) room kind content) := by
  have hkey := ObjectKind.key_contentMember (some kind)
  rw [← hkey]
  refine h.agrees ?_ ?_ ?_
  · have hsame : decodeContent (buffered || contentFirst fs) room kind none =
        decodeContent (buffered' || contentFirst gs) room kind none := by
      unfold decodeContent
      split <;> simp_all
    simpa using hsame
  · -- only the content under the tag for `null` may as well be missing
    intro v x hdefault hx
    by_cases hnull : kind = "null"
    · subst hnull
      obtain rfl : v = .null := hdefault
      rw [Option.ite_none_left_eq_some] at hx
      simpa [decodeContent] using hx.2
    · unfold ObjectKind.contentMember at hdefault
      split at hdefault <;> simp_all [KnownMember.required]
  · intro v w hvw x hx
    have hcontent := agrees_decodeContent
      (hdecode (buffered || contentFirst fs) (buffered' || contentFirst gs)) hvw
    rw [Option.ite_none_left_eq_some] at hx
    obtain ⟨hsame, hneeds⟩ := hcontent x hx.2
    constructor
    · rintro ⟨hstorable, hreadable⟩
      rw [if_neg, hsame hreadable]
      simpa using hstorable
    · intro y hy
      rw [Option.ite_none_left_eq_some] at hy
      exact ⟨by simpa using hy.1, hneeds y hy.2⟩

/-- What is nothing under a word is nothing within a stored tree. -/
theorem isUnit_true {buffered : Bool} {v : Value} (h : isUnit buffered v = true) :
    isUnit true v = true := by
  unfold isUnit at h ⊢
  split at h <;> simp_all

/-- A tag that is read in some context is known as that tag. -/
theorem required_variant {buffered : Bool} {room : Nat} {fs : Fields} {tag : String}
    (h : required fs "kind" (variant buffered room) = some tag) :
    required fs "kind" (variant true 1) = some tag := by
  simp only [required, Option.bind_eq_bind, Option.bind_eq_some_iff] at h ⊢
  obtain ⟨o, ho, htag⟩ := h
  refine ⟨o, ho, ?_⟩
  cases o with
  | none => cases htag
  | some v =>
      rcases variant_eq_some_iff.1 htag with rfl | ⟨-, content, hunit, rfl⟩
      · exact variant_text _ _ _
      · exact variant_eq_some_iff.2 (.inr ⟨Nat.one_ne_zero, content, isUnit_true hunit, rfl⟩)

/-- **Arguments**, within stored trees and elsewhere. Each argument is part of one that takes two
levels more, so the induction is a strong one. -/
theorem alike (buffered buffered' : Bool) :
    Alike buffered' (.object .argument) (decode buffered) (decode buffered') := by
  intro room
  induction room using Nat.strongRecOn generalizing buffered buffered' with
  | ind room ih =>
      intro v w h
      cases room with
      | zero =>
          rw [decode]
          exact .none
      | succ r =>
          rw [decode_succ, decode_succ]
          refine h.agrees_fields fun fs gs hgs hmembers => ?_
          simp only [ObjectKind.known, List.forall_mem_cons] at hmembers
          obtain ⟨hkind, hvalue, -⟩ := hmembers
          have htags := hkind.required fun v w hvw => hvw.agrees_variant buffered buffered' r
          refine (htags.bind fun kind htag htag' => ?_).congr (readable_argument hgs).symm
          rw [required_variant htag] at hvalue
          rw [required_variant htag']
          exact agrees_content (fun b b' r' v w hr' => ih r' (by omega) b b' v w) hvalue

end AttributeValue

/-- Named arguments, field by field. -/
theorem NamedArgument.alike (buffered : Bool) :
    Alike buffered (.object .namedArgument) (decode buffered) (decode buffered) :=
  .record rfl fun room fs gs h => by
    have hplain := readable_plain buffered room
    simp only [ObjectKind.known, List.forall_mem_cons] at h
    obtain ⟨hname, hvalue, -⟩ := h
    exact .field (hname.plainRequired hplain) fun name =>
      .field (hvalue.required (AttributeValue.alike buffered buffered room)) fun value => .done _

/-- Attributes, field by field. -/
theorem Attribute.alike (buffered : Bool) :
    Alike buffered (.object .appliedAttribute) (decode buffered) (decode buffered) :=
  .record rfl fun room fs gs h => by
    have hplain := readable_plain buffered room
    simp only [ObjectKind.known, List.forall_mem_cons] at h
    obtain ⟨hclass, harguments, hnamedArguments, -⟩ := h
    exact .field (hclass.plainRequired hplain) fun className =>
      .field (harguments.list ((AttributeValue.alike buffered buffered).list room))
        fun arguments =>
      .field (hnamedArguments.list ((NamedArgument.alike buffered).list room))
        fun namedArguments => .done _

/-! ### Members -/

/-- Accessibilities, within stored trees and elsewhere. -/
theorem Accessibility.alike (buffered : Bool) :
    Alike buffered (.object .word) (decodeIn buffered) (decodeIn buffered) :=
  .word words buffered buffered

/-- Locations, field by field. -/
theorem Location.alike (buffered : Bool) : Alike buffered (.object .location) decode decode :=
  .record rfl fun room fs gs h => by
    have hplain := readable_plain buffered room
    simp only [ObjectKind.known, List.forall_mem_cons] at h
    obtain ⟨hpath, hline, -⟩ := h
    exact .field (hpath.plainRequired hplain) fun path =>
      .field (hline.plainRequired hplain) fun line => .done _

/-- Parameters, field by field. -/
theorem Parameter.alike (buffered : Bool) :
    Alike buffered (.object .parameter) (decode buffered) (decode buffered) :=
  .record rfl fun room fs gs h => by
    have hplain := readable_plain buffered room
    simp only [ObjectKind.known, List.forall_mem_cons] at h
    obtain ⟨hname, htype, hdefaultValue, -⟩ := h
    exact .field (hname.plainRequired hplain) fun name =>
      .field (htype.required (TypeRef.alike buffered buffered room)) fun type =>
      .field (hdefaultValue.plainOptional hplain) fun defaultValue => .done _

section Declarations

variable {room : Nat} {fs gs : Fields}

/-- The fields of properties, which are stored, are decoded in agreement. -/
theorem Property.agrees_decodeFields
    (h : ∀ m ∈ ObjectKind.propertyMembers, MemberFollows fs gs m) :
    Agrees (∀ m ∈ ObjectKind.propertyMembers, MemberIs (Readable true room) gs m)
      (decodeFields room fs) (decodeFields room gs) := by
  have hplain := readable_plain true room
  simp only [ObjectKind.propertyMembers, List.forall_mem_cons] at h
  obtain ⟨hname, htype, haccessibility, hgetter, hsetter, hwriteOnly, hstatic, hauto, hindexer,
    himplicit, hattributes, hlocation, -⟩ := h
  exact .field (hname.plainRequired hplain) fun name =>
    .field (htype.required (TypeRef.alike true true room)) fun type =>
    .field (haccessibility.defaultedObject (fun _ _ _ hd hx => eq_of_word_eq_some hx hd)
      (Accessibility.alike true room)) fun accessibility =>
    .field (hgetter.optional (readable_null _ _ _) (Accessibility.alike true room))
      fun declaredGetterAccessibility =>
    .field (hsetter.plainDefaulted hplain) fun hasSetter =>
    .field (hwriteOnly.plainDefaulted hplain) fun isWriteOnly =>
    .field (hstatic.plainDefaulted hplain) fun isStatic =>
    .field (hauto.plainDefaulted hplain) fun isAuto =>
    .field (hindexer.plainDefaulted hplain) fun isIndexer =>
    .field (himplicit.plainDefaulted hplain) fun isImplicit =>
    .field (hattributes.list ((Attribute.alike true).list room)) fun attributes =>
    .field (hlocation.optional (readable_null _ _ _) (Location.alike true room)) fun location =>
      .done _

/-- The fields of field declarations, which are stored, are decoded in agreement. -/
theorem Field.agrees_decodeFields (h : ∀ m ∈ ObjectKind.fieldMembers, MemberFollows fs gs m) :
    Agrees (∀ m ∈ ObjectKind.fieldMembers, MemberIs (Readable true room) gs m)
      (decodeFields room fs) (decodeFields room gs) := by
  have hplain := readable_plain true room
  simp only [ObjectKind.fieldMembers, List.forall_mem_cons] at h
  obtain ⟨hname, htype, haccessibility, hstatic, hreadonly, himplicit, hattributes, hlocation,
    -⟩ := h
  exact .field (hname.plainRequired hplain) fun name =>
    .field (htype.required (TypeRef.alike true true room)) fun type =>
    .field (haccessibility.defaultedObject (fun _ _ _ hd hx => eq_of_word_eq_some hx hd)
      (Accessibility.alike true room)) fun accessibility =>
    .field (hstatic.plainDefaulted hplain) fun isStatic =>
    .field (hreadonly.plainDefaulted hplain) fun isReadonly =>
    .field (himplicit.plainDefaulted hplain) fun isImplicit =>
    .field (hattributes.list ((Attribute.alike true).list room)) fun attributes =>
    .field (hlocation.optional (readable_null _ _ _) (Location.alike true room)) fun location =>
      .done _

/-- The fields of methods are decoded in agreement, within stored trees and elsewhere. -/
theorem Method.agrees_decodeFields (buffered : Bool)
    (h : ∀ m ∈ ObjectKind.methodMembers, MemberFollows fs gs m) :
    Agrees (∀ m ∈ ObjectKind.methodMembers, MemberIs (Readable buffered room) gs m)
      (decodeFields buffered room fs) (decodeFields buffered room gs) := by
  have hplain := readable_plain buffered room
  simp only [ObjectKind.methodMembers, List.forall_mem_cons] at h
  obtain ⟨hname, hreturnType, hparameters, haccessibility, hstatic, hoverride, hvirtual, habstract,
    hsealed, hinterface, hattributes, hlocation, -⟩ := h
  exact .field (hname.plainRequired hplain) fun name =>
    .field (hreturnType.defaultedObject
      (fun _ _ _ hvoid ht => TypeRef.eq_of_decode_eq_named hvoid ht)
      (TypeRef.alike buffered buffered room)) fun returnType =>
    .field (hparameters.list ((Parameter.alike buffered).list room)) fun parameters =>
    .field (haccessibility.defaultedObject (fun _ _ _ hd hx => eq_of_word_eq_some hx hd)
      (Accessibility.alike buffered room)) fun accessibility =>
    .field (hstatic.plainDefaulted hplain) fun isStatic =>
    .field (hoverride.plainDefaulted hplain) fun isOverride =>
    .field (hvirtual.plainDefaulted hplain) fun isVirtual =>
    .field (habstract.plainDefaulted hplain) fun isAbstract =>
    .field (hsealed.plainDefaulted hplain) fun isSealed =>
    .field (hinterface.optional (readable_null _ _ _) (TypeRef.alike buffered buffered room))
      fun explicitInterface =>
    .field (hattributes.list ((Attribute.alike buffered).list room)) fun attributes =>
    .field (hlocation.optional (readable_null _ _ _) (Location.alike buffered room)) fun location =>
      .done _

end Declarations

/-- Methods on their own, field by field. -/
theorem Method.alike : Alike false (.object .method) decode decode :=
  .record rfl fun _ _ _ h => agrees_decodeFields false h

namespace Member

/-- The fields of members are decoded in agreement. -/
theorem agrees_decodeFields {room : Nat} {fs gs : Fields}
    (h : ∀ m ∈ ObjectKind.member.known fs, MemberFollows fs gs m) :
    Agrees (∀ m ∈ ObjectKind.member.known gs, MemberIs (Readable true room) gs m)
      (decodeFields room fs) (decodeFields room gs) := by
  simp only [ObjectKind.known, List.forall_mem_cons] at h ⊢
  obtain ⟨htag, hmembers⟩ := h
  have htags : Agrees (MemberIs (Readable true room) gs (.required "member"))
      (required fs "member" text) (required gs "member" text) :=
    htag.plainRequired (readable_plain true room)
  unfold decodeFields
  refine htags.bind fun tag heq heq' => ?_
  rw [heq] at hmembers
  rw [heq']
  split
  · exact (Property.agrees_decodeFields hmembers).bind_same fun p => some (property p)
  · exact (Field.agrees_decodeFields hmembers).bind_same fun f => some (field f)
  · exact (Method.agrees_decodeFields true hmembers).bind_same fun m => some (method m)
  · exact .none

/-- A member is decoded from its fields if it can be stored. -/
theorem decode_eq_some {room : Nat} {v : Value} {m : Member} :
    decode room v = some m ↔
      v.isStorable room = true ∧ record fieldNames decodeFields room v = some m :=
  Option.ite_none_right_eq_some

/-- **Members**, which are stored before their fields are read. -/
theorem alike : Alike false (.object .member) decode decode := by
  intro room v w h m hm
  obtain ⟨r, fs, rfl, hfs, hm⟩ := record_eq_some.1 (decode_eq_some.1 hm).2
  obtain ⟨gs, hgs, hmembers⟩ := h.exists_fields hfs
  obtain ⟨hsame, hneeds⟩ := agrees_decodeFields hmembers m hm
  rw [readable_member hgs]
  constructor
  · rintro ⟨hstorable, hreadable⟩
    exact decode_eq_some.2 ⟨hstorable, record_eq_some.2 ⟨r, gs, rfl, hgs, hsame hreadable⟩⟩
  · intro n hn
    obtain ⟨hstorable, hn⟩ := decode_eq_some.1 hn
    obtain ⟨r', gs', hr, hgs', hn⟩ := record_eq_some.1 hn
    obtain rfl := Nat.succ.inj hr
    obtain rfl : gs = gs' := Option.some.inj (hgs.symm.trans hgs')
    exact ⟨hstorable, hneeds n hn⟩

end Member

/-! ### Definitions and programs -/

/-- Words that are not part of a stored tree. -/
theorem TypeKind.alike : Alike false (.object .word) decode decode := .word words false false

theorem Origin.alike : Alike false (.object .word) decode decode := .word words false false

theorem SpecialType.alike : Alike false (.object .word) decode decode := .word words false false

/-- **Definitions**, field by field. -/
theorem TypeDef.alike : Alike false (.object .definition) decode decode :=
  .record rfl fun room fs gs h => by
    have hplain := readable_plain false room
    simp only [ObjectKind.known, List.forall_mem_cons] at h
    obtain ⟨hnamespace, hname, htypeParameters, hkind, haccessibility, habstract, hstatic, hsealed,
      hpartial, horigin, hspecial, hbaseType, hinterfaces, hattributes, hmembers, hlocation,
      -⟩ := h
    exact .field (hnamespace.plainDefaulted hplain) fun ns =>
      .field (hname.plainRequired hplain) fun name =>
      .field (htypeParameters.list (TypeParameter.alike.list room)) fun typeParameters =>
      .field (hkind.defaultedObject (fun _ _ _ hd hx => eq_of_word_eq_some hx hd)
        (TypeKind.alike room)) fun kind =>
      .field (haccessibility.defaultedObject (fun _ _ _ hd hx => eq_of_word_eq_some hx hd)
        (Accessibility.alike false room)) fun accessibility =>
      .field (habstract.plainDefaulted hplain) fun isAbstract =>
      .field (hstatic.plainDefaulted hplain) fun isStatic =>
      .field (hsealed.plainDefaulted hplain) fun isSealed =>
      .field (hpartial.plainDefaulted hplain) fun isPartial =>
      .field (horigin.defaultedObject (fun _ _ _ hd hx => eq_of_word_eq_some hx hd)
        (Origin.alike room)) fun origin =>
      .field (hspecial.optional (readable_null _ _ _) (SpecialType.alike room)) fun special =>
      .field (hbaseType.optional (readable_null _ _ _) (TypeRef.alike false false room))
        fun baseType =>
      .field (hinterfaces.list ((TypeRef.alike false false).list room)) fun interfaces =>
      .field (hattributes.list ((Attribute.alike false).list room)) fun attributes =>
      .field (hmembers.list (Member.alike.list room)) fun members =>
      .field (hlocation.optional (readable_null _ _ _) (Location.alike false room))
        fun location => .done _

namespace Assembly

/-- Assemblies, field by field. -/
theorem alike : Alike false (.object .assembly) decode decode :=
  .record rfl fun room fs gs h => by
    have hplain := readable_plain false room
    simp only [ObjectKind.known, List.forall_mem_cons] at h
    obtain ⟨hname, hattributes, -⟩ := h
    exact .field (hname.plainDefaulted hplain) fun name =>
      .field (hattributes.list ((Attribute.alike false).list room)) fun attributes => .done _

/-- An assembly without name and attributes is the same in whatever room it is decoded. -/
theorem eq_of_decode_eq_empty {room room' : Nat} {v : Value} {a : Assembly}
    (h : decode room v = some {}) (ha : decode room' v = some a) : a = {} := by
  rw [decode, record_eq_some] at h ha
  obtain ⟨r, fs, -, hfs, h⟩ := h
  obtain ⟨r', fs', -, hfs', ha⟩ := ha
  obtain rfl : fs = fs' := Option.some.inj (hfs.symm.trans hfs')
  simp only [Option.bind_eq_bind, Option.pure_def, Option.bind_eq_some_iff, Option.some.injEq,
    mk.injEq] at h ha
  obtain ⟨name, hname, attributes, hattributes, rfl, rfl⟩ := h
  obtain ⟨name', hname', attributes', hattributes', rfl⟩ := ha
  rw [hname] at hname'
  rw [defaulted_list_eq_nil hattributes hattributes', ← Option.some.inj hname']

end Assembly

/-- **Programs**, field by field. -/
theorem Program.alike : Alike false (.object .program) decode decode :=
  .record rfl fun room fs gs h => by
    have hplain := readable_plain false room
    simp only [ObjectKind.known, List.forall_mem_cons] at h
    obtain ⟨hassembly, htypes, hcore, -⟩ := h
    exact .field (hassembly.defaultedObject
        (fun _ _ _ hempty ha => Assembly.eq_of_decode_eq_empty hempty ha)
        (Assembly.alike room)) fun assembly =>
      .field (htypes.list (TypeDef.alike.list room)) fun types =>
      .field (hcore.plainDefaulted hplain) fun includesCoreLibrary => .done _

/-! ### The model -/

end Companion
