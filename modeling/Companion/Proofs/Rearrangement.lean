import Companion.Proofs.KnownMembers
import Mathlib.Data.List.Forall2
import Mathlib.Data.List.Nodup

/-!
# Rearranged Documents

A document of an object lists its members in some order, may leave out those that have their
default, and may hold others that no reader asks for. Two documents that differ in nothing else are
related by `Rearranged`, which follows the document down to any depth: what an object stands for
tells which members are known and what they stand for in turn (`ObjectKind.known`). Where an array
of its fields stands for an object, the fields are rearranged one by one.

Most readers take a member by its key and do not mind. Three of them store a part of the document
before they read it, as they have to find a tag: a reference and a member as a whole, and an
argument its content if that stands in front of the tag. What is stored has to be storable with all
its unknown members, and a reference within a stored tree may be tagged by the position of its
variant, which no other reference may be. A word that is written as an object is read only if it is
all that stands there, with nothing under it; within a stored tree an empty object is nothing as
well. `Readable` says of a document that nothing of this kind stops its reader.

So readers of two related documents *agree* (`Agrees`): where the first gives a value, the second
gives the same one if its document is readable, and else none. Agreement is carried through the
parts of a reader by one rule each, and the rules for fields take the known members one by one.

## Main results

* `MemberFollows.of_kept`: what becomes of the member under a known key.
* `Rearranged.exists_fields`: the fields of a rearranged record, in whichever form it is written.
* `Agrees.bind`, `Agrees.field`: readings that follow one another.
* `MemberFollows.required`, `MemberFollows.defaulted`, `MemberFollows.optional`,
  `MemberFollows.list`: the fields of a record.
* `Alike.word`, `Alike.list`, `Alike.record`: decoders of words, of lists and of records without a
  tag.
-/

namespace Companion

open Json (Value)
open Json.Decode

/-! ### Rearrangement -/

/-- A document of a kind, and what becomes of it when objects at any depth are rearranged: their
members are put in another order, members that are unknown come and go, and members that may as well
be missing go. Arrays keep their items in place, also where they are the fields of an object. -/
inductive Rearranged : DocumentKind → Value → Value → Prop where
  | same (k : DocumentKind) (v : Value) : Rearranged k v v
  | array {k : DocumentKind} {vs ws : List Value} (length : vs.length = ws.length)
      (items : ∀ v w, (v, w) ∈ vs.zip ws → Rearranged k v w) :
      Rearranged (.list k) (.array vs) (.array ws)
  | object {o : ObjectKind} {fs gs dropped added : Fields}
      (kept : List (KnownMember × Value × Value))
      (before : fs.Perm (kept.map (fun (m, v, _) => (m.key, v)) ++ dropped))
      (after : gs.Perm (kept.map (fun (m, _, w) => (m.key, w)) ++ added))
      (known : ∀ m v w, (m, v, w) ∈ kept → m ∈ o.known fs)
      (members : ∀ m v w, (m, v, w) ∈ kept → Rearranged m.kind v w)
      (dropped : ∀ f ∈ dropped, ∀ m ∈ o.known fs, m.key = f.1 → m.isDefault f.2)
      (added : ∀ f ∈ added, ∀ m ∈ o.known fs, m.key ≠ f.1) :
      Rearranged (.object o) (.record fs) (.record gs)
  | fields {o : ObjectKind} {vs ws : List Value} {fs : Fields}
      (items : o.fields? (.array vs) = some fs) (length : vs.length = ws.length)
      (members : ∀ m v w, (m, v, w) ∈ (o.known fs).zip (vs.zip ws) → Rearranged m.kind v w) :
      Rearranged (.object o) (.array vs) (.array ws)

/-! ### Looking members up -/

/-- What a rearrangement makes of the member under a key. -/
structure MemberFollows (fs gs : Fields) (m : KnownMember) : Prop where
  missing : member? fs m.key = some none → member? gs m.key = some none
  present {v : Value} : member? fs m.key = some (some v) →
    m.isDefault v ∧ member? gs m.key = some none ∨
      ∃ w, member? gs m.key = some (some w) ∧ Rearranged m.kind v w

/-- A member is missing if nothing stands under its key. -/
theorem member?_eq_some_none_iff {fs : Fields} {key : String} :
    member? fs key = some none ↔ fs.filter (·.1 == key) = [] := by
  rcases hfound : fs.filter (·.1 == key) with _ | ⟨f, _ | ⟨g, rest⟩⟩ <;> simp [member?, hfound]

/-- A member is there if it alone stands under its key. -/
theorem member?_eq_some_some_iff {fs : Fields} {key : String} {v : Value} :
    member? fs key = some (some v) ↔ fs.filter (·.1 == key) = [(key, v)] := by
  rcases hfound : fs.filter (·.1 == key) with _ | ⟨⟨k, u⟩, _ | ⟨g, rest⟩⟩
  · simp [member?, hfound]
  · have hkey : k = key := by
      have hmem : (k, u) ∈ fs.filter (·.1 == key) := hfound ▸ List.mem_singleton_self _
      exact beq_iff_eq.1 (List.mem_filter.1 hmem).2
    simp [member?, hfound, hkey]
  · simp [member?, hfound]

/-- A member that is found is one of the object. -/
theorem mem_of_member? {fs : Fields} {key : String} {v : Value}
    (h : member? fs key = some (some v)) : (key, v) ∈ fs :=
  (List.mem_filter.1 (member?_eq_some_some_iff.1 h ▸ List.mem_singleton_self _)).1

/-- A document that is left alone keeps its members. -/
theorem MemberFollows.same (fs : Fields) (m : KnownMember) : MemberFollows fs fs m where
  missing h := h
  present h := .inr ⟨_, h, .same _ _⟩

/-- Members that are kept, some that go and some that come. Under the key of a known member stands
a kept one or one that goes, and none that comes. -/
theorem MemberFollows.of_kept {known : List KnownMember} (hnodup : (known.map (·.key)).Nodup)
    {fs gs dropped added : Fields} {kept : List (KnownMember × Value × Value)}
    (hbefore : fs.Perm (kept.map (fun (m, v, _) => (m.key, v)) ++ dropped))
    (hafter : gs.Perm (kept.map (fun (m, _, w) => (m.key, w)) ++ added))
    (hkept : ∀ m v w, (m, v, w) ∈ kept → m ∈ known ∧ Rearranged m.kind v w)
    (hdropped : ∀ f ∈ dropped, ∀ m ∈ known, m.key = f.1 → m.isDefault f.2)
    (hadded : ∀ f ∈ added, ∀ m ∈ known, m.key ≠ f.1) {m : KnownMember} (hm : m ∈ known) :
    MemberFollows fs gs m := by
  have hbefore' := hbefore.filter (·.1 == m.key)
  have hafter' := hafter.filter (·.1 == m.key)
  have hnew : added.filter (·.1 == m.key) = [] :=
    List.filter_eq_nil_iff.2 fun f hf heq => hadded f hf m hm (beq_iff_eq.1 heq).symm
  rw [List.filter_append, List.filter_map] at hbefore' hafter'
  rw [hnew, List.append_nil] at hafter'
  simp only [Function.comp_def] at hbefore' hafter'
  constructor
  · intro hmissing
    rw [member?_eq_some_none_iff.1 hmissing, List.nil_perm, List.append_eq_nil_iff,
      List.map_eq_nil_iff] at hbefore'
    rw [hbefore'.1, List.map_nil, List.perm_nil] at hafter'
    exact member?_eq_some_none_iff.2 hafter'
  · intro v hpresent
    rw [member?_eq_some_some_iff.1 hpresent, List.singleton_perm] at hbefore'
    rcases List.append_eq_singleton_iff.1 hbefore'.symm with ⟨hnone, hgoes⟩ | ⟨hstays, -⟩
    · have hgone : (m.key, v) ∈ dropped :=
        (List.mem_filter.1 (hgoes ▸ List.mem_singleton_self _)).1
      rw [List.map_eq_nil_iff.1 hnone, List.map_nil, List.perm_nil] at hafter'
      exact .inl ⟨hdropped _ hgone m hm rfl, member?_eq_some_none_iff.2 hafter'⟩
    · obtain ⟨⟨m', v', w⟩, hfound, heq⟩ := List.map_eq_singleton_iff.1 hstays
      obtain ⟨hmem, hkey⟩ := List.mem_filter.1 (hfound ▸ List.mem_singleton_self (m', v', w))
      obtain rfl : m' = m :=
        List.inj_on_of_nodup_map hnodup (hkept _ _ _ hmem).1 hm (beq_iff_eq.1 hkey)
      obtain ⟨-, rfl⟩ := Prod.mk.inj heq
      rw [hfound, List.map_singleton, List.perm_singleton] at hafter'
      exact .inr ⟨w, member?_eq_some_some_iff.2 hafter', (hkept _ _ _ hmem).2⟩

/-- An object is determined by its members. -/
@[simp]
theorem record_inj {fs gs : Fields} : Value.record fs = .record gs ↔ fs = gs :=
  ⟨fun h => by simpa using congrArg fields h, congrArg _⟩

namespace Rearranged

variable {k : DocumentKind} {o : ObjectKind} {v w : Value}

/-- A plain part stays as it is. -/
theorem eq_of_plain (h : Rearranged .plain v w) : w = v := by
  cases h
  rfl

/-- An array stays one, and its items are rearranged. -/
theorem exists_array {vs : List Value} (h : Rearranged (.list k) (.array vs) w) :
    ∃ ws, w = .array ws ∧ List.Forall₂ (Rearranged k) vs ws := by
  cases h with
  | same => exact ⟨vs, rfl, List.forall₂_same.2 fun v _ => .same k v⟩
  | array hlength hitems => exact ⟨_, rfl, List.forall₂_iff_zip.2 ⟨hlength, hitems _ _⟩⟩

/-- An object stays one, and the members that its readers ask for follow. -/
theorem exists_record {fs : Fields} (h : Rearranged (.object o) (.record fs) w) :
    ∃ gs, w = .record gs ∧ ∀ m ∈ o.known fs, MemberFollows fs gs m := by
  generalize hv : Value.record fs = v at h
  cases h with
  | same => exact ⟨fs, hv.symm, fun m _ => .same fs m⟩
  | object kept before after known members dropped added =>
      obtain rfl := record_inj.1 hv
      exact ⟨_, rfl, fun m hm => .of_kept (o.nodup_known fs) before after
        (fun m v w hmem => ⟨known m v w hmem, members m v w hmem⟩) dropped added hm⟩
  | fields => cases hv

/-- Items, each beside its member, are the fields under the keys of the members. -/
theorem map_zip_zip (ms : List KnownMember) {vs ws : List Value} (h : vs.length = ws.length) :
    (ms.zip (vs.zip ws)).map (fun (m, v, _) => (m.key, v)) = (ms.map (·.key)).zip vs ∧
      (ms.zip (vs.zip ws)).map (fun (m, _, w) => (m.key, w)) = (ms.map (·.key)).zip ws := by
  induction ms generalizing vs ws with
  | nil => simp
  | cons m ms ih =>
      cases vs with
      | nil => cases List.length_eq_zero_iff.1 h.symm; simp
      | cons v vs =>
          obtain ⟨w, ws, rfl⟩ := List.exists_cons_of_length_eq_add_one h.symm
          simpa using ih (Nat.succ.inj h)

/-- The items of a rearranged array have the names that they had, as a tag in front stays. -/
theorem names_eq {vs ws : List Value} {fs : Fields} (hfs : o.fields? (.array vs) = some fs)
    (hlength : vs.length = ws.length)
    (hmembers : ∀ m v w, (m, v, w) ∈ (o.known fs).zip (vs.zip ws) → Rearranged m.kind v w) :
    o.names ws = o.names vs := by
  have htag : ∀ key ms, o.known fs = .required key :: ms → ws.head? = vs.head? := by
    intro key ms hknown
    cases vs with
    | nil => cases List.length_eq_zero_iff.1 hlength.symm; rfl
    | cons v vs =>
        obtain ⟨w, ws, rfl⟩ := List.exists_cons_of_length_eq_add_one hlength.symm
        have hplain : Rearranged .plain v w := hmembers (.required key) v w (by simp [hknown])
        rw [List.head?_cons, List.head?_cons, hplain.eq_of_plain]
  cases o with
  | reference => simp only [ObjectKind.names, TypeRef.fieldNames, htag _ _ rfl]
  | member => simp only [ObjectKind.names, Member.fieldNames, htag _ _ rfl]
  | _ => rfl

/-- **The fields of a rearranged record**: it stays an object or an array, and the members that its
readers ask for follow. -/
theorem exists_fields {fs : Fields} (h : Rearranged (.object o) v w) (hfs : o.fields? v = some fs) :
    ∃ gs, o.fields? w = some gs ∧ ∀ m ∈ o.known fs, MemberFollows fs gs m := by
  cases h with
  | same => exact ⟨fs, hfs, fun m _ => .same fs m⟩
  | object kept before after known members dropped added =>
      obtain rfl := Option.some.inj ((o.fields?_record _).symm.trans hfs)
      obtain ⟨gs, hgs, hfollows⟩ :=
        (Rearranged.object kept before after known members dropped added).exists_record
      exact ⟨gs, by rw [hgs, o.fields?_record], hfollows⟩
  | @fields _ vs ws gs hitems hlength hmembers =>
      obtain rfl := Option.some.inj (hitems.symm.trans hfs)
      have hnames := names_eq hfs hlength hmembers
      have hknown := ObjectKind.names_eq_map_known hfs
      obtain ⟨hleast, hlast, rfl⟩ := recordFields_array_eq_some.1 hfs
      obtain ⟨hvs, hws⟩ := map_zip_zip (o.known ((o.names vs).zip vs)) hlength
      rw [← hknown] at hvs hws
      have hitems' : o.fields? (.array ws) = some ((o.names vs).zip ws) :=
        recordFields_array_eq_some.2
          ⟨hlength ▸ hleast, by rwa [hnames, ← hlength], by rw [hnames]⟩
      refine ⟨_, hitems', fun m hm => .of_kept (o.nodup_known _)
        (.of_eq ((List.append_nil _).trans hvs).symm) (.of_eq ((List.append_nil _).trans hws).symm)
        (fun m v w hmem => ⟨(List.of_mem_zip hmem).1, hmembers m v w hmem⟩) (by simp) (by simp) hm⟩

/-- Nothing becomes `null`, and `null` nothing else. -/
theorem eq_null_iff (h : Rearranged k v w) : v = .null ↔ w = .null := by
  cases h <;> simp [Value.record]

end Rearranged

/-! ### What can be read -/

/-- Whether the tag of a reference, if it has one, is a text. -/
def HasWordTag (v : Value) : Prop :=
  ∀ fs tag, ObjectKind.reference.fields? v = some fs →
    member? fs "kind" = some (some tag) → ∃ s, tag = .text s

/-- Whether a word that is written as an object is all that stands there, with nothing under it. -/
def HasOnlyWord (buffered : Bool) (v : Value) : Prop :=
  ∀ fs, v = .record fs → ∃ key content, fs = [(key, content)] ∧ isUnit buffered content = true

/-- Whether an object says by a word in it what it is, or is such a word. -/
def ObjectKind.isTagged : ObjectKind → Bool
  | word | reference | argument | member => true
  | _ => false

/-- Whether the reader of an argument stores the member under a key before it reads it. -/
def ObjectKind.stores : ObjectKind → Fields → String → Bool
  | argument, fs, key => key == "value" && contentFirst fs
  | _, _, _ => false

/-- Whether a part of a document is free of what stops its reader, and not what it says: what is
stored has to be storable, a word has nothing beside it or under it, and where nothing is stored a
reference is tagged by a text. References and members are stored as a whole, the content of an
argument if it stands before the tag. -/
def Readable : Bool → Nat → DocumentKind → Value → Prop
  | _, _, .plain, _ => True
  | buffered, _, .object .word, v => HasOnlyWord buffered v
  | buffered, room, .object .reference, v =>
    v.isStorable room = true ∧ (buffered = false → HasWordTag v)
  | _, 0, _, _ => True
  | buffered, room + 1, .list k, v => ∀ vs, v = .array vs → ∀ v ∈ vs, Readable buffered room k v
  | _, room + 1, .object .member, v =>
    v.isStorable (room + 1) = true ∧
      ∀ fs, ObjectKind.member.fields? v = some fs → ∀ m ∈ ObjectKind.member.known fs,
        ∀ u, member? fs m.key = some (some u) → Readable true room m.kind u
  | buffered, room + 1, .object o, v =>
    ∀ fs, o.fields? v = some fs → ∀ m ∈ o.known fs, ∀ u, member? fs m.key = some (some u) →
      (o.stores fs m.key = true → u.isStorable room = true) ∧
        Readable (buffered || o.stores fs m.key) room m.kind u

/-- Whether the member under the key of a known one, if there is one, is accepted. -/
def MemberIs (accepts : DocumentKind → Value → Prop) (fs : Fields) (m : KnownMember) : Prop :=
  ∀ v, member? fs m.key = some (some v) → accepts m.kind v

section Readable

variable {buffered : Bool} {room : Nat} {v : Value} {fs : Fields}

/-- Plain parts can be read everywhere. -/
@[simp]
theorem readable_plain (buffered : Bool) (room : Nat) (v : Value) :
    Readable buffered room .plain v := by
  simp only [Readable]

/-- A word can be read if nothing stands beside it or under it. -/
theorem readable_word : Readable buffered room (.object .word) v ↔ HasOnlyWord buffered v := by
  simp only [Readable]

/-- A reference can be read if it can be stored, and if its tag is a text unless the tree is stored.
-/
theorem readable_reference :
    Readable buffered room (.object .reference) v ↔
      v.isStorable room = true ∧ (buffered = false → HasWordTag v) := by
  simp only [Readable]

/-- A member is stored as a whole, and then its fields are read. -/
theorem readable_member (hfs : ObjectKind.member.fields? v = some fs) :
    Readable buffered (room + 1) (.object .member) v ↔
      v.isStorable (room + 1) = true ∧
        ∀ m ∈ ObjectKind.member.known fs, MemberIs (Readable true room) fs m := by
  simp [Readable, MemberIs, hfs]

/-- The tag of an argument, and its content, which may be stored. -/
theorem readable_argument (hfs : ObjectKind.argument.fields? v = some fs) :
    Readable buffered (room + 1) (.object .argument) v ↔
      MemberIs (Readable buffered room) fs (.required "kind" (.object .word)) ∧
        MemberIs (fun k u => (contentFirst fs = true → u.isStorable room = true) ∧
            Readable (buffered || contentFirst fs) room k u) fs
          (ObjectKind.contentMember (required fs "kind" (variant true 1))) := by
  simp [Readable, MemberIs, hfs, ObjectKind.known, ObjectKind.stores, KnownMember.required,
    ObjectKind.key_contentMember]

/-- The fields of a record without a tag are read where they stand. -/
theorem readable_untagged {o : ObjectKind} (ho : o.isTagged = false) (hfs : o.fields? v = some fs) :
    Readable buffered (room + 1) (.object o) v ↔
      ∀ m ∈ o.known fs, MemberIs (Readable buffered room) fs m := by
  cases o with
  | word | reference | argument | member => cases ho
  | _ => simp [Readable, MemberIs, ObjectKind.stores, hfs]

/-- Nothing stops the reader of `null`. -/
@[simp]
theorem readable_null (buffered : Bool) (room : Nat) (k : DocumentKind) :
    Readable buffered room k .null := by
  have hfields : ∀ o : ObjectKind, ∀ fs, o.fields? .null ≠ some fs := nofun
  have hstorable : ∀ room, Value.null.isStorable room = true :=
    fun room => Value.isPlain_null room (by simp)
  cases k with
  | plain => exact readable_plain _ _ _
  | list item => cases room <;> simp [Readable]
  | object o =>
      cases o with
      | word => exact readable_word.2 fun fs h => by simp [Value.record] at h
      | reference =>
          exact readable_reference.2 ⟨hstorable room, fun _ fs tag h => (hfields _ _ h).elim⟩
      | _ => cases room <;> simp [Readable, hfields, hstorable]

end Readable

/-! ### Readers that agree -/

/-- Where the first reading gives a value, the second one gives the same if it can be done, and
else none. -/
def Agrees {α : Type} (readable : Prop) (r r' : Option α) : Prop :=
  ∀ x, r = some x → (readable → r' = some x) ∧ (∀ y, r' = some y → readable)

namespace Agrees

variable {α β : Type} {p q : Prop} {r r' : Option α}

/-- A reading that gives nothing agrees with every other one. -/
theorem none : Agrees p (Option.none : Option α) r' := nofun

/-- A reading agrees with itself where nothing stops it. -/
theorem refl (hp : p) (r : Option α) : Agrees p r r := fun _ hx => ⟨fun _ => hx, fun _ _ => hp⟩

/-- The condition of an agreement may be put in other words. -/
theorem congr (h : Agrees p r r') (hpq : p ↔ q) : Agrees q r r' := propext hpq ▸ h

/-- A reading after another one, which matters only if the first one gives the same twice. -/
theorem bind {f f' : α → Option β} (h : Agrees p r r')
    (hf : ∀ a, r = some a → r' = some a → Agrees q (f a) (f' a)) :
    Agrees (p ∧ q) (r.bind f) (r'.bind f') := by
  intro x hx
  obtain ⟨a, hr, hfa⟩ := Option.bind_eq_some_iff.1 hx
  obtain ⟨hsame, hneeds⟩ := h a hr
  constructor
  · rintro ⟨hp, hq⟩
    rw [hsame hp, Option.bind_some, (hf a hr (hsame hp) x hfa).1 hq]
  · intro y hy
    obtain ⟨b, hr', hfb⟩ := Option.bind_eq_some_iff.1 hy
    have hp := hneeds b hr'
    obtain rfl : a = b := Option.some.inj ((hsame hp).symm.trans hr')
    exact ⟨hp, (hf a hr hr' x hfa).2 y hfb⟩

/-- A reading, and what is made of the value that it gives. -/
theorem bind_same (f : α → Option β) (h : Agrees p r r') : Agrees p (r.bind f) (r'.bind f) :=
  (h.bind fun a _ _ => .refl trivial (f a)).congr (iff_of_eq (and_true p))

/-- A reading of the first of some members, and then of the others. -/
theorem field {m : KnownMember} {ms : List KnownMember} {holds : KnownMember → Prop}
    {f f' : α → Option β} (h : Agrees (holds m) r r')
    (hf : ∀ a, Agrees (∀ n ∈ ms, holds n) (f a) (f' a)) :
    Agrees (∀ n ∈ m :: ms, holds n) (r.bind f) (r'.bind f') :=
  (h.bind fun a _ _ => hf a).congr List.forall_mem_cons.symm

/-- After the last member. -/
theorem done {holds : KnownMember → Prop} (x : α) :
    Agrees (∀ n ∈ [], holds n) (some x) (some x) :=
  .refl (by simp) _

end Agrees

section Fields

variable {α : Type} {fs gs : Fields} {accepts : DocumentKind → Value → Prop} {key : String}
  {kind : DocumentKind} {decode decode' : Value → Option α}

/-- Readers of plain parts agree, being the same. -/
theorem agrees_plain (decode : Value → Option α) (hplain : ∀ v, accepts .plain v) :
    ∀ v w, Rearranged .plain v w → Agrees (accepts .plain w) (decode v) (decode w) := by
  intro v w h
  obtain rfl := h.eq_of_plain
  exact .refl (hplain _) _

/-- Items, each of which is read in agreement. -/
theorem agrees_mapM {p : Value → Prop} {vs ws : List Value}
    (hitem : ∀ v w, Rearranged kind v w → Agrees (p w) (decode v) (decode' w))
    (h : List.Forall₂ (Rearranged kind) vs ws) :
    Agrees (∀ w ∈ ws, p w) (vs.mapM decode) (ws.mapM decode') := by
  induction h with
  | nil => exact .refl (by simp) _
  | cons hfirst _ ih =>
      simp only [List.mapM_cons, Option.bind_eq_bind, Option.pure_def]
      refine ((hitem _ _ hfirst).bind fun x _ _ => ?_).congr List.forall_mem_cons.symm
      exact ih.bind_same fun xs => some (x :: xs)

/-- Lists, the items of which are read in agreement. -/
theorem agrees_list {item item' : Nat → Value → Option α} {p : Nat → Value → Prop} {room : Nat}
    (hitem : ∀ r v w, room = r + 1 → Rearranged kind v w → Agrees (p r w) (item r v) (item' r w)) :
    ∀ v w, Rearranged (.list kind) v w →
      Agrees (∀ r, room = r + 1 → ∀ ws, w = .array ws → ∀ u ∈ ws, p r u) (list item room v)
        (list item' room w) := by
  intro v w h
  cases room with
  | zero => cases v <;> exact .none
  | succ r =>
      cases v with
      | array vs =>
          obtain ⟨ws, rfl, hitems⟩ := h.exists_array
          exact (agrees_mapM (fun v w => hitem r v w rfl) hitems).congr (by simp)
      | _ => exact .none

/-- Lists in some room, the items of which can be read with what is left of it. -/
theorem agrees_readable_list {item item' : Nat → Value → Option α} {buffered : Bool} {room : Nat}
    (hitem : ∀ r v w, room = r + 1 → Rearranged kind v w →
      Agrees (Readable buffered r kind w) (item r v) (item' r w)) :
    ∀ v w, Rearranged (.list kind) v w →
      Agrees (Readable buffered room (.list kind) w) (list item room v) (list item' room w) := by
  intro v w h
  refine (agrees_list hitem v w h).congr ?_
  cases room <;> simp [Readable]

namespace MemberFollows

/-- A reading of the member under a key: both members are missing, or the first one is one that
may be, or both are there. -/
theorem agrees {m : KnownMember} (h : MemberFollows fs gs m) {f f' : Option Value → Option α}
    (hmissing : f none = f' none)
    (hgone : ∀ v x, m.isDefault v → f (some v) = some x → f' none = some x)
    (hpresent : ∀ v w, Rearranged m.kind v w →
      Agrees (accepts m.kind w) (f (some v)) (f' (some w))) :
    Agrees (MemberIs accepts gs m) ((member? fs m.key).bind f) ((member? gs m.key).bind f') := by
  have hnone : member? gs m.key = some none → MemberIs accepts gs m := by
    intro hgs v hv
    rw [hgs] at hv
    cases hv
  intro x hx
  obtain ⟨o, ho, hfx⟩ := Option.bind_eq_some_iff.1 hx
  cases o with
  | none =>
      have hgs := h.missing ho
      refine ⟨fun _ => ?_, fun _ _ => hnone hgs⟩
      rw [hgs, Option.bind_some, ← hmissing, hfx]
  | some v =>
      rcases h.present ho with ⟨hdefault, hgs⟩ | ⟨w, hgs, hrearranged⟩
      · refine ⟨fun _ => ?_, fun _ _ => hnone hgs⟩
        rw [hgs, Option.bind_some, hgone v x hdefault hfx]
      · obtain ⟨hsame, hneeds⟩ := hpresent v w hrearranged x hfx
        rw [hgs, Option.bind_some]
        refine ⟨fun hm => hsame (hm w hgs), fun y hy u hu => ?_⟩
        obtain rfl : w = u := by simpa [hgs] using hu
        exact hneeds y hy

/-- A member that has to be there. -/
theorem required (h : MemberFollows fs gs (.required key kind))
    (hdecode : ∀ v w, Rearranged kind v w → Agrees (accepts kind w) (decode v) (decode' w)) :
    Agrees (MemberIs accepts gs (.required key kind)) (required fs key decode)
      (required gs key decode') :=
  h.agrees rfl (fun _ _ h => h.elim) hdecode

/-- A member with a default, which is the value of every member that may as well be missing. -/
theorem defaulted {m : KnownMember} (h : MemberFollows fs gs m) {default : α}
    (hdefault : ∀ v x, m.isDefault v → decode v = some x → x = default)
    (hdecode : ∀ v w, Rearranged m.kind v w → Agrees (accepts m.kind w) (decode v) (decode' w)) :
    Agrees (MemberIs accepts gs m) (defaulted fs m.key default decode)
      (defaulted gs m.key default decode') :=
  h.agrees rfl (fun v x hv hx => congrArg some (hdefault v x hv hx).symm) hdecode

/-- A member with an object as its default, which is the same value in every context. -/
theorem defaultedObject {ι : Type} {o : ObjectKind} {decodeIn : ι → Value → Option α} {default : α}
    (h : MemberFollows fs gs (.defaultedObject key o decodeIn default))
    (hdefault : ∀ i v x, decodeIn i v = some default → decode v = some x → x = default)
    (hdecode : ∀ v w, Rearranged (.object o) v w →
      Agrees (accepts (.object o) w) (decode v) (decode' w)) :
    Agrees (MemberIs accepts gs (.defaultedObject key o decodeIn default))
      (Json.Decode.defaulted fs key default decode)
      (Json.Decode.defaulted gs key default decode') := by
  refine h.defaulted ?_ hdecode
  rintro v x ⟨i, hi⟩ hx
  exact hdefault i v x hi hx

/-- A member that may be missing or `null`. -/
theorem optional (h : MemberFollows fs gs (.optional key kind)) (hnull : accepts kind .null)
    (hdecode : ∀ v w, Rearranged kind v w → Agrees (accepts kind w) (decode v) (decode' w)) :
    Agrees (MemberIs accepts gs (.optional key kind)) (optional fs key decode)
      (optional gs key decode') := by
  refine h.agrees rfl ?_ fun v w hrearranged => ?_
  · rintro v x rfl hx
    exact hx
  · by_cases hv : v = .null
    · obtain rfl := hv
      obtain rfl := hrearranged.eq_null_iff.1 rfl
      exact .refl hnull _
    · have hw : w ≠ .null := fun hw => hv (hrearranged.eq_null_iff.2 hw)
      have hread : Agrees (accepts kind w) ((decode v).map some) ((decode' w).map some) := by
        rw [Option.map_eq_bind, Option.map_eq_bind]
        exact (hdecode v w hrearranged).bind_same fun x => some (some x)
      split
      · next heq => cases heq
      · next heq => exact absurd (Option.some.inj heq) hv
      · next heq =>
          obtain rfl := Option.some.inj heq
          exact hread

/-- A plain member that has to be there. -/
theorem plainRequired (h : MemberFollows fs gs (.required key))
    (hplain : ∀ v, accepts .plain v) :
    Agrees (MemberIs accepts gs (.required key)) (Json.Decode.required fs key decode)
      (Json.Decode.required gs key decode) :=
  h.required (agrees_plain decode hplain)

/-- A plain member with a default. -/
theorem plainDefaulted {default : α} (h : MemberFollows fs gs (.defaulted key decode default))
    (hplain : ∀ v, accepts .plain v) :
    Agrees (MemberIs accepts gs (.defaulted key decode default))
      (Json.Decode.defaulted fs key default decode) (Json.Decode.defaulted gs key default decode) :=
  h.defaulted (fun _ _ hv hx => Option.some.inj (hx.symm.trans hv)) (agrees_plain decode hplain)

/-- A plain member that may be missing or `null`. -/
theorem plainOptional (h : MemberFollows fs gs (.optional key))
    (hplain : ∀ v, accepts .plain v) :
    Agrees (MemberIs accepts gs (.optional key)) (Json.Decode.optional fs key decode)
      (Json.Decode.optional gs key decode) :=
  h.optional (hplain _) (agrees_plain decode hplain)

/-- A list that may be empty. -/
theorem list {item item' : Nat → Value → Option α} {room : Nat} {o : ObjectKind}
    (h : MemberFollows fs gs (.list key o))
    (hlist : ∀ v w, Rearranged (.list (.object o)) v w →
      Agrees (accepts (.list (.object o)) w) (Json.Decode.list item room v)
        (Json.Decode.list item' room w)) :
    Agrees (MemberIs accepts gs (.list key o))
      (Json.Decode.defaulted fs key [] (Json.Decode.list item room))
      (Json.Decode.defaulted gs key [] (Json.Decode.list item' room)) := by
  refine h.defaulted ?_ hlist
  rintro _ xs rfl hxs
  cases room with
  | zero => cases hxs
  | succ r => exact (Option.some.inj hxs).symm

end MemberFollows

end Fields

namespace Rearranged

variable {α : Type} {o : ObjectKind} {v w : Value} {accepts : Prop}

/-- A record, the fields of which are read in agreement. -/
theorem agrees_fields {f f' : Fields → Option α} (h : Rearranged (.object o) v w)
    (hf : ∀ fs gs, o.fields? w = some gs → (∀ m ∈ o.known fs, MemberFollows fs gs m) →
      Agrees accepts (f fs) (f' gs)) :
    Agrees accepts ((o.fields? v).bind f) ((o.fields? w).bind f') := by
  intro x hx
  obtain ⟨fs, hfs, hread⟩ := Option.bind_eq_some_iff.1 hx
  obtain ⟨gs, hgs, hmembers⟩ := h.exists_fields hfs
  rw [hgs, Option.bind_some]
  exact hf fs gs hgs hmembers x hread

/-- A record in some room, the fields of which are read in agreement. -/
theorem agrees_record {content content' : Nat → Fields → Option α} {room : Nat}
    (h : Rearranged (.object o) v w) (ho : o.least = 0)
    (hcontent : ∀ r fs gs, room = r + 1 → o.fields? w = some gs →
      (∀ m ∈ o.known fs, MemberFollows fs gs m) → Agrees accepts (content r fs) (content' r gs)) :
    Agrees accepts (record o.names content room v) (record o.names content' room w) := by
  cases room with
  | zero => exact .none
  | succ r =>
      have hfields := h.agrees_fields fun fs gs => hcontent r fs gs rfl
      rwa [ObjectKind.fields?, ho] at hfields

end Rearranged

/-! ### Words -/

/-- A word is a text, or the key of an object with nothing under it, for which there is room. -/
theorem variant_eq_some_iff {buffered : Bool} {room : Nat} {v : Value} {s : String} :
    variant buffered room v = some s ↔
      v = .text s ∨
        room ≠ 0 ∧ ∃ content, isUnit buffered content = true ∧ v = .record [(s, content)] := by
  constructor
  · intro h
    unfold variant at h
    split at h
    · exact .inl (congrArg Value.string h)
    · obtain ⟨hunit, rfl⟩ := Option.ite_none_right_eq_some.1 h
      exact .inr ⟨by simp, _, hunit, rfl⟩
    · cases h
  · rintro (rfl | ⟨hroom, content, hunit, rfl⟩)
    · exact variant_text _ _ _
    · obtain ⟨r, rfl⟩ := Nat.exists_eq_succ_of_ne_zero hroom
      simp [variant, Value.record, hunit]

/-- A document is read as one word only, wherever it stands. -/
theorem eq_of_variant_eq_some {buffered buffered' : Bool} {room room' : Nat} {v : Value}
    {s t : String} (hs : variant buffered room v = some s)
    (ht : variant buffered' room' v = some t) : s = t := by
  rcases variant_eq_some_iff.1 hs with rfl | ⟨-, content, -, rfl⟩
  · rw [variant_text] at ht
    exact Option.some.inj ht
  · rcases variant_eq_some_iff.1 ht with hv | ⟨-, content', -, hv⟩
    · simp [Value.record, Value.text] at hv
    · exact congrArg Prod.fst (List.cons.inj (record_inj.1 hv)).1

/-- A word stands for one value only, wherever it stands. -/
theorem eq_of_word_eq_some {α : Type} {words : List (String × α)} {buffered buffered' : Bool}
    {room room' : Nat} {v : Value} {x y : α} (hx : word words buffered room v = some x)
    (hy : word words buffered' room' v = some y) : x = y := by
  obtain ⟨s, hs, hlookup⟩ := Option.bind_eq_some_iff.1 hx
  obtain ⟨t, ht, hlookup'⟩ := Option.bind_eq_some_iff.1 hy
  obtain rfl := eq_of_variant_eq_some hs ht
  exact Option.some.inj (hlookup.symm.trans hlookup')

/-- Of two documents of a word, the second one is read as the first where nothing stands beside the
word or under it. -/
theorem Rearranged.agrees_variant {v w : Value} (h : Rearranged (.object .word) v w)
    (buffered buffered' : Bool) (room : Nat) :
    Agrees (Readable buffered' room (.object .word) w) (variant buffered room v)
      (variant buffered' room w) := by
  intro s hs
  rw [readable_word]
  rcases variant_eq_some_iff.1 hs with rfl | ⟨hroom, content, -, rfl⟩
  · obtain rfl : w = .text s := by cases h; rfl
    refine ⟨fun _ => variant_text _ _ _, fun _ _ fs hfs => ?_⟩
    simp [Value.record, Value.text] at hfs
  · obtain ⟨gs, rfl, hmembers⟩ := h.exists_record
    have hword : member? [(s, content)] s = some (some content) := member?_cons_self (by simp)
    have hfollows := hmembers (.required s (.object .unit)) List.mem_cons_self
    obtain ⟨hdefault, -⟩ | ⟨u, hu, -⟩ := hfollows.present hword
    · exact hdefault.elim
    constructor
    · intro honly
      obtain ⟨key, content', rfl, hunit⟩ := honly gs rfl
      obtain rfl : s = key := congrArg Prod.fst (List.mem_singleton.1 (mem_of_member? hu))
      exact variant_eq_some_iff.2 (.inr ⟨hroom, content', hunit, rfl⟩)
    · intro y hy fs hfs
      obtain hv | ⟨-, content', hunit, hv⟩ := variant_eq_some_iff.1 hy
      · simp [Value.record, Value.text] at hv
      · exact ⟨y, content', record_inj.1 (hfs.symm.trans hv), hunit⟩

/-! ### Decoders -/

/-- Two decoders that agree on every document of a kind and what it is rearranged to, which stands
in a stored tree or does not. -/
def Alike {α : Type} (buffered : Bool) (k : DocumentKind)
    (decode decode' : Nat → Value → Option α) : Prop :=
  ∀ room v w, Rearranged k v w →
    Agrees (Readable buffered room k w) (decode room v) (decode' room w)

namespace Alike

variable {α : Type} {buffered : Bool} {k : DocumentKind} {o : ObjectKind}

/-- Lists of what is decoded alike are decoded alike. -/
theorem list {item item' : Nat → Value → Option α} (h : Alike buffered k item item') :
    Alike buffered (.list k) (list item) (list item') :=
  fun _ => agrees_readable_list fun r v w _ => h r v w

/-- Words, within stored trees and elsewhere. -/
theorem word (words : List (String × α)) (buffered buffered' : Bool) :
    Alike buffered' (.object .word) (word words buffered) (word words buffered') :=
  fun room _ _ h => (h.agrees_variant buffered buffered' room).bind_same _

/-- Records without a tag. -/
theorem record {content content' : Nat → Fields → Option α} (ho : o.isTagged = false)
    (hcontent : ∀ room fs gs, (∀ m ∈ o.known fs, MemberFollows fs gs m) →
      Agrees (∀ m ∈ o.known gs, MemberIs (Readable buffered room) gs m) (content room fs)
        (content' room gs)) :
    Alike buffered (.object o) (record o.names content) (record o.names content') := by
  intro room v w hvw
  have hleast : o.least = 0 := by cases o <;> first | rfl | cases ho
  refine hvw.agrees_record hleast fun r fs gs hroom hgs hmembers => ?_
  subst hroom
  exact (hcontent r fs gs hmembers).congr (readable_untagged ho hgs).symm

end Alike

end Companion
