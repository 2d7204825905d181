import Companion.Compilation.Basic
import Mathlib.Data.List.Nodup

/-!
# Compilations as Tables

A `Compilation` holds its types in a list and their positions in an index by metadata name, and the
two fit. So no name is held twice, a type of a compilation is determined by its name, and what a
look-up by name finds is what the list of types holds.

## Main results

* `eq_of_fullName_eq`: two types of a compilation that share a metadata name are the same type.
* `type?_eq_some_iff`: looking up a name finds exactly the type that has it.
* `resolve?_eq_some_iff`: a reference resolves to exactly the type whose name it gives.
* `index?_eq_some_iff`: the position of a name is that of the type that has it.
* `ofProgram_eq_cases`: a program has a compilation of its types, or a name is repeated.
* `ofProgram_table`: when a program has a compilation, and that its look-ups agree.
-/

namespace Companion.Compilation

variable {c : Compilation}

/-- The names of a compilation are those of its types. -/
theorem mem_names_iff {name : String} : name ∈ c.names ↔ ∃ d ∈ c.types, d.fullName = name := by
  rw [names, List.mem_map]

/-- **The position of a name** is that of the type that has it. -/
theorem index?_eq_some_iff {name : String} {i : Nat} :
    c.index? name = some i ↔ (c.types[i]?).map (·.fullName) = some name :=
  c.indexes name i

/-- A name has a position when a type has it. -/
theorem isSome_index?_iff {name : String} : (c.index? name).isSome = true ↔ name ∈ c.names := by
  simp only [Option.isSome_iff_exists, index?_eq_some_iff, ← List.getElem?_map, names,
    List.mem_iff_getElem?]

/-- **No metadata name is held twice**: the index gives one position for it. -/
theorem nodup_map_fullName (c : Compilation) : (c.types.map (·.fullName)).Nodup := by
  rw [List.nodup_iff_getElem?_ne_getElem?]
  intro i j hij hj hsame
  rw [List.getElem?_map, List.getElem?_map] at hsame
  obtain ⟨d, hd⟩ : ∃ d, c.types[j]? = some d := ⟨_, List.getElem?_eq_getElem (by simpa using hj)⟩
  have hi : c.index? d.fullName = some i := index?_eq_some_iff.2 (by rw [hsame, hd]; rfl)
  have hj : c.index? d.fullName = some j := index?_eq_some_iff.2 (by rw [hd]; rfl)
  exact Nat.ne_of_lt hij (Option.some.inj (hi.symm.trans hj))

/-- **A metadata name belongs to one type.** -/
theorem eq_of_fullName_eq {d e : TypeDef} (hd : d ∈ c.types) (he : e ∈ c.types)
    (h : d.fullName = e.fullName) : d = e :=
  List.inj_on_of_nodup_map c.nodup_map_fullName hd he h

/-- **Looking up a name** finds exactly the type that has it. -/
theorem type?_eq_some_iff {name : String} {d : TypeDef} :
    c.type? name = some d ↔ d ∈ c.types ∧ d.fullName = name := by
  simp only [type?, Option.bind_eq_some_iff, index?_eq_some_iff, List.mem_iff_getElem?]
  constructor
  · rintro ⟨i, hname, hd⟩
    rw [hd] at hname
    exact ⟨⟨i, hd⟩, Option.some.inj hname⟩
  · rintro ⟨⟨i, hd⟩, rfl⟩
    exact ⟨i, by rw [hd, Option.map_some], hd⟩

/-- A reference resolves to exactly the type whose name it gives. -/
theorem resolve?_eq_some_iff {t : TypeRef} {d : TypeDef} :
    c.resolve? t = some d ↔ d ∈ c.types ∧ t.definitionName? = some d.fullName := by
  simp only [resolve?, Option.bind_eq_some_iff, type?_eq_some_iff]
  constructor
  · rintro ⟨name, hname, hd, rfl⟩
    exact ⟨hd, hname⟩
  · rintro ⟨hd, hname⟩
    exact ⟨d.fullName, hname, hd, rfl⟩

/-- A construction of a type resolves to the type. -/
theorem resolve?_named {d : TypeDef} (hd : d ∈ c.types) (args : List TypeRef) :
    c.resolve? (.named d.fullName args) = some d :=
  resolve?_eq_some_iff.2 ⟨hd, rfl⟩

/-- A compilation contains the types of its names. -/
theorem contains_iff {name : String} : c.contains name = true ↔ name ∈ c.names :=
  isSome_index?_iff

/-- A name is contained when a type is found under it: no position lies outside of the list. -/
theorem contains_eq_isSome_type? (c : Compilation) (name : String) :
    c.contains name = (c.type? name).isSome := by
  rw [Bool.eq_iff_iff, contains_iff, mem_names_iff]
  simp only [Option.isSome_iff_exists, type?_eq_some_iff]

/-- No well-known type is missing exactly when the names of all are there. -/
theorem requireWellKnownTypes_eq_ok_iff :
    c.requireWellKnownTypes = .ok () ↔ ∀ name ∈ wellKnownTypes, name ∈ c.names := by
  rw [requireWellKnownTypes]
  split
  · next name hfound =>
      have hmissing := List.find?_some hfound
      rw [Bool.not_eq_true', ← Bool.not_eq_true, contains_iff] at hmissing
      simp only [reduceCtorEq, false_iff, not_forall]
      exact ⟨name, List.mem_of_find?_eq_some hfound, hmissing⟩
  · next hnone =>
      have hthere := List.find?_eq_none.1 hnone
      simpa only [Bool.not_eq_true', Bool.not_eq_false, contains_iff, true_iff] using hthere

/-! ### Building the table -/

/-- A name is taken when the index has a position for it. -/
theorem lookup_eq_none_iff {name : String} :
    c.positions.lookup name = none ↔ name ∉ c.types.map (·.fullName) := by
  rw [← Option.not_isSome_iff_eq_none]
  exact not_congr isSome_index?_iff

/-- A type whose name is not taken comes last, in the list and in the index. -/
theorem exists_insert_eq_ok {d : TypeDef} (h : d.fullName ∉ c.types.map (·.fullName)) :
    ∃ c', c.insert d = .ok c' ∧ c'.types = c.types ++ [d] ∧ c'.assembly = c.assembly := by
  rw [insert]
  split
  · next hfound => simp [lookup_eq_none_iff.2 h] at hfound
  · exact ⟨_, rfl, rfl, rfl⟩

/-- A type whose name is taken is refused, before the list or the index change. -/
theorem insert_eq_error {d : TypeDef} (h : d.fullName ∈ c.types.map (·.fullName)) :
    c.insert d = .error (.duplicateType d.fullName) := by
  rw [insert]
  split
  · rfl
  · next hfree => exact absurd h (lookup_eq_none_iff.1 hfree)

/-- Whether a type is the first of a list whose metadata name an earlier one has. -/
def FirstRepeated (ds : List TypeDef) (d : TypeDef) : Prop :=
  ∃ before after, ds = before ++ d :: after ∧ (before.map (·.fullName)).Nodup ∧
    d.fullName ∈ before.map (·.fullName)

/-- Where a name is repeated for the first time, no two types all have their own. -/
theorem FirstRepeated.not_nodup {ds : List TypeDef} {d : TypeDef} (h : FirstRepeated ds d) :
    ¬ (ds.map (·.fullName)).Nodup := by
  obtain ⟨before, after, rfl, -, hrepeated⟩ := h
  intro hnodup
  rw [List.map_append, List.nodup_append] at hnodup
  exact hnodup.2.2 _ hrepeated _ List.mem_cons_self rfl

/-- Types come last, in their order; or a name is repeated, and the first type that repeats one is
reported. -/
theorem foldlM_insert_cases (ds : List TypeDef) (c : Compilation) :
    (∃ c', ds.foldlM insert c = .ok c' ∧ c'.types = c.types ++ ds ∧ c'.assembly = c.assembly) ∨
      ∃ d, FirstRepeated (c.types ++ ds) d ∧
        ds.foldlM insert c = .error (.duplicateType d.fullName) := by
  induction ds generalizing c with
  | nil => exact .inl ⟨c, rfl, (List.append_nil _).symm, rfl⟩
  | cons d ds ih =>
      rw [List.foldlM_cons]
      by_cases htaken : d.fullName ∈ c.types.map (·.fullName)
      · exact .inr ⟨d, ⟨c.types, ds, rfl, c.nodup_map_fullName, htaken⟩, by
          rw [insert_eq_error htaken]; rfl⟩
      · obtain ⟨c₁, hinsert, htypes, hassembly⟩ := exists_insert_eq_ok htaken
        have hrest := ih c₁
        rw [htypes, List.append_assoc, List.singleton_append, hassembly] at hrest
        rw [hinsert]
        exact hrest

/-- **A program has a compilation** of its types and its assembly; or a name is repeated, and the
first type that repeats one is reported. -/
theorem ofProgram_eq_cases (p : Program) :
    (∃ c, ofProgram p = .ok c ∧ c.types = declaredTypes p ∧ c.assembly = p.assembly) ∨
      ∃ d, FirstRepeated (declaredTypes p) d ∧
        ofProgram p = .error (.duplicateType d.fullName) :=
  foldlM_insert_cases (declaredTypes p) (empty p.assembly)

/-- A program has a compilation, or a name is taken, and then it is repeated. -/
theorem ofProgram_cases (p : Program) :
    (∃ c, ofProgram p = .ok c ∧ c.types = declaredTypes p ∧ c.assembly = p.assembly) ∨
      ¬ ((declaredTypes p).map (·.fullName)).Nodup ∧
        ∃ name, ofProgram p = .error (.duplicateType name) :=
  (ofProgram_eq_cases p).imp_right fun ⟨_, hfirst, herror⟩ => ⟨hfirst.not_nodup, _, herror⟩

/-- The compilation of a program has its types and its assembly. -/
theorem types_of_ofProgram {p : Program} (hc : ofProgram p = .ok c) :
    c.types = declaredTypes p ∧ c.assembly = p.assembly := by
  rcases ofProgram_cases p with ⟨c', hc', htypes, hassembly⟩ | ⟨-, name, herror⟩
  · cases hc'.symm.trans hc
    exact ⟨htypes, hassembly⟩
  · cases herror.symm.trans hc

/-- What holds of the core types and of the types of a program holds of all types of its
compilation. -/
theorem forall_types_of_ofProgram {p : Program} (hc : ofProgram p = .ok c) {P : TypeDef → Prop}
    (hcore : ∀ d ∈ CoreLibrary.types, P d) (h : ∀ d ∈ p.types, P d) : ∀ d ∈ c.types, P d := by
  rw [(types_of_ofProgram hc).1, declaredTypes, List.forall_mem_append]
  refine ⟨?_, h⟩
  split
  · exact hcore
  · simp

/-- **A program in which no metadata name is repeated** has a compilation, of its types. -/
theorem exists_ofProgram_eq_ok {p : Program}
    (h : ((declaredTypes p).map (·.fullName)).Nodup) :
    ∃ c, ofProgram p = .ok c ∧ c.types = declaredTypes p := by
  obtain ⟨c, hc, htypes, -⟩ := (ofProgram_cases p).resolve_right fun hrepeated => hrepeated.1 h
  exact ⟨c, hc, htypes⟩

/-- **The table of a program.** A program has no compilation exactly when two of its types, the
core types included, share a metadata name, and then the first type that repeats a name is
reported. Otherwise the compilation holds exactly these types in this order; the position of a name
is that of the one type that has it, and all other look-ups give what stands at that position. -/
theorem ofProgram_table (p : Program) :
    ((∃ e, ofProgram p = .error e) ↔ ¬ ((declaredTypes p).map (·.fullName)).Nodup) ∧
      match ofProgram p with
      | .error e => ∃ d, FirstRepeated (declaredTypes p) d ∧ e = .duplicateType d.fullName
      | .ok c =>
        c.types = declaredTypes p ∧ c.assembly = p.assembly ∧
          (∀ name i, c.index? name = some i ↔ (c.types[i]?).map (·.fullName) = some name) ∧
          (∀ name, c.contains name = (c.index? name).isSome) ∧
          (∀ name, c.type? name = (c.index? name).bind (c.types[·]?)) ∧
          ∀ t, c.resolve? t = (t.definitionName?.bind c.index?).bind (c.types[·]?) := by
  rcases ofProgram_eq_cases p with ⟨c, hc, htypes, hassembly⟩ | ⟨d, hfirst, herror⟩
  · have hdistinct : ((declaredTypes p).map (·.fullName)).Nodup := htypes ▸ c.nodup_map_fullName
    rw [hc]
    exact ⟨by simp [hdistinct], htypes, hassembly, fun _ _ => index?_eq_some_iff, fun _ => rfl,
      fun _ => rfl, fun t => by rw [Option.bind_assoc]; rfl⟩
  · rw [herror]
    exact ⟨by simp [hfirst.not_nodup], d, hfirst, rfl⟩

end Companion.Compilation
