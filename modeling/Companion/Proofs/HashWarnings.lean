import Companion.Proofs.EqualityUnit

/-!
# Members Without a Hash

A member whose type has no hash is left out of the hash, and the unit warns of it. Both hash methods
of a unit may have such members, and they warn as one: a name is warned of once, whichever members
have it and however many sets they are in.

## Main results

* `Pass.hashWarnings_hashBody`: which members a hash body warns of.
* `EqualityUnit.hashWarnings_code`: which members a unit warns of.
* `EqualityUnit.nodup_names_warned`, `EqualityUnit.mem_of_mem_warned`,
  `EqualityUnit.mem_names_warned`: each name of a member without hash is warned of, and once.
-/

namespace Companion

open Piece

/-! ### Members without hash -/

/-- Only what has no hash has no expression for it. -/
theorem HashSource.isNone_expression? (source : HashSource) (name : String) :
    (source.expression? name).isNone = (source == .missing) := by
  cases source <;> rfl

namespace Pass

variable (pass : Pass) (d : TypeDef)

/-- A member without an expression for its hash is one that cannot be hashed. -/
theorem isNone_expression? (m : EqualityMember) :
    ((pass.hashSource d m).expression? m.name).isNone = pass.isUnhashable d m :=
  HashSource.isNone_expression? _ _

/-- The members that a hash body warns of, where those of the reported names were warned of
before: each member without hash whose name is new. -/
def warned : List String → List EqualityMember → List EqualityMember
  | _, [] => []
  | reported, m :: ms =>
    if pass.isUnhashable d m then
      if reported.contains m.name then warned (m.name :: reported) ms
      else m :: warned (m.name :: reported) ms
    else warned reported ms

/-- Only members of the list that cannot be hashed are warned of. The induction is on the list, for
every list of names that were reported before. -/
theorem mem_of_mem_warned {m : EqualityMember} :
    ∀ (ms : List EqualityMember) {reported : List String}, m ∈ pass.warned d reported ms →
      m ∈ ms ∧ pass.isUnhashable d m = true := by
  intro ms
  induction ms with
  | nil => exact fun h => absurd h List.not_mem_nil
  | cons m' ms ih =>
      intro reported h
      rw [warned] at h
      split at h
      · next hmissing =>
          split at h
          · exact (ih h).imp_left (List.mem_cons_of_mem _)
          · rcases List.mem_cons.1 h with rfl | h
            · exact ⟨List.mem_cons_self, hmissing⟩
            · exact (ih h).imp_left (List.mem_cons_of_mem _)
      · exact (ih h).imp_left (List.mem_cons_of_mem _)

/-- No name is warned of twice, and none that was warned of before. -/
theorem nodup_names_warned :
    ∀ (ms : List EqualityMember) (reported : List String),
      ((pass.warned d reported ms).map (·.name)).Nodup ∧
        ∀ name ∈ (pass.warned d reported ms).map (·.name), name ∉ reported := by
  intro ms
  induction ms with
  | nil => exact fun _ => ⟨List.nodup_nil, fun _ h => absurd h List.not_mem_nil⟩
  | cons m ms ih =>
      intro reported
      rw [warned]
      split
      · obtain ⟨hnodup, hnew⟩ := ih (m.name :: reported)
        have hbefore : ∀ name ∈ (pass.warned d (m.name :: reported) ms).map (·.name),
            name ∉ reported := fun name h hreported =>
          hnew name h (List.mem_cons_of_mem _ hreported)
        split
        · exact ⟨hnodup, hbefore⟩
        · next hfresh =>
            have hfirst : m.name ∉ (pass.warned d (m.name :: reported) ms).map (·.name) :=
              fun h => hnew _ h List.mem_cons_self
            rw [List.map_cons, List.nodup_cons, List.forall_mem_cons]
            exact ⟨⟨hfirst, hnodup⟩, by simpa using hfresh, hbefore⟩
      · exact ih reported

/-- Every member without hash is warned of, here or before. -/
theorem mem_names_warned {m : EqualityMember} (hmissing : pass.isUnhashable d m = true) :
    ∀ (ms : List EqualityMember) (reported : List String), m ∈ ms →
      m.name ∈ reported ∨ m.name ∈ (pass.warned d reported ms).map (·.name) := by
  intro ms
  induction ms with
  | nil => exact fun _ h => absurd h List.not_mem_nil
  | cons m' ms ih =>
      intro reported hm
      rw [warned]
      rcases List.mem_cons.1 hm with rfl | hm
      · rw [if_pos hmissing]
        split
        · next hreported => exact .inl (by simpa using hreported)
        · exact .inr (by simp)
      · split
        · rcases ih (m'.name :: reported) hm with hreported | hwarned
          · rcases List.mem_cons.1 hreported with hname | hreported
            · split
              · next hcontains => exact .inl (by simpa [hname] using hcontains)
              · exact .inr (by simp [hname])
            · exact .inl hreported
          · split
            · exact .inr hwarned
            · exact .inr (List.mem_cons_of_mem _ hwarned)
        · exact ih reported hm

end Pass

/-! ### The warnings of a unit -/

/-- The warnings that a member has no hash. -/
def hashWarnings (ps : List Piece) : List Diagnostic :=
  (diagnosticsAll ps).filter (·.code == .memberUnhashable)

section HashWarnings

/-- The warnings in two lists of pieces in a row. -/
@[simp] theorem hashWarnings_append (ps qs : List Piece) :
    hashWarnings (ps ++ qs) = hashWarnings ps ++ hashWarnings qs := by
  simp [hashWarnings, diagnosticsAll_append]

/-- Code with other problems only has none of these warnings. -/
theorem hashWarnings_eq_nil {ps : List Piece} (h : .memberUnhashable ∉ codes ps) :
    hashWarnings ps = [] := by
  rw [hashWarnings, List.filter_eq_nil_iff]
  intro found hfound hcode
  exact h (List.mem_map.2 ⟨found, hfound, beq_iff_eq.1 hcode⟩)

/-- The warnings in a block are those in its body. -/
@[simp] theorem hashWarnings_braces (header : String) (body : List Piece) :
    hashWarnings [braces header body] = hashWarnings body := by
  simp [hashWarnings, diagnosticsAll, braces, diagnostics]

/-- The warnings in a region are those in its body. -/
@[simp] theorem hashWarnings_region (name : String) (body : List Piece) :
    hashWarnings [.region name body] = hashWarnings body := by
  simp [hashWarnings, diagnosticsAll, diagnostics]

@[simp] theorem hashWarnings_inNamespace (name : String) (body : List Piece) :
    hashWarnings [.inNamespace name body] = hashWarnings body := by
  simp [hashWarnings, diagnosticsAll, diagnostics]

/-- Blank lines between groups warn of nothing. -/
@[simp] theorem hashWarnings_separated (groups : List (List Piece)) :
    hashWarnings (separated groups) = groups.flatMap hashWarnings := by
  have hone : ∀ ps, hashWarnings ps =
      ps.flatMap fun p => (diagnostics p).filter (·.code == .memberUnhashable) := by
    intro ps
    induction ps with
    | nil => rfl
    | cons p ps ih => simp [hashWarnings, diagnosticsAll, ← ih]
  rw [hone, flatMap_separated _ rfl]
  exact List.flatMap_congr fun group _ => (hone group).symm

end HashWarnings

namespace Pass

variable (pass : Pass) (d : TypeDef)

/-- A member that cannot be hashed is warned of unless its name was reported before. -/
theorem hashWarnings_memberHash (reported : List String) (position : Nat) (m : EqualityMember) :
    hashWarnings (pass.memberHash d reported position m) =
      if pass.isUnhashable d m && !reported.contains m.name then [unhashable d m] else [] := by
  rw [memberHash, hashWarnings_append, hashWarnings_eq_nil (by simp), List.nil_append,
    ← pass.isNone_expression? d m]
  cases (pass.hashSource d m).expression? m.name with
  | none =>
      cases hreported : reported.contains m.name with
      | true => rw [if_pos rfl]; rfl
      | false => rfl
  | some expression =>
      refine hashWarnings_eq_nil ?_
      cases pass.hashGuard? d m <;> simp

/-- The members of a set warn as the names reported so far let them. -/
theorem hashWarnings_memberHashes :
    ∀ (ms : List EqualityMember) (reported : List String) (position : Nat),
      (pass.memberHashes d reported position ms).flatMap hashWarnings =
        (pass.warned d reported ms).map (unhashable d) := by
  intro ms
  induction ms with
  | nil => exact fun _ _ => rfl
  | cons m ms ih =>
      intro reported position
      rw [memberHashes, List.flatMap_cons, hashWarnings_memberHash, ih, warned]
      cases pass.isUnhashable d m <;> cases reported.contains m.name <;> rfl

/-- **The warnings of a hash body.** -/
theorem hashWarnings_hashBody (reported : List String) (members : List EqualityMember)
    (baseCall : Option String) :
    hashWarnings (pass.hashBody d reported members baseCall) =
      (pass.warned d reported members).map (unhashable d) := by
  have hline : ∀ text : String, hashWarnings [.line text] = [] :=
    fun text => hashWarnings_eq_nil (by simp)
  unfold hashBody
  split
  · next hempty =>
      rw [Bool.and_eq_true, List.isEmpty_iff] at hempty
      rw [hempty.1, warned, List.map_nil]
      exact hashWarnings_eq_nil (by simp)
  · cases members with
    | nil => exact hashWarnings_eq_nil (by simp)
    | cons m ms =>
        rw [if_neg (by simp), hashWarnings_append, hashWarnings_append, hline, hline,
          hashWarnings_braces, hashWarnings_separated, hashWarnings_memberHashes,
          List.nil_append, List.append_nil]

end Pass

namespace EqualityUnit

variable (u : EqualityUnit)

/-- The members that a unit warns of: those of the hash set first, then those of the key set whose
names are new. -/
def warned : List EqualityMember :=
  u.pass.warned u.definition [] u.members.hash ++
    if u.declaresKeyEquality then
      u.pass.warned u.definition u.unhashableNames u.members.key
    else []

/-- The code for the hash warns of the members without a hash. -/
theorem hashWarnings_hashCode :
    hashWarnings u.hashCode = (u.pass.warned u.definition [] u.members.hash).map
      (Pass.unhashable u.definition) := by
  have hwarnings : hashWarnings u.baseHashCall.1 = [] := by
    refine hashWarnings_eq_nil ?_
    rw [codes_baseHashCall]
    split <;> simp
  rw [hashCode, hashWarnings_region, hashWarnings_append, hashWarnings_eq_nil (by simp),
    hashWarnings_braces, hashWarnings_append, hwarnings, Pass.hashWarnings_hashBody,
    List.nil_append, List.nil_append]

/-- The code for the hash of the key warns of those members of the key of which the other hash does
not. -/
theorem hashWarnings_keyEquality :
    hashWarnings u.keyEquality = (u.pass.warned u.definition u.unhashableNames u.members.key).map
      (Pass.unhashable u.definition) := by
  rw [keyEquality, hashWarnings_region, hashWarnings_append, hashWarnings_braces,
    Pass.hashWarnings_hashBody, hashWarnings_eq_nil, List.nil_append]
  simp

/-- **The warnings of a unit** that a member has no hash. -/
theorem hashWarnings_code :
    hashWarnings u.code = u.warned.map (Pass.unhashable u.definition) := by
  have htop : hashWarnings (unitHeader .equality ["System"]) = [] :=
    hashWarnings_eq_nil (by simp [unitHeader])
  have hpartial : ∀ message, hashWarnings (if u.definition.isPartial then []
      else [u.warning .equalityNotPartial message]) = [] := by
    intro message
    refine hashWarnings_eq_nil ?_
    split <;> simp [warning]
  have hunavailable : ∀ message, hashWarnings
      (if u.wantsKeyEquality && !u.declaresKeyEquality then
        [u.warning .keyEqualityUnavailable message] else []) = [] := by
    intro message
    refine hashWarnings_eq_nil ?_
    split <;> simp [warning]
  have hequals : hashWarnings u.innerEquals = [] := by
    refine hashWarnings_eq_nil ?_
    rw [codes_innerEquals, methodBody, codes_append, codes_append, codes_baseEqualsCall,
      codes_comparisonBody]
    split_ifs <;> simp
  have hstatic : hashWarnings u.staticEquals = [] := hashWarnings_eq_nil (by simp)
  have htyped : hashWarnings u.typedEquals = [] := hashWarnings_eq_nil (by simp)
  have huntyped : hashWarnings u.untypedEquals = [] := hashWarnings_eq_nil (by simp)
  have hoperator : ∀ symbol result summary,
      hashWarnings (u.operator symbol result summary) = [] := fun _ _ _ =>
    hashWarnings_eq_nil (by simp)
  have hkey : hashWarnings (if u.declaresKeyEquality then u.keyEquality else []) =
      (if u.declaresKeyEquality then
        u.pass.warned u.definition u.unhashableNames u.members.key
      else []).map (Pass.unhashable u.definition) := by
    split
    · exact u.hashWarnings_keyEquality
    · rfl
  rw [code, hashWarnings_append, htop, hashWarnings_inNamespace, hashWarnings_append, hpartial,
    hashWarnings_braces, memberCode, hashWarnings_append, hunavailable, hashWarnings_separated]
  simp only [List.flatMap_cons, List.flatMap_nil, hstatic, htyped, huntyped, hequals, hoperator,
    hashWarnings_hashCode, hkey, List.nil_append, List.append_nil, warned, List.map_append]

/-- The hash methods of a unit, each with the members that it takes in. -/
inductive Hashes : EqualityMethod → List EqualityMember → Prop
  | hash : Hashes .hash u.members.hash
  | keyHash (h : u.declaresKeyEquality = true) : Hashes .keyHash u.members.key

/-- **A unit warns of a name once.** -/
theorem nodup_names_warned : (u.warned.map (·.name)).Nodup := by
  have hhash := u.pass.nodup_names_warned u.definition u.members.hash []
  rw [warned, List.map_append, List.nodup_append]
  split
  · have hkey := u.pass.nodup_names_warned u.definition u.members.key u.unhashableNames
    refine ⟨hhash.1, hkey.1, ?_⟩
    rintro _ hname name hname' rfl
    obtain ⟨m, hm, rfl⟩ := List.mem_map.1 hname
    obtain ⟨hmem, hmissing⟩ := u.pass.mem_of_mem_warned u.definition _ hm
    exact hkey.2 _ hname' (List.mem_map_of_mem (List.mem_filter.2 ⟨hmem, hmissing⟩))
  · exact ⟨hhash.1, List.nodup_nil, fun _ _ _ h => absurd h List.not_mem_nil⟩

/-- A unit warns of members without hash that its methods are to take in. -/
theorem mem_of_mem_warned {m : EqualityMember} (h : m ∈ u.warned) :
    u.pass.isUnhashable u.definition m = true ∧
      ∃ method members, u.Hashes method members ∧ m ∈ members := by
  rw [warned, List.mem_append] at h
  rcases h with h | h
  · obtain ⟨hmem, hmissing⟩ := u.pass.mem_of_mem_warned u.definition _ h
    exact ⟨hmissing, _, _, .hash, hmem⟩
  · split at h
    · next hkey =>
        obtain ⟨hmem, hmissing⟩ := u.pass.mem_of_mem_warned u.definition _ h
        exact ⟨hmissing, _, _, .keyHash hkey, hmem⟩
    · cases h

/-- The name of each member without hash is warned of. -/
theorem mem_names_warned {method : EqualityMethod} {members : List EqualityMember}
    (h : u.Hashes method members) {m : EqualityMember} (hm : m ∈ members)
    (hmissing : u.pass.isUnhashable u.definition m = true) :
    m.name ∈ u.warned.map (·.name) := by
  have hhash : ∀ m ∈ u.members.hash, u.pass.isUnhashable u.definition m = true →
      m.name ∈ u.warned.map (·.name) := by
    intro m hm hmissing
    rw [warned, List.map_append]
    exact List.mem_append_left _
      ((u.pass.mem_names_warned u.definition hmissing _ [] hm).resolve_left List.not_mem_nil)
  cases h with
  | hash => exact hhash m hm hmissing
  | keyHash hkey =>
      rcases u.pass.mem_names_warned u.definition hmissing _ u.unhashableNames hm with hname | hname
      · obtain ⟨m', hm', hsame⟩ := List.mem_map.1 hname
        obtain ⟨hm', hmissing'⟩ := List.mem_filter.1 hm'
        rw [← hsame]
        exact hhash m' hm' hmissing'
      · rw [warned, if_pos hkey, List.map_append]
        exact List.mem_append_right _ hname

end EqualityUnit

end Companion
