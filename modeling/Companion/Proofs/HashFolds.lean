import Companion.Proofs.Directives
import Companion.Proofs.HashWarnings
import Companion.Proofs.InheritedEquality

/-!
# The Folds of a Hash

A hash method takes in one member of its set after the other, each by a line of its own: a fold. The
prime of a fold goes by the position of the member in the set, so members without hash count though
they have no fold. A member that may hold no value is taken in under the condition that it holds
one.

Folds are found in the code by how they begin, with the blocks around them. In the text of a unit
without further line feeds the rows of a hash method stand together, and the rows among them that
begin like folds are the folds.

## Main results

* `Pass.exists_infix_split_unit`: the lines of a block in the text of a unit.
* `Pass.folds_hashBody`, `Pass.forall₂_takesIn`: the folds of a hash body.
* `hash_methods_take_members_in`: both hash methods of a unit, and its warnings.
-/

namespace Companion

open Piece

/-! ### Blocks in the text of a unit -/

namespace Piece

variable {header : String} {body : List Piece}

mutual

/-- The rows of a block stand together. -/
theorem exists_rowsAll_infix_rows (level : Nat) : ∀ p : Piece, body ∈ bodies header p →
    ∃ level', rowsAll level' body <:+: rows level p
  | .line _, h | .blank, h | .indent, h | .dedent, h | .diagnostic _, h => by simp [bodies] at h
  | .block opening close inner, h => by
      simp only [bodies, List.mem_append, List.mem_ite_nil_right, List.mem_singleton] at h
      rw [rows]
      rcases h with ⟨-, rfl⟩ | h
      · exact ⟨level + 1, List.infix_append _ _ _⟩
      · obtain ⟨level', hinner⟩ := exists_rowsAll_infix_rowsAll (level + 1) inner h
        exact ⟨level', hinner.trans (List.infix_append _ _ _)⟩
  | .region name inner, h => by
      simp only [bodies] at h
      obtain ⟨level', hinner⟩ := exists_rowsAll_infix_rowsAll level inner h
      rw [rows]
      exact ⟨level', hinner.trans (List.infix_append _ _ _)⟩
  | .inNamespace name inner, h => by
      simp only [bodies] at h
      rw [rows]
      split
      · exact exists_rowsAll_infix_rowsAll level inner h
      · obtain ⟨level', hinner⟩ := exists_rowsAll_infix_rowsAll (level + 1) inner h
        exact ⟨level', hinner.trans (List.infix_append _ _ _)⟩

/-- A body within pieces is laid out among their rows, next to one another. -/
theorem exists_rowsAll_infix_rowsAll (level : Nat) : ∀ ps : List Piece,
    body ∈ bodiesAll header ps → ∃ level', rowsAll level' body <:+: rowsAll level ps
  | [], h => by simp at h
  | p :: ps, h => by
      rw [bodiesAll_cons, List.mem_append] at h
      rw [rowsAll]
      rcases h with h | h
      · obtain ⟨level', hbody⟩ := exists_rowsAll_infix_rows level p h
        exact ⟨level', hbody.trans (List.prefix_append _ _).isInfix⟩
      · obtain ⟨level', hbody⟩ := exists_rowsAll_infix_rowsAll level ps h
        exact ⟨level', hbody.trans (List.suffix_append _ _).isInfix⟩

end

end Piece

/-- **The lines of a block** stand together in the text of a unit. -/
theorem Pass.exists_infix_split_unit {pass : Pass} {d : TypeDef}
    (h : pass.compilation.IsOneLine) (hd : d ∈ pass.compilation.types) (generator : Generator)
    {header : String} {front : List Piece} {last : String}
    (hbody : front ++ [.line last] ∈ bodiesAll header (pass.unitCode generator d))
    (hlast : last ≠ "") :
    ∃ level, (rowsAll level (front ++ [.line last])).map Row.text <:+:
      Text.split '\n' (pass.unit generator d).text := by
  obtain ⟨level, hrows⟩ := exists_rowsAll_infix_rowsAll 0 _ hbody
  have hend : rowsAll level (front ++ [.line last]) = rowsAll level front ++ [⟨level, last⟩] := by
    simp only [rowsAll_append, rowsAll, rows, List.append_nil]
  have hlaid : rowsAll level (front ++ [.line last]) <:+: laidOut (pass.unitCode generator d) := by
    rw [hend] at hrows ⊢
    exact infix_laidOut hrows (by simpa [Row.isBlank] using hlast)
  have hsplit : Text.split '\n' (pass.unit generator d).text =
      (laidOut (pass.unitCode generator d)).map Row.text ++ [""] :=
    split_layOut (fun _ hline => hline.1) (Pass.writtenAll_unitCode h hd generator)
      (Pass.laidOut_unitCode_ne_nil generator)
  rw [hsplit]
  exact ⟨level, (hlaid.map _).trans (List.prefix_append _ _).isInfix⟩

/-! ### Folds -/

/-- Whether a line takes a hash in. -/
def isFold (s : String) : Bool := "hash = (".toList.isPrefixOf s.toList

/-- A text that begins with another character is no fold. -/
theorem isFold_append_eq_false {c : Char} {cs : List Char} (h : (c != 'h') = true)
    (rest : String) : isFold (String.ofList (c :: cs) ++ rest) = false := by
  have hc : c ≠ 'h' := by simpa using h
  simp [isFold, List.isPrefixOf, hc.symm]

/-- Whether a header opens a condition. -/
def isCondition (header : String) : Bool := "if (".toList.isPrefixOf header.toList

/-- The lines of code that take hashes in, each with the condition on which it does so. -/
def folds (around : List String) (ps : List Piece) : List (Option String × String) :=
  ((placedLinesAll around ps).filter (isFold ·.2)).map fun (headers, s) =>
    (headers.find? isCondition, s)

/-- The rows of code that look like lines that take hashes in. -/
def foldRows (level : Nat) (ps : List Piece) : List String :=
  ((rowsAll level ps).map Row.content).filter isFold

section Folds

variable (around : List String)

@[simp] theorem folds_nil : folds around [] = [] := by
  simp [folds]

/-- The folds of two lists of pieces in a row. -/
@[simp] theorem folds_append (ps qs : List Piece) :
    folds around (ps ++ qs) = folds around ps ++ folds around qs := by
  simp [folds]

/-- The folds within a block have its header around them. -/
@[simp] theorem folds_braces_cons (header : String) (body ps : List Piece) :
    folds around (braces header body :: ps) = folds (header :: around) body ++ folds around ps := by
  simp [folds]

@[simp] theorem folds_diagnostic_cons (found : Diagnostic) (ps : List Piece) :
    folds around (.diagnostic found :: ps) = folds around ps := by
  simp [folds]

/-- A line is a fold if it looks like one, under the nearest condition around it. -/
theorem folds_line_cons (s : String) (ps : List Piece) :
    folds around (.line s :: ps) =
      (if isFold s then [(around.find? isCondition, s)] else []) ++ folds around ps := by
  cases hfold : isFold s <;> simp [folds, hfold]

/-- Lines of which none looks like a fold fold nothing. -/
theorem folds_lines {texts : List String} (h : ∀ s ∈ texts, isFold s = false) :
    folds around (lines texts) = [] := by
  have hnone : texts.filter isFold = [] := by
    simpa [List.filter_eq_nil_iff] using h
  simp [folds, List.filter_map, Function.comp_def, hnone]

/-- Blank lines between groups fold nothing. -/
@[simp] theorem folds_separated (groups : List (List Piece)) :
    folds around (separated groups) = groups.flatMap (folds around) := by
  simp only [folds, placedLinesAll_separated, List.filter_flatMap, List.map_flatMap]
  rfl

end Folds

/-- Whether the folds of code are the rows that look like them. -/
def ShowsFolds (ps : List Piece) : Prop :=
  ∀ around level, foldRows level ps = (folds around ps).map (·.2)

namespace ShowsFolds

/-- Two lists of pieces in a row show their folds if both do. -/
theorem append {ps qs : List Piece} (hps : ShowsFolds ps) (hqs : ShowsFolds qs) :
    ShowsFolds (ps ++ qs) := by
  intro around level
  rw [folds_append, List.map_append, ← hps around level, ← hqs around level]
  simp only [foldRows, rowsAll_append, List.map_append, List.filter_append]

/-- Where there is no piece, no row looks like a fold. -/
theorem nil : ShowsFolds [] := fun around level => by
  simp [foldRows, rowsAll]

/-- A line shows whether it is a fold. -/
theorem line (s : String) : ShowsFolds [.line s] := by
  intro around level
  rw [folds_line_cons]
  cases hfold : isFold s <;> simp [foldRows, rowsAll, rows, hfold]

/-- Lines show their folds. -/
theorem lines (texts : List String) : ShowsFolds (lines texts) := by
  induction texts with
  | nil => exact nil
  | cons s texts ih => exact (line s).append ih

/-- The row of a diagnostic is a comment, and looks like no fold. -/
theorem diagnostic (found : Diagnostic) : ShowsFolds [.diagnostic found] := by
  intro around level
  have hsign := beginsWithSign_of_isDirective (isDirective_embed found)
  have hplain : isFold found.embed = false := by
    rw [Bool.eq_false_iff]
    intro hfold
    obtain ⟨rest, hrest⟩ := List.isPrefixOf_iff_prefix.1 hfold
    rw [BeginsWithSign, ← hrest] at hsign
    simp at hsign
  rw [folds_diagnostic_cons, folds_nil]
  simp [foldRows, rowsAll, rows, hplain]

/-- A block shows its folds if its body does and its header looks like none. -/
theorem braces {header : String} (hheader : isFold header = false) {body : List Piece}
    (h : ShowsFolds body) : ShowsFolds [braces header body] := by
  intro around level
  have hopen : isFold "\x7b" = false := by decide
  have hclose : isFold "\x7d" = false := by decide
  rw [folds_braces_cons, folds_nil, List.append_nil, ← h (header :: around) (level + 1)]
  simp [foldRows, Piece.braces, rowsAll, rows, hheader, hopen, hclose]

/-- Groups with blank lines between them show their folds if each group does. -/
theorem separated {groups : List (List Piece)} (h : ∀ group ∈ groups, ShowsFolds group) :
    ShowsFolds (separated groups) := by
  intro around level
  have hone : ∀ ps, foldRows level ps =
      ps.flatMap fun p => ((rows level p).map Row.content).filter isFold := by
    intro ps
    induction ps with
    | nil => rfl
    | cons p ps ih => simp [foldRows, rowsAll, ← ih]
  have hblank : ((rows level .blank).map Row.content).filter isFold = [] := by
    simp [rows, isFold]
  rw [hone, flatMap_separated _ hblank, folds_separated, List.map_flatMap]
  exact List.flatMap_congr fun group hgroup => (hone group).symm.trans (h group hgroup around level)

end ShowsFolds

namespace Pass

variable (pass : Pass) (d : TypeDef)

/-- The line that takes a member in, with its condition; none if the member has no hash. -/
def memberFold? (position : Nat) (m : EqualityMember) : Option (Option String × String) :=
  ((pass.hashSource d m).expression? m.name).map fun expression =>
    ((pass.hashGuard? d m).map fun guard => "if (" ++ guard ++ ")", hashFold expression position)

/-- The line that takes a hash in looks like a fold. -/
theorem isFold_hashFold (expression : String) (position : Nat) :
    isFold (hashFold expression position) = true := by
  rw [hashFold]
  simp [isFold, String.append_assoc]

/-- The hints that are written for a member look like no folds. -/
theorem isFold_of_mem_hashHints {m : EqualityMember} {s : String} (h : s ∈ pass.hashHints d m) :
    isFold s = false := by
  simp only [hashHints, List.mem_append, List.mem_cons, List.not_mem_nil, or_false,
    List.mem_ite_nil_right] at h
  rcases h with (rfl | ⟨-, rfl | rfl⟩) | ⟨-, rfl | rfl⟩ <;>
    simp only [String.append_assoc] <;> exact isFold_append_eq_false rfl _

/-- **A member is taken in once**, or not at all. -/
theorem folds_memberHash (reported : List String) (position : Nat) (m : EqualityMember) :
    folds ["unchecked"] (pass.memberHash d reported position m) =
      (pass.memberFold? d position m).toList := by
  have hhints : folds ["unchecked"] (lines (pass.hashHints d m)) = [] :=
    folds_lines _ fun s hs => pass.isFold_of_mem_hashHints d hs
  have hunchecked : isCondition "unchecked" = false := by decide
  have hcondition : ∀ guard, isCondition ("if (" ++ guard) = true := by
    simp [isCondition]
  rw [memberHash, folds_append, hhints, List.nil_append, memberFold?]
  cases (pass.hashSource d m).expression? m.name with
  | none => cases reported.contains m.name <;> simp
  | some expression =>
      cases pass.hashGuard? d m <;>
        simp [folds_line_cons, isFold_hashFold, hunchecked, hcondition, String.append_assoc]

/-- The folds of the members of a hash are those of the members that have one, each with the
position of its member. The induction is on the members, for every position to start with. -/
theorem folds_memberHashes :
    ∀ (ms : List EqualityMember) (reported : List String) (position : Nat),
      (pass.memberHashes d reported position ms).flatMap (folds ["unchecked"]) =
        (ms.zipIdx position).filterMap fun (m, place) => pass.memberFold? d place m := by
  intro ms
  induction ms with
  | nil => exact fun _ _ => rfl
  | cons m ms ih =>
      intro reported position
      rw [memberHashes, List.flatMap_cons, folds_memberHash, ih, List.zipIdx_cons]
      cases hfold : pass.memberFold? d position m <;> simp [hfold]

/-- **The folds of a hash body** are those of its members, each at its position. -/
theorem folds_hashBody (reported : List String) (members : List EqualityMember)
    (baseCall : Option String) :
    folds [] (pass.hashBody d reported members baseCall) =
      members.zipIdx.filterMap fun (m, place) => pass.memberFold? d place m := by
  have hline : ∀ s, isFold s = false → folds [] [.line s] = [] := by
    intro s hs
    rw [folds_line_cons, hs, folds_nil]
    rfl
  have hstart : ∀ rest, isFold ("int hash = " ++ rest) = false := isFold_append_eq_false rfl
  have hreturn : isFold "return hash;" = false := by decide
  have hnone : isFold "return 0; // no members to compute hash" = false := by decide
  unfold hashBody
  split
  · next hempty =>
      rw [Bool.and_eq_true, List.isEmpty_iff] at hempty
      rw [hempty.1, folds_diagnostic_cons, hline _ hnone]
      rfl
  · rw [folds_append, folds_append, hline, hline _ hreturn, List.nil_append, List.append_nil]
    · cases members with
      | nil => exact folds_nil _
      | cons m ms =>
          rw [if_neg (by simp), folds_braces_cons, folds_separated, folds_memberHashes, folds_nil,
            List.append_nil]
    · cases baseCall <;> exact (congrArg isFold (String.append_assoc ..)).trans (hstart _)

/-- The code for one member shows its folds. -/
theorem showsFolds_memberHash (reported : List String) (position : Nat) (m : EqualityMember) :
    ShowsFolds (pass.memberHash d reported position m) := by
  have hcondition : ∀ guard, isFold ("if (" ++ guard ++ ")") = false := by
    intro guard
    rw [String.append_assoc]
    exact isFold_append_eq_false rfl _
  refine (ShowsFolds.lines _).append ?_
  split
  · split
    · exact .braces (hcondition _) (.line _)
    · exact .line _
  · split
    · exact .nil
    · exact .diagnostic _

/-- The code for each member shows its folds. The induction is on the members, for every list of
names that were reported before. -/
theorem showsFolds_memberHashes :
    ∀ (ms : List EqualityMember) (reported : List String) (position : Nat),
      ∀ group ∈ pass.memberHashes d reported position ms, ShowsFolds group := by
  intro ms
  induction ms with
  | nil => exact fun _ _ _ h => absurd h List.not_mem_nil
  | cons m ms ih =>
      intro reported position
      rw [memberHashes, List.forall_mem_cons]
      exact ⟨pass.showsFolds_memberHash d _ _ _, ih _ _⟩

/-- The body of a method for a hash shows its folds. -/
theorem showsFolds_hashBody (reported : List String) (members : List EqualityMember)
    (baseCall : Option String) : ShowsFolds (pass.hashBody d reported members baseCall) := by
  have hunchecked : isFold "unchecked" = false := by decide
  unfold hashBody
  split
  · exact (ShowsFolds.diagnostic _).append (.line _)
  · refine ((ShowsFolds.line _).append ?_).append (.line _)
    split
    · exact .nil
    · exact .braces hunchecked (.separated (pass.showsFolds_memberHashes d _ _ _))

/-- A hash body ends with a return. -/
theorem exists_hashBody_eq_append (reported : List String) (members : List EqualityMember)
    (baseCall : Option String) :
    ∃ (front : List Piece) (last : String),
      pass.hashBody d reported members baseCall = front ++ [.line last] ∧ last ≠ "" := by
  unfold hashBody
  split
  · exact ⟨[_], _, rfl, by decide⟩
  · exact ⟨_, "return hash;", rfl, by decide⟩

/-- How a member with a hash, at a position of its set, is taken in: by its expression and the
prime of the position, and on the condition that it holds a value if it may hold none. -/
structure TakesIn (placed : EqualityMember × Nat) (fold : Option String × String) : Prop where
  line : ∃ expression prime,
    (pass.hashSource d placed.1).expression? placed.1.name = some expression ∧
    HashPrime.primes[placed.2 % 22]? = some prime ∧
    ("hash = (" ++ expression ++ " * " ++ toString prime ++ ") ^ hash; // ").toList <+:
      fold.2.toList
  guarded : fold.1.isSome = pass.compilation.mayBeNull d.typeParameters placed.1.type
  guard : ∀ header ∈ fold.1, header = "if (" ++
    (if pass.compilation.special? placed.1.type = some .string ∧
        placed.1.options.string.emptyEqualsNull = true then
      "!string.IsNullOrWhiteSpace(" ++ placed.1.name ++ ")"
    else "!ReferenceEquals(" ++ placed.1.name ++ ", null)") ++ ")"

/-- The primes start over behind the last of them. -/
theorem getElem?_primes_mod (position : Nat) :
    HashPrime.primes[position % 22]? = some (HashPrime.atPosition position) := by
  have hlength : HashPrime.primes.length = 22 := rfl
  have hlt : position % 22 < HashPrime.primes.length := by
    rw [hlength]
    exact Nat.mod_lt _ (by decide)
  rw [HashPrime.atPosition, hlength, List.getD_eq_getElem?_getD, List.getElem?_eq_getElem hlt]
  rfl

/-- The fold of a member multiplies the hash by the prime at the position of the member, under a
guard exactly where the member may be null. -/
theorem takesIn_of_memberFold? {position : Nat} {m : EqualityMember}
    {fold : Option String × String} (h : pass.memberFold? d position m = some fold) :
    pass.TakesIn d (m, position) fold := by
  obtain ⟨expression, hexpression, rfl⟩ := Option.map_eq_some_iff.1 h
  refine ⟨⟨expression, _, hexpression, getElem?_primes_mod position, ?_⟩, ?_, ?_⟩
  · rw [hashFold]
    simp [String.append_assoc]
  · rw [Option.isSome_map, hashGuard?]
    split
    · next hnull => split <;> simp [hnull]
    · next hvalue => simp [hvalue]
  · intro header hheader
    obtain ⟨guard, hguard, rfl⟩ := Option.map_eq_some_iff.1 hheader
    rw [hashGuard?] at hguard
    split_ifs at hguard with hnull hblank
    · rw [Bool.and_eq_true, beq_iff_eq] at hblank
      rw [if_pos hblank, Option.some.inj hguard]
    · rw [Bool.and_eq_true, beq_iff_eq] at hblank
      rw [if_neg hblank, Option.some.inj hguard]

/-- **The members with a hash are taken in**, in order, each at its position in the set. -/
theorem forall₂_takesIn (members : List EqualityMember) :
    List.Forall₂ (pass.TakesIn d)
      (members.zipIdx.filter fun placed => !pass.isUnhashable d placed.1)
      (members.zipIdx.filterMap fun (m, place) => pass.memberFold? d place m) := by
  refine forall₂_filter_filterMap ?_ ?_ _
  · rintro ⟨m, place⟩
    rw [← isNone_expression?, Option.not_isNone]
    exact Option.isSome_map.symm
  · rintro ⟨m, place⟩ fold
    exact pass.takesIn_of_memberFold? d

end Pass

namespace EqualityUnit

variable {u : EqualityUnit}

/-- **The body of a hash method** takes the members of its set in. -/
theorem Hashes.exists_body {method : EqualityMethod} {members : List EqualityMember}
    (h : u.Hashes method members) :
    ∃ front last, bodiesAll (u.methodHeader method) u.code = [front ++ [.line last]] ∧
      last ≠ "" ∧ ShowsFolds (front ++ [.line last]) ∧
      folds [] (front ++ [.line last]) =
        members.zipIdx.filterMap fun (m, place) => u.pass.memberFold? u.definition place m := by
  have hwarnings : ShowsFolds u.baseHashCall.1 ∧ folds [] u.baseHashCall.1 = [] := by
    rw [baseHashCall]
    split
    · exact ⟨.nil, folds_nil _⟩
    · split
      · exact ⟨.nil, folds_nil _⟩
      · exact ⟨.diagnostic _, (folds_diagnostic_cons ..).trans (folds_nil _)⟩
  cases h with
  | hash =>
      obtain ⟨front, last, hbody, hlast⟩ := u.pass.exists_hashBody_eq_append u.definition []
        u.members.hash u.baseHashCall.2
      refine ⟨u.baseHashCall.1 ++ front, last, ?_, hlast, ?_⟩
      · rw [bodies_code, declares, if_pos rfl, methodBody, hbody, List.append_assoc]
      · rw [List.append_assoc, ← hbody, folds_append, hwarnings.2, List.nil_append]
        exact ⟨hwarnings.1.append (u.pass.showsFolds_hashBody _ _ _ _),
          u.pass.folds_hashBody _ _ _ _⟩
  | keyHash hkey =>
      obtain ⟨front, last, hbody, hlast⟩ := u.pass.exists_hashBody_eq_append u.definition
        u.unhashableNames u.members.key (u.baseKeyCall "base.GetKeyHashCode()")
      refine ⟨front, last, ?_, hlast, ?_⟩
      · rw [bodies_code, declares, hkey, if_pos rfl, methodBody, hbody]
      · rw [← hbody]
        exact ⟨u.pass.showsFolds_hashBody _ _ _ _, u.pass.folds_hashBody _ _ _ _⟩

end EqualityUnit

/-! ### Units -/

/-- **The hash methods of a unit** take in the members of their sets that have a hash, each by one
fold, in order and at its position in the set. In the text of a unit without further line feeds the
rows of a hash method stand together, and its folds are the rows that look like one. The unit warns
of each name of a member without hash, and of none twice. -/
theorem hash_methods_take_members_in (pass : Pass) (d : TypeDef) :
    let u := pass.equalityUnit d
    let a := pass.equalityArtifact d
    (∀ method members, u.Hashes method members →
      ∃ body, bodiesAll (u.methodHeader method) u.code = [body] ∧
        List.Forall₂ (pass.TakesIn d)
          (members.zipIdx.filter fun placed => !pass.isUnhashable d placed.1) (folds [] body) ∧
        (∀ level, ((rowsAll level body).map Row.content).filter isFold =
          (folds [] body).map (·.2)) ∧
        (pass.compilation.IsOneLine → d ∈ pass.compilation.types →
          ∃ level, (rowsAll level body).map Row.text <:+: Text.split '\n' a.text)) ∧
    ∃ warned : List EqualityMember,
      a.diagnostics.filter (·.code == .memberUnhashable) = warned.map (Pass.unhashable d) ∧
      (warned.map (·.name)).Nodup ∧
      (∀ m ∈ warned, pass.isUnhashable d m = true ∧
        ∃ method members, u.Hashes method members ∧ m ∈ members) ∧
      ∀ method members, u.Hashes method members → ∀ m ∈ members, pass.isUnhashable d m = true →
        m.name ∈ warned.map (·.name) := by
  intro u a
  refine ⟨fun method members h => ?_, u.warned, u.hashWarnings_code, u.nodup_names_warned,
    fun m hm => u.mem_of_mem_warned hm,
    fun method members h m hm hmissing => u.mem_names_warned h hm hmissing⟩
  obtain ⟨front, last, hbody, hlast, hshows, hfolds⟩ := h.exists_body
  refine ⟨front ++ [.line last], hbody, ?_, ?_, fun hlines hd => ?_⟩
  · rw [hfolds]
    exact pass.forall₂_takesIn d members
  · exact hshows []
  · have hmem : front ++ [.line last] ∈
        bodiesAll (u.methodHeader method) (pass.unitCode .equality d) := by
      rw [show pass.unitCode .equality d = u.code from rfl, hbody]
      exact List.mem_cons_self
    exact Pass.exists_infix_split_unit hlines hd .equality hmem hlast

/-- A structure with a hash. -/
def hashedStamp : TypeDef where
  «namespace» := "Shop"
  name := "Stamp"
  kind := .struct
  members := [.method { name := "GetHashCode", isOverride := true }]

/-- A class whose key is a stamp and a crate, and whose hash takes in an array as well. -/
def stampedOrder : TypeDef where
  «namespace» := "Shop"
  name := "Order"
  isPartial := true
  attributes := [{ className := Vocabulary.generatedEquality }]
  members :=
    let member (name : String) (type : TypeRef) (mark : String) : Member :=
      .property { name, type, attributes := [{ className := mark }] }
    [member "Id" (.named "Shop.Stamp" []) Vocabulary.equalityKey,
      member "Crate" (.named "Shop.Crate" []) Vocabulary.equalityKey,
      member "Tags" (.array (.named "Shop.Stamp" []) 1) Vocabulary.equalityHash]

/-- A program of an order, on a core with the interface for key equality. Crates have no hash. -/
def stampedOrderProgram : Program :=
  .onSmallCore [Program.stub "Uno.Equality" "IKeyEquatable",
    { «namespace» := "Shop", name := "Crate" }, hashedStamp, stampedOrder]

/-- The crate keeps its position in the hash, and both methods warn of it as one. -/
theorem hash_methods_of_order_take_members_in :
    ∃ c config g order, Compilation.ofProgram stampedOrderProgram = .ok c ∧
      Config.resolve c = .ok config ∧ generate c = .ok g ∧ c.IsOneLine ∧ order ∈ c.types ∧
      let pass := Plan.equalityPass c config
      let u := pass.equalityUnit order
      let a := pass.equalityArtifact order
      a ∈ g.artifacts ∧
      (∀ method ∈ [EqualityMethod.hash, .keyHash], ∃ body placed,
        bodiesAll (u.methodHeader method) u.code = [body] ∧
        placed.map (fun (m, place) => (m.name, place)) =
          [("Id", 0)] ++ (if method = .hash then [("Tags", 2)] else []) ∧
        List.Forall₂ (pass.TakesIn order) placed (folds [] body) ∧
        ∃ level, (rowsAll level body).map Row.text <:+: Text.split '\n' a.text) ∧
      ∃ warned : List EqualityMember, warned.map (·.name) = ["Crate"] ∧
        a.diagnostics.filter (·.code == .memberUnhashable) =
          warned.map (Pass.unhashable order) := by
  obtain ⟨c, config, g, hc, hconfig, hg, hcheck⟩ :=
    Program.exists_run stampedOrderProgram
      (fun c config _ => (c.type? "Shop.Order").any fun (order : TypeDef) =>
        let pass := Plan.equalityPass c config
        let u := pass.equalityUnit order
        let hashed (members : List EqualityMember) : List (String × Nat) :=
          (members.zipIdx.filter fun placed => !pass.isUnhashable order placed.1).map
            fun (m, place) => (m.name, place)
        decide (NamesTarget c config order ∧ u.declaresKeyEquality = true ∧
          hashed u.members.hash = [("Id", 0), ("Tags", 2)] ∧
          hashed u.members.key = [("Id", 0)] ∧
          (∀ m ∈ u.members.hash ++ u.members.key, pass.isUnhashable order m = true →
            m.name = "Crate") ∧
          ∃ m ∈ u.members.hash, pass.isUnhashable order m = true))
      (by decide +kernel)
  obtain ⟨order, horder, hcheck⟩ := (Option.any_eq_true _ _).1 hcheck
  obtain ⟨hname, hkeys, hhash, hkey, hcrate, crate, hmem, hmissing⟩ := of_decide_eq_true hcheck
  have htype : order ∈ c.types := (Compilation.type?_eq_some_iff.1 horder).1
  have hlines : c.IsOneLine := Compilation.isOneLine_of_ofProgram hc (by decide +kernel)
  obtain ⟨hbodies, warned, hproblems, hnodup, hwarned, hall⟩ :=
    hash_methods_take_members_in (Plan.equalityPass c config) order
  have htarget : order ∈ (Plan.of c config).equality := (Plan.mem_equality_iff htype).2 hname
  refine ⟨c, config, g, order, hc, hconfig, hg, hlines, htype,
    Plan.artifact_mem .equality hconfig hg htarget, ?_, warned, ?_, hproblems⟩
  · simp only [List.forall_mem_cons, List.not_mem_nil, false_implies, implies_true, and_true]
    constructor
    · obtain ⟨body, hbody, hfolds, -, hrows⟩ := hbodies _ _ .hash
      exact ⟨body, _, hbody, hhash, hfolds, hrows hlines htype⟩
    · obtain ⟨body, hbody, hfolds, -, hrows⟩ := hbodies _ _ (.keyHash hkeys)
      exact ⟨body, _, hbody, hkey, hfolds, hrows hlines htype⟩
  · -- All names that are warned of are one name, and no name is warned of twice.
    have hnames : ∀ name ∈ warned.map (·.name), name = "Crate" := by
      simp only [List.forall_mem_map]
      intro m hm
      obtain ⟨hmissing', _, _, hset, hmem'⟩ := hwarned m hm
      cases hset with
      | hash => exact hcrate m (List.mem_append_left _ hmem') hmissing'
      | keyHash _ => exact hcrate m (List.mem_append_right _ hmem') hmissing'
    have hsome := hall _ _ .hash crate hmem hmissing
    rw [List.eq_replicate_of_mem hnames] at hnodup hsome ⊢
    have honce := List.nodup_replicate.1 hnodup
    have hone : (warned.map (·.name)).length = 1 := by
      have := (List.mem_replicate.1 hsome).1
      omega
    rw [hone, List.replicate_one]

end Companion
