import Companion.Equality.Unit
import Companion.Proofs.GeneratedCode
import Companion.Proofs.Text

/-!
# The Methods of an Equality Unit

An equality unit compares and hashes in private methods: one for equality, one for the hash code,
and one of each for keys. The public members call these and nothing else, so what a unit does with
its members and its base type is what the bodies of these methods say.

## Main results

* `bodies_code`: a unit declares each of these methods once, with the body that belongs to it, and
  those for keys only if it declares key equality.
* `codes_code`: a unit reports what these methods report, behind two warnings of its own.
* `getLast?_comparisonBody`, `head?_hashBody_some`: where a body continues into the base type.
-/

namespace Companion

/-- The private methods of an equality unit. -/
inductive EqualityMethod where
  | equals
  | hash
  | keyEquals
  | keyHash
deriving DecidableEq

namespace EqualityUnit

open Piece

variable (u : EqualityUnit)

/-- What follows the word that makes a method private. -/
def signature : EqualityMethod → String
  | .equals => "bool InnerEquals(" ++ u.name ++ " other)"
  | .hash => "int ComputeHashCode()"
  | .keyEquals => "bool InnerKeyEquals(" ++ u.name ++ " other)"
  | .keyHash => "int ComputeKeyHashCode()"

/-- The header of a private method. -/
def methodHeader (m : EqualityMethod) : String := "private " ++ u.signature m

/-- The body of a private method. -/
def methodBody : EqualityMethod → List Piece
  | .equals =>
    [.line "if (other.GetType() != GetType()) return false;",
      .line "if (other.GetHashCode() != GetHashCode()) return false;"] ++
    u.baseEqualsCall.1 ++ u.pass.comparisonBody u.definition u.members.equality u.baseEqualsCall.2
  | .hash => u.baseHashCall.1 ++ u.pass.hashBody u.definition [] u.members.hash u.baseHashCall.2
  | .keyEquals =>
    .line "if (other.GetKeyHashCode() != GetKeyHashCode()) return false;" ::
      u.pass.comparisonBody u.definition u.members.key (u.baseKeyCall "base.KeyEquals(other)")
  | .keyHash =>
    u.pass.hashBody u.definition u.unhashableNames u.members.key
      (u.baseKeyCall "base.GetKeyHashCode()")

/-- Whether a unit declares a method: those for keys with key equality only. -/
def declares : EqualityMethod → Bool
  | .equals | .hash => true
  | .keyEquals | .keyHash => u.declaresKeyEquality

/-! ### Code without private methods -/

/-- A warning is no body. -/
@[simp] theorem bodies_warning (header : String) (code : DiagnosticCode) (message : String) :
    bodies header (u.warning code message) = [] :=
  bodies_diagnostic header _

section NoPrivateMethod

variable (pass : Pass) (d : TypeDef) (s : String)

/-- The mark of pure methods is no private method. -/
@[simp] theorem bodiesAll_pureMark : bodiesAll ("private " ++ s) pass.pureMark = [] := by
  rw [Pass.pureMark]
  split <;> simp

/-- Checks of references are no method. -/
@[simp] theorem bodiesAll_referenceChecks (header : String) :
    bodiesAll header u.referenceChecks = [] := by
  rw [referenceChecks]
  split <;> simp

/-- The static comparison is no private method. -/
@[simp] theorem bodiesAll_staticEquals : bodiesAll ("private " ++ s) u.staticEquals = [] := by
  rw [staticEquals]
  split <;> simp [← String.toList_inj]

/-- The comparison with an object of the type is no private method. -/
@[simp] theorem bodiesAll_typedEquals : bodiesAll ("private " ++ s) u.typedEquals = [] := by
  simp [typedEquals, ← String.toList_inj]

/-- The comparison with an object of any type is no method. -/
@[simp] theorem bodies_untypedComparison (header method : String) :
    bodies header (u.untypedComparison method) = [] := by
  rw [untypedComparison]
  split <;> simp

/-- The overridden comparison is no private method. -/
@[simp] theorem bodiesAll_untypedEquals : bodiesAll ("private " ++ s) u.untypedEquals = [] := by
  simp [untypedEquals, ← String.toList_inj]

/-- An operator is no private method. -/
@[simp] theorem bodiesAll_operator (symbol result summary : String) :
    bodiesAll ("private " ++ s) (u.operator symbol result summary) = [] := by
  simp [operator, ← String.toList_inj]

/-- A memoized hash is a public member. -/
theorem bodiesAll_memoizedHash {modifiers : String} (rest method field compute : String)
    (h : modifiers = "public " ++ rest) :
    bodiesAll ("private " ++ s) (memoizedHash modifiers method field compute) = [] := by
  subst h
  simp [memoizedHash, ← String.toList_inj]

/-- Comparing members opens nothing but conditions. -/
@[simp] theorem bodiesAll_comparisonBody (members : List EqualityMember)
    (baseCall : Option String) :
    bodiesAll ("private " ++ s) (pass.comparisonBody d members baseCall) = [] := by
  have hmember : ∀ m, bodiesAll ("private " ++ s) (pass.memberComparison d m) = [] := by
    intro m
    simp [Pass.memberComparison, ← String.toList_inj]
  unfold Pass.comparisonBody
  split <;> simp [hmember]

/-- Hashing a member opens nothing but a condition. -/
theorem bodiesAll_memberHash (reported : List String) (position : Nat) (m : EqualityMember) :
    bodiesAll ("private " ++ s) (pass.memberHash d reported position m) = [] := by
  rw [Pass.memberHash]
  rw [bodiesAll_append, bodiesAll_lines, List.nil_append]
  split
  · split <;> simp [← String.toList_inj]
  · split <;> simp

/-- Hashing members opens nothing but conditions. -/
theorem bodiesAll_memberHashes (ms : List EqualityMember) :
    ∀ (reported : List String) (position : Nat),
      (pass.memberHashes d reported position ms).flatMap (bodiesAll ("private " ++ s)) = [] := by
  induction ms with
  | nil => exact fun _ _ => rfl
  | cons m ms ih =>
      intro reported position
      simp only [Pass.memberHashes, List.flatMap_cons, bodiesAll_memberHash, ih, List.append_nil]

/-- The hash of the members is no method of its own. -/
@[simp] theorem bodiesAll_hashBody (reported : List String) (members : List EqualityMember)
    (baseCall : Option String) :
    bodiesAll ("private " ++ s) (pass.hashBody d reported members baseCall) = [] := by
  unfold Pass.hashBody
  split
  · simp
  · by_cases hmembers : members.isEmpty
    · simp [hmembers]
    · simp [hmembers, bodiesAll_memberHashes, ← String.toList_inj]

end NoPrivateMethod

/-! ### The private methods -/

section PrivateMethod

variable (s : String)

/-- The call of the base for comparison is no method. -/
@[simp] theorem bodiesAll_baseEqualsCall (header : String) :
    bodiesAll header u.baseEqualsCall.1 = [] := by
  rw [baseEqualsCall]
  split
  · simp
  · split <;> simp [warning]

/-- The call of the base for the hash is no method. -/
@[simp] theorem bodiesAll_baseHashCall (header : String) :
    bodiesAll header u.baseHashCall.1 = [] := by
  rw [baseHashCall]
  split
  · simp
  · split <;> simp [warning]

/-- A header with the name of the type in it, taken apart behind its first word. -/
theorem append_name (word rest close : String) {opening : String} (h : word ++ rest = opening) :
    opening ++ u.name ++ close = word ++ (rest ++ u.name ++ close) := by
  subst h
  simp only [String.append_assoc]

/-- Methods have the same header if they have the same signature. -/
@[simp] theorem methodHeader_eq_iff (m : EqualityMethod) :
    u.methodHeader m = "private " ++ s ↔ u.signature m = s :=
  String.append_right_inj _

/-- The private comparison has its body under its own signature only. -/
theorem bodiesAll_innerEquals :
    bodiesAll ("private " ++ s) u.innerEquals =
      if u.signature .equals = s then [u.methodBody .equals] else [] := by
  have hheader : "private bool InnerEquals(" ++ u.name ++ " other)" =
      u.methodHeader .equals :=
    u.append_name "private " "bool InnerEquals(" " other)" rfl
  rw [innerEquals, hheader]
  simp [methodBody]

/-- The private hash has its body under its own signature only. -/
theorem bodiesAll_hashCode :
    bodiesAll ("private " ++ s) u.hashCode =
      if u.signature .hash = s then [u.methodBody .hash] else [] := by
  have hheader : "private int ComputeHashCode()" = u.methodHeader .hash := rfl
  have hpublic : bodiesAll ("private " ++ s) (memoizedHash "public override int" "GetHashCode"
      "_computedHashCode" "ComputeHashCode") = [] :=
    bodiesAll_memoizedHash s "override int" _ _ _ rfl
  rw [hashCode, hheader]
  simp [methodBody, hpublic]

/-- The private methods of key equality have their bodies under their own signatures only. -/
theorem bodiesAll_keyEquality :
    bodiesAll ("private " ++ s) u.keyEquality =
      (if u.signature .keyEquals = s then [u.methodBody .keyEquals] else []) ++
        if u.signature .keyHash = s then [u.methodBody .keyHash] else [] := by
  have hequals : "private bool InnerKeyEquals(" ++ u.name ++ " other)" =
      u.methodHeader .keyEquals :=
    u.append_name "private " "bool InnerKeyEquals(" " other)" rfl
  have hhash : "private int ComputeKeyHashCode()" = u.methodHeader .keyHash := rfl
  have hpublic : bodiesAll ("private " ++ s) (memoizedHash "public int" "GetKeyHashCode"
      "_computedKeyHashCode" "ComputeKeyHashCode") = [] :=
    bodiesAll_memoizedHash s "int" _ _ _ rfl
  have huntyped : "public bool KeyEquals(object other)" ≠ "private " ++ s := by
    simp [← String.toList_inj]
  have htyped : "public bool KeyEquals(" ++ u.name ++ " other)" ≠ "private " ++ s := by
    simp [← String.toList_inj]
  rw [keyEquality, hequals, hhash]
  simp [methodBody, hpublic, huntyped, htyped]

end PrivateMethod

/-- The private methods stand in the regions for equality, hash code and key equality. -/
theorem bodiesAll_memberCode (s : String) :
    bodiesAll ("private " ++ s) u.memberCode =
      bodiesAll ("private " ++ s) u.innerEquals ++ bodiesAll ("private " ++ s) u.hashCode ++
        if u.declaresKeyEquality then bodiesAll ("private " ++ s) u.keyEquality else [] := by
  have hwarning : ∀ message, bodiesAll ("private " ++ s)
      (if u.wantsKeyEquality && !u.declaresKeyEquality then
        [u.warning .keyEqualityUnavailable message] else []) = [] := by
    intro message
    split <;> simp
  rw [memberCode, bodiesAll_append, hwarning, List.nil_append,
    bodiesAll_separated_of_nil (u.bodiesAll_staticEquals s),
    bodiesAll_separated_of_nil (u.bodiesAll_typedEquals s),
    bodiesAll_separated_of_nil (u.bodiesAll_untypedEquals s), bodiesAll_separated_cons,
    bodiesAll_separated_of_nil (u.bodiesAll_operator s _ _ _),
    bodiesAll_separated_of_nil (u.bodiesAll_operator s _ _ _), bodiesAll_separated_cons,
    bodiesAll_separated_cons, bodiesAll_separated, List.flatMap_nil, List.append_nil,
    List.append_assoc]
  cases u.declaresKeyEquality
  · rw [if_neg Bool.false_ne_true, if_neg Bool.false_ne_true, bodiesAll_nil]
  · rw [if_pos rfl, if_pos rfl]

/-- The beginnings of the methods tell them apart, from each other and from the type. -/
def opening : EqualityMethod → String
  | .equals => "private bool InnerEquals("
  | .hash => "private int ComputeHashCode("
  | .keyEquals => "private bool InnerKeyEquals("
  | .keyHash => "private int ComputeKeyHashCode("

/-- The header of a method begins with what tells it from the others. -/
theorem methodHeader_eq_append (m : EqualityMethod) :
    ∃ rest, u.methodHeader m = opening m ++ rest := by
  cases m with
  | equals =>
      exact ⟨_, (u.append_name "private " "bool InnerEquals(" " other)" rfl).symm.trans
        (String.append_assoc ..)⟩
  | hash => exact ⟨")", rfl⟩
  | keyEquals =>
      exact ⟨_, (u.append_name "private " "bool InnerKeyEquals(" " other)" rfl).symm.trans
        (String.append_assoc ..)⟩
  | keyHash => exact ⟨")", rfl⟩

/-- The header of the type is not that of a private method. -/
theorem header_ne_methodHeader (m : EqualityMethod) : u.header ≠ u.methodHeader m := by
  obtain ⟨rest, hrest⟩ : ∃ rest, u.header =
      u.definition.accessibility.modifiers ++ " partial " ++ rest := by
    simp only [header, String.append_assoc]
    exact ⟨_, rfl⟩
  obtain ⟨rest', hrest'⟩ := u.methodHeader_eq_append m
  rw [hrest, hrest']
  cases u.definition.accessibility <;> cases m <;>
    exact Text.append_ne_append (by decide) (by decide) rest rest'

/-- No method begins like another one. -/
theorem openings_apart (m m' : EqualityMethod) (h : m ≠ m') :
    ¬ (opening m).toList <+: (opening m').toList := by
  revert h
  cases m <;> cases m' <;> decide

/-- The signature determines the method. -/
theorem signature_inj {m m' : EqualityMethod} : u.signature m = u.signature m' ↔ m = m' := by
  refine ⟨fun h => ?_, fun h => h ▸ rfl⟩
  by_contra hne
  obtain ⟨rest, hrest⟩ := u.methodHeader_eq_append m
  obtain ⟨rest', hrest'⟩ := u.methodHeader_eq_append m'
  refine Text.append_ne_append (openings_apart m m' hne) (openings_apart m' m (Ne.symm hne))
    rest rest' ?_
  rw [← hrest, ← hrest', methodHeader, methodHeader, h]

/-- **A unit declares each private method once**, and those for keys only with key equality. -/
theorem bodies_code (m : EqualityMethod) :
    bodiesAll (u.methodHeader m) u.code = if u.declares m then [u.methodBody m] else [] := by
  have hpartial : ∀ message, bodiesAll (u.methodHeader m) (if u.definition.isPartial then []
      else [u.warning .equalityNotPartial message]) = [] := by
    intro message
    split <;> simp
  have hmembers : bodiesAll (u.methodHeader m) u.code =
      bodiesAll ("private " ++ u.signature m) u.memberCode := by
    simp only [code, unitHeader, bodiesAll_append, bodiesAll_cons, bodies_inNamespace, hpartial,
      bodies_braces, if_neg (u.header_ne_methodHeader m)]
    simp [methodHeader, bodiesAll_eq_flatMap]
  rw [hmembers, bodiesAll_memberCode, bodiesAll_innerEquals, bodiesAll_hashCode,
    bodiesAll_keyEquality]
  simp only [signature_inj]
  cases m <;> cases hkey : u.declaresKeyEquality <;> simp [declares, hkey]

/-! ### The problems that a unit reports -/

section Codes

variable (pass : Pass) (d : TypeDef)

/-- Checks of references have no problems. -/
@[simp] theorem codes_referenceChecks : codes u.referenceChecks = [] := by
  rw [referenceChecks]
  split <;> simp

/-- The static comparison has no problems. -/
@[simp] theorem codes_staticEquals : codes u.staticEquals = [] := by
  rw [staticEquals]
  split <;> simp

/-- The comparison with an object of the type has no problems. -/
@[simp] theorem codes_typedEquals : codes u.typedEquals = [] := by
  simp [typedEquals]

/-- The comparison with an object of any type has no problems. -/
@[simp] theorem codes_untypedComparison_cons (method : String) (ps : List Piece) :
    codes (u.untypedComparison method :: ps) = codes ps := by
  rw [untypedComparison]
  split <;> simp

/-- The overridden comparison has no problems. -/
@[simp] theorem codes_untypedEquals : codes u.untypedEquals = [] := by
  simp [untypedEquals]

/-- An operator has no problems. -/
@[simp] theorem codes_operator (symbol result summary : String) :
    codes (u.operator symbol result summary) = [] := by
  simp [operator]

/-- What keeps a hash once it is computed has no problems. -/
@[simp] theorem codes_memoizedHash (modifiers method field compute : String) :
    codes (memoizedHash modifiers method field compute) = [] := by
  simp [memoizedHash]

/-- A comparison without members and without a base type is the only one to be warned of. -/
@[simp] theorem codes_comparisonBody (members : List EqualityMember) (baseCall : Option String) :
    codes (pass.comparisonBody d members baseCall) =
      if members.isEmpty && baseCall.isNone then [.noEqualityMembers] else [] := by
  have hmember : ∀ m, codes (pass.memberComparison d m) = [] := by
    intro m
    simp [Pass.memberComparison]
  unfold Pass.comparisonBody
  split <;> simp [hmember]

/-- A member is warned of when it has no hash. -/
theorem codes_memberHash (reported : List String) (position : Nat) (m : EqualityMember) :
    ∀ code ∈ codes (pass.memberHash d reported position m), code = .memberUnhashable := by
  rw [Pass.memberHash]
  rw [codes_append, codes_lines, List.nil_append]
  split
  · split <;> simp
  · split <;> simp [Pass.unhashable]

/-- Hashing warns of members without hash, or of having none to hash. -/
theorem codes_hashBody (reported : List String) (members : List EqualityMember)
    (baseCall : Option String) :
    ∀ code ∈ codes (pass.hashBody d reported members baseCall),
      code = .noHashMembers ∨ code = .memberUnhashable := by
  have hmembers : ∀ (ms : List EqualityMember) (reported : List String) (position : Nat),
      ∀ code ∈ (pass.memberHashes d reported position ms).flatMap codes,
        code = .memberUnhashable := by
    intro ms
    induction ms with
    | nil => simp [Pass.memberHashes]
    | cons m ms ih =>
        intro reported position code hcode
        simp only [Pass.memberHashes, List.flatMap_cons, List.mem_append] at hcode
        rcases hcode with h | h
        · exact codes_memberHash pass d reported position m code h
        · exact ih _ _ code h
  intro code hcode
  unfold Pass.hashBody at hcode
  split at hcode
  · simp at hcode
    exact .inl hcode
  · cases members with
    | nil => simp at hcode
    | cons m ms =>
        refine .inr (hmembers (m :: ms) reported 0 code ?_)
        simpa using hcode

/-- A base type without equality is warned of. -/
theorem codes_baseEqualsCall :
    codes u.baseEqualsCall.1 =
      if u.base.any (!·.overridesEquals) then [.baseEqualsMissing] else [] := by
  rw [baseEqualsCall]
  cases u.base with
  | none => rfl
  | some base => cases hbase : base.overridesEquals <;> simp [warning, hbase]

/-- A base type without hash code is warned of. -/
theorem codes_baseHashCall :
    codes u.baseHashCall.1 = if u.base.any (!·.overridesHash) then [.baseHashMissing] else [] := by
  rw [baseHashCall]
  cases u.base with
  | none => rfl
  | some base => cases hbase : base.overridesHash <;> simp [warning, hbase]

end Codes

/-- The problems of the private comparison are those of its body. -/
theorem codes_innerEquals : codes u.innerEquals = codes (u.methodBody .equals) := by
  simp [innerEquals, methodBody]

/-- The problems of the private hash are those of its body. -/
theorem codes_hashCode : codes u.hashCode = codes (u.methodBody .hash) := by
  simp [hashCode, methodBody]

/-- The problems of key equality are those of its two bodies. -/
theorem codes_keyEquality :
    codes u.keyEquality = codes (u.methodBody .keyEquals) ++ codes (u.methodBody .keyHash) := by
  simp [keyEquality, methodBody]

/-- **The problems of a unit** are those of its methods, behind a warning when the type is not
partial and one when key equality cannot be declared. -/
theorem codes_code :
    codes u.code =
      (if u.definition.isPartial then [] else [.equalityNotPartial]) ++
      ((if u.wantsKeyEquality && !u.declaresKeyEquality then [.keyEqualityUnavailable] else []) ++
      (codes (u.methodBody .equals) ++ (codes (u.methodBody .hash) ++
      if u.declaresKeyEquality then
        codes (u.methodBody .keyEquals) ++ codes (u.methodBody .keyHash)
      else []))) := by
  have hpartial : ∀ message, codes (if u.definition.isPartial then []
      else [u.warning .equalityNotPartial message]) =
        if u.definition.isPartial then [] else [.equalityNotPartial] := by
    intro message
    split <;> simp [warning]
  have hkey : ∀ message, codes (if u.wantsKeyEquality && !u.declaresKeyEquality then
      [u.warning .keyEqualityUnavailable message] else []) =
        if u.wantsKeyEquality && !u.declaresKeyEquality then [.keyEqualityUnavailable] else [] := by
    intro message
    split <;> simp [warning]
  have hmembers : codes u.code = (if u.definition.isPartial then [] else [.equalityNotPartial]) ++
      codes u.memberCode := by
    simp only [code, unitHeader, codes_append, hpartial, codes_inNamespace_cons,
      codes_braces_cons]
    simp [codes_eq_flatMap, diagnostics]
  rw [hmembers, memberCode, codes_append, hkey, codes_separated_of_nil u.codes_staticEquals,
    codes_separated_of_nil u.codes_typedEquals, codes_separated_of_nil u.codes_untypedEquals,
    codes_separated_cons, codes_separated_of_nil (u.codes_operator _ _ _),
    codes_separated_of_nil (u.codes_operator _ _ _), codes_separated_cons, codes_separated_cons,
    codes_separated, List.flatMap_nil, List.append_nil, codes_innerEquals, codes_hashCode]
  cases u.declaresKeyEquality
  · rw [if_neg Bool.false_ne_true, if_neg Bool.false_ne_true, codes_nil]
  · rw [if_pos rfl, if_pos rfl, codes_keyEquality]

/-! ### How the bodies begin and end -/

/-- A comparison ends with the call to the base type, or by finding no difference. -/
theorem getLast?_comparisonBody (pass : Pass) (d : TypeDef) (members : List EqualityMember)
    (baseCall : Option String) :
    (pass.comparisonBody d members baseCall).getLast? =
      some (.line (match baseCall with
        | some call => "return " ++ call ++ "; // no differences found, check with base"
        | none => "return true; // no differences found")) := by
  cases baseCall <;> simp [Pass.comparisonBody, List.getLast?_append]

/-- A hash that continues that of the base type starts with the call for it. -/
theorem head?_hashBody_some (pass : Pass) (d : TypeDef) (reported : List String)
    (members : List EqualityMember) (call : String) :
    (pass.hashBody d reported members (some call)).head? =
      some (.line ("int hash = " ++ call ++ "; // start with hash from base")) := by
  simp [Pass.hashBody]

/-- A hash of its own starts with the seed, or with a warning that there is nothing to hash. -/
theorem head?_hashBody_none (pass : Pass) (d : TypeDef) (reported : List String)
    (members : List EqualityMember) :
    (pass.hashBody d reported members none).head? =
        some (.line ("int hash = " ++ toString HashPrime.seed ++ "; // 10 000th prime number")) ∨
      ∃ found, (pass.hashBody d reported members none).head? = some (.diagnostic found) := by
  rw [Pass.hashBody]
  split
  · exact .inr ⟨_, rfl⟩
  · exact .inl rfl

end EqualityUnit

end Companion
