import Companion.Compilation.Supertypes
import Companion.Proofs.Lookup
import Companion.Proofs.Weight
import Companion.Proofs.Worklist
import Mathlib.Algebra.Order.BigOperators.Group.List
import Mathlib.Data.Set.Card

/-!
# How Arguments Move Up the Supertypes

A step from a reference to its direct supertypes puts its arguments into what its definition lists.
So a definition hands the argument at one of its positions on to positions of its supertypes,
either as it is or wrapped into something larger. If an argument can get back to its position and
is wrapped on the way, it grows for ever, and infinitely many references are above the one it
started in. If none can, each argument is wrapped a bounded number of times.

For the second half each position has a rank, the number of positions that its argument can get to.
An argument that is passed on does not gain rank, and one that is wrapped loses rank, for there is
no way back. So the weight that an argument gains by wrapping can be paid for with its rank.

## Main results

* `infinite_above_of_circle`: a position that its argument gets back to, wrapped, has infinitely
  many references above it.
* `Wraps.rank_lt`: without such a position, wrapping leads to a position of lower rank.
* `Bounded.step`: and then a step keeps to a bound on the weight.
* `finite_above`: and then finitely many references are above each one.
-/

namespace Companion

namespace TypeRef

/-- The constructions that a reference in a list of supertypes stands for: the reference itself,
or those that an array is. -/
def constructions : TypeRef → List TypeRef
  | named name args => [named name args]
  | array element _ =>
    [named "System.Array" [],
      named "System.Collections.Generic.IList`1" [element],
      named "System.Collections.Generic.IReadOnlyList`1" [element]]
  | parameter _ | tuple _ => []

/-- Constructions are named references, which stand for themselves. -/
theorem exists_of_mem_constructions {s t : TypeRef} (h : s ∈ t.constructions) :
    ∃ name args, s = named name args := by
  cases t with
  | named name args => exact ⟨name, args, List.mem_singleton.1 h⟩
  | array element rank =>
      simp only [constructions, List.mem_cons, List.not_mem_nil, or_false] at h
      rcases h with rfl | rfl | rfl <;> exact ⟨_, _, rfl⟩
  | parameter name => exact absurd h List.not_mem_nil
  | tuple elements => exact absurd h List.not_mem_nil

/-- A construction weighs no more than what it stands for. -/
theorem weight_le_of_mem_constructions {s t : TypeRef} (h : s ∈ t.constructions) :
    s.weight ≤ t.weight := by
  cases t with
  | named name args => rw [List.mem_singleton.1 h]
  | array element rank =>
      have hparts : ∃ name ∈ arrayDefinitions, ∃ args, s = named name args ∧
          weightAll args ≤ element.weight := by
        simp only [constructions, List.mem_cons, List.not_mem_nil, or_false] at h
        rcases h with rfl | rfl | rfl
        · exact ⟨_, .head _, _, rfl, Nat.zero_le _⟩
        · exact ⟨_, .tail _ (.head _), _, rfl, le_rfl⟩
        · exact ⟨_, .tail _ (.tail _ (.head _)), _, rfl, le_rfl⟩
      obtain ⟨name, hname, args, rfl, hargs⟩ := hparts
      have hcode : nameCode name ≤ (arrayDefinitions.map nameCode).sum :=
        List.le_sum_of_mem (List.mem_map_of_mem hname)
      simp only [weight]
      omega
  | parameter name => exact absurd h List.not_mem_nil
  | tuple elements => exact absurd h List.not_mem_nil

/-- Putting arguments in commutes with taking the constructions, unless the reference is a
parameter itself. -/
theorem constructions_bind (σ : String → Option TypeRef) {t : TypeRef}
    (h : ∀ name, t ≠ parameter name) :
    (t.bind σ).constructions = t.constructions.map (bind σ) := by
  cases t with
  | named name args => simp only [bind, constructions, List.map_cons, List.map_nil]
  | array element rank =>
      simp only [bind, bindAll, constructions, List.map_cons, List.map_nil]
  | parameter name => exact absurd rfl (h name)
  | tuple elements => simp only [bind, constructions, List.map_nil]

/-- The argument for a parameter is the one at the place of the first parameter of the name. -/
theorem argumentOf_eq (params : List TypeParameter) (args : List TypeRef) (name : String) :
    argumentOf params args name = (params.findIdx? (·.name == name)).bind (args[·]?) := by
  induction params generalizing args with
  | nil => rfl
  | cons p params ih =>
      cases args with
      | nil => simp [argumentOf]
      | cons arg args =>
          have hrest := ih args
          rw [argumentOf] at hrest ⊢
          cases hname : p.name == name with
          | true => simp [hname, List.findIdx?_cons]
          | false => simp [hname, hrest, List.findIdx?_cons, Option.bind_map]

end TypeRef

/-- The references that a definition lists as its supertypes. -/
def TypeDef.declaredSupertypes (d : TypeDef) : List TypeRef := d.baseType.toList ++ d.interfaces

namespace Compilation

/-- One reference is above another one: it is reached from it by steps to direct supertypes. -/
abbrev Above (c : Compilation) (scope : List TypeParameter) : TypeRef → TypeRef → Prop :=
  Worklist.Reaches (c.directSupertypes scope)

variable {c : Compilation} {scope : List TypeParameter}

/-- A step leads from a named reference to what its definition lists, with the arguments put
in. -/
theorem directSupertypes_named {d : TypeDef} (hd : d ∈ c.types) (args : List TypeRef) :
    c.directSupertypes scope (.named d.fullName args) =
      d.declaredSupertypes.map (·.substitute d.typeParameters args) := by
  simp only [directSupertypes, resolve?_named hd, TypeDef.declaredSupertypes]

/-- What a reference stands for is above it. -/
theorem above_of_mem_constructions {s t : TypeRef} (h : s ∈ t.constructions) :
    c.Above scope t s := by
  cases t with
  | named name args =>
      obtain rfl := List.mem_singleton.1 h
      exact .refl
  | array element rank => exact .single h
  | parameter name => exact absurd h List.not_mem_nil
  | tuple elements => exact absurd h List.not_mem_nil

/-! ### Where arguments go -/

/-- A position for an argument: the metadata name of a definition, and a place in the list of its
arguments. -/
abbrev Position := String × ℕ

/-- A definition of the compilation lists a supertype in which `a` is the argument at a
position. -/
def Lists (c : Compilation) (d : TypeDef) (q : Position) (a : TypeRef) : Prop :=
  d ∈ c.types ∧ ∃ r ∈ d.declaredSupertypes, ∃ args, .named q.1 args ∈ r.constructions ∧
    args[q.2]? = some a

/-- A definition hands the argument at a position, which belongs to its parameter `name`, on to
another position: within `a`, the argument there. -/
def HandsOn (c : Compilation) (p : Position) (name : String) (q : Position) (a : TypeRef) : Prop :=
  ∃ d, c.Lists d q a ∧ d.fullName = p.1 ∧
    d.typeParameters.findIdx? (·.name == name) = some p.2 ∧ .parameter name ∈ a.within

/-- The argument at a position goes to another one, as it is or wrapped. -/
def Passes (c : Compilation) (p q : Position) : Prop := ∃ name a, c.HandsOn p name q a

/-- The argument at a position goes to another one as a proper part of the argument there. -/
def Wraps (c : Compilation) (p q : Position) : Prop :=
  ∃ name a, c.HandsOn p name q a ∧ a ≠ .parameter name

/-- Some argument can get back to its position and is wrapped on the way. -/
def HasGrowingCircle (c : Compilation) : Prop :=
  ∃ p q, c.Wraps p q ∧ Relation.ReflTransGen c.Passes q p

/-- No definition lists a bare parameter as its supertype. -/
def DerivesFromTypes (c : Compilation) : Prop :=
  ∀ d ∈ c.types, ∀ r ∈ d.declaredSupertypes, ∀ name, r ≠ .parameter name

/-- An argument that is wrapped is passed. -/
theorem Wraps.passes {p q : Position} (h : c.Wraps p q) : c.Passes p q := by
  obtain ⟨name, a, h, -⟩ := h
  exact ⟨name, a, h⟩

/-! ### Circles that grow -/

/-- An argument that is handed on arrives at its next position above. -/
theorem HandsOn.step {p q : Position} {name : String} {a : TypeRef} (h : c.HandsOn p name q a)
    (scope : List TypeParameter) {args : List TypeRef} {u : TypeRef} (hu : args[p.2]? = some u) :
    ∃ args' σ, c.Above scope (.named p.1 args) (.named q.1 args') ∧ σ name = some u ∧
      args'[q.2]? = some (a.bind σ) := by
  obtain ⟨p, i⟩ := p
  obtain ⟨d, ⟨hd, r, hr, as, hconstruction, ha⟩, rfl, hplace, -⟩ := h
  have hname : TypeRef.argumentOf d.typeParameters args name = some u := by
    rw [TypeRef.argumentOf_eq, hplace]
    exact hu
  have hnotParameter : ∀ name, r ≠ .parameter name := by
    rintro _ rfl
    exact absurd hconstruction List.not_mem_nil
  have hstep : c.Above scope (.named d.fullName args) (r.substitute d.typeParameters args) := by
    refine .single ?_
    rw [directSupertypes_named hd]
    exact List.mem_map_of_mem hr
  have hstands : .named q.1 (as.map (TypeRef.bind (TypeRef.argumentOf d.typeParameters args))) ∈
      (r.substitute d.typeParameters args).constructions := by
    rw [TypeRef.substitute, TypeRef.constructions_bind _ hnotParameter]
    refine List.mem_map.2 ⟨_, hconstruction, ?_⟩
    simp only [TypeRef.bind, TypeRef.bindAll_eq_map]
  refine ⟨_, _, hstep.trans (above_of_mem_constructions hstands), hname, ?_⟩
  rw [List.getElem?_map, ha, Option.map_some]

/-- An argument that is passed on does not get lighter. -/
theorem Passes.step {p q : Position} (h : c.Passes p q) (scope : List TypeParameter)
    {args : List TypeRef} {u : TypeRef} (hu : args[p.2]? = some u) :
    ∃ args' u', c.Above scope (.named p.1 args) (.named q.1 args') ∧ args'[q.2]? = some u' ∧
      u.weight ≤ u'.weight := by
  obtain ⟨name, a, hhands⟩ := h
  obtain ⟨args', σ, habove, hσ, ha⟩ := hhands.step scope hu
  obtain ⟨-, -, -, -, hwithin⟩ := hhands
  exact ⟨args', _, habove, ha, TypeRef.weight_le_weight_bind hσ a hwithin⟩

/-- An argument that is wrapped gets heavier. -/
theorem Wraps.step {p q : Position} (h : c.Wraps p q) (scope : List TypeParameter)
    {args : List TypeRef} {u : TypeRef} (hu : args[p.2]? = some u) :
    ∃ args' u', c.Above scope (.named p.1 args) (.named q.1 args') ∧ args'[q.2]? = some u' ∧
      u.weight < u'.weight := by
  obtain ⟨name, a, hhands, hne⟩ := h
  obtain ⟨args', σ, habove, hσ, ha⟩ := hhands.step scope hu
  obtain ⟨-, -, -, -, hwithin⟩ := hhands
  exact ⟨args', _, habove, ha, TypeRef.weight_lt_weight_bind hσ hwithin hne⟩

/-- An argument that is passed on any number of times does not get lighter. -/
theorem passes_steps {p q : Position} (h : Relation.ReflTransGen c.Passes p q)
    (scope : List TypeParameter) {args : List TypeRef} {u : TypeRef} (hu : args[p.2]? = some u) :
    ∃ args' u', c.Above scope (.named p.1 args) (.named q.1 args') ∧ args'[q.2]? = some u' ∧
      u.weight ≤ u'.weight := by
  induction h with
  | refl => exact ⟨args, u, .refl, hu, le_rfl⟩
  | tail _ hpass ih =>
      obtain ⟨args₁, u₁, habove₁, hu₁, hle₁⟩ := ih
      obtain ⟨args₂, u₂, habove₂, hu₂, hle₂⟩ := hpass.step scope hu₁
      exact ⟨args₂, u₂, habove₁.trans habove₂, hu₂, hle₁.trans hle₂⟩

/-- **A growing circle** has infinitely many references above each of its constructions: once
around it, the argument has become heavier. -/
theorem infinite_above_of_circle {p q : Position} (hwraps : c.Wraps p q)
    (hback : Relation.ReflTransGen c.Passes q p) (scope : List TypeParameter)
    {args : List TypeRef} {u : TypeRef} (hu : args[p.2]? = some u) :
    ¬ {t | c.Above scope (.named p.1 args) t}.Finite := by
  have haround : ∀ n, ∃ args' u', c.Above scope (.named p.1 args) (.named p.1 args') ∧
      args'[p.2]? = some u' ∧ n ≤ u'.weight := by
    intro n
    induction n with
    | zero => exact ⟨args, u, .refl, hu, Nat.zero_le _⟩
    | succ n ih =>
        obtain ⟨args₁, u₁, habove₁, hu₁, hle₁⟩ := ih
        obtain ⟨args₂, u₂, habove₂, hu₂, hlt₂⟩ := hwraps.step scope hu₁
        obtain ⟨args₃, u₃, habove₃, hu₃, hle₃⟩ := passes_steps hback scope hu₂
        exact ⟨args₃, u₃, (habove₁.trans habove₂).trans habove₃, hu₃, by omega⟩
  intro hfinite
  obtain ⟨bound, hbound⟩ := (hfinite.image TypeRef.weight).bddAbove
  obtain ⟨args', u', habove, hu', hle⟩ := haround (bound + 1)
  have hwhole : (TypeRef.named p.1 args').weight ≤ bound :=
    hbound (Set.mem_image_of_mem _ habove)
  have hpart := TypeRef.weight_le_weightAll (List.mem_of_getElem? hu')
  rw [TypeRef.weight] at hwhole
  omega

/-! ### Without growing circles -/

/-- The positions that an argument can get to. -/
def reachablePositions (c : Compilation) (p : Position) : Set Position :=
  {q | Relation.ReflTransGen c.Passes p q}

/-- The positions that arguments are handed on to. -/
def targetPositions (c : Compilation) : Set Position := {q | ∃ p, c.Passes p q}

/-- All references that definitions list as supertypes. -/
def allDeclared (c : Compilation) : List TypeRef := c.types.flatMap (·.declaredSupertypes)

/-- The positions at which a named reference has arguments. -/
def positionsOf : TypeRef → List Position
  | .named name args => (List.range args.length).map (name, ·)
  | _ => []

/-- A compilation has finitely many positions that an argument can come to. -/
theorem finite_targetPositions (c : Compilation) : c.targetPositions.Finite := by
  refine (List.finite_toSet
    ((c.allDeclared.flatMap (·.constructions)).flatMap positionsOf)).subset ?_
  rintro ⟨m, j⟩ ⟨p, name, a, d, ⟨hd, r, hr, args, hconstruction, ha⟩, -⟩
  have hj : j < args.length := (List.getElem?_eq_some_iff.1 ha).1
  refine List.mem_flatMap.2 ⟨_, List.mem_flatMap.2 ⟨r, ?_, hconstruction⟩, ?_⟩
  · exact List.mem_flatMap.2 ⟨d, hd, hr⟩
  · exact List.mem_map_of_mem (List.mem_range.2 hj)

theorem reachablePositions_subset (c : Compilation) (p : Position) :
    c.reachablePositions p ⊆ {p} ∪ c.targetPositions := by
  intro q hq
  cases hq with
  | refl => exact .inl rfl
  | tail _ hlast => exact .inr ⟨_, hlast⟩

/-- From each position finitely many others are reached. -/
theorem finite_reachablePositions (c : Compilation) (p : Position) :
    (c.reachablePositions p).Finite :=
  ((Set.finite_singleton p).union (finite_targetPositions c)).subset
    (c.reachablePositions_subset p)

/-- How many positions the argument at a position can get to. -/
noncomputable def rank (c : Compilation) (p : Position) : ℕ := (c.reachablePositions p).ncard

/-- More than any rank. -/
noncomputable def rankBound (c : Compilation) : ℕ := c.targetPositions.ncard + 2

/-- No position has a rank beyond the bound. -/
theorem rank_lt_rankBound (c : Compilation) (p : Position) : c.rank p < c.rankBound := by
  have hsubset := Set.ncard_le_ncard (c.reachablePositions_subset p)
    ((Set.finite_singleton p).union (finite_targetPositions c))
  have hunion := Set.ncard_union_le {p} c.targetPositions
  rw [Set.ncard_singleton] at hunion
  rw [rank, rankBound]
  omega

/-- An argument is passed to no position of a higher rank. -/
theorem Passes.rank_le {p q : Position} (h : c.Passes p q) : c.rank q ≤ c.rank p :=
  Set.ncard_le_ncard (fun _ hx => Relation.ReflTransGen.head h hx) (c.finite_reachablePositions p)

/-- Without growing circles, wrapping leads to a position of lower rank: there is no way back. -/
theorem Wraps.rank_lt (hcircle : ¬ c.HasGrowingCircle) {p q : Position} (h : c.Wraps p q) :
    c.rank q < c.rank p := by
  refine Set.ncard_lt_ncard ⟨fun _ hx => Relation.ReflTransGen.head h.passes hx, fun hall => ?_⟩
    (c.finite_reachablePositions p)
  exact hcircle ⟨p, q, h, hall .refl⟩

/-- A bound on the weight of the listed supertypes, and so on how much wrapping adds. -/
def factor (c : Compilation) : ℕ := TypeRef.weightAll c.allDeclared + 1

/-- No declared supertype outweighs the factor of the compilation. -/
theorem weight_le_factor {d : TypeDef} (hd : d ∈ c.types) {r : TypeRef}
    (hr : r ∈ d.declaredSupertypes) : r.weight ≤ c.factor :=
  (TypeRef.weight_le_weightAll (List.mem_flatMap.2 ⟨d, hd, hr⟩)).trans (Nat.le_succ _)

theorem factor_pos (c : Compilation) : 0 < c.factor := Nat.succ_pos _

/-- The weight allowed on a walk, given `h` for the arguments: the further an argument can still
get, the less it may weigh. -/
structure Bounded (c : Compilation) (h : ℕ) (t : TypeRef) : Prop where
  weight_le : t.weight ≤ c.factor * h
  argument_le : ∀ name args, .named name args ∈ t.constructions → ∀ (j : ℕ) a,
    args[j]? = some a → a.weight * c.factor ^ c.rank (name, j) ≤ h

/-- What a bounded reference stands for is bounded. -/
theorem Bounded.construction {h : ℕ} {s t : TypeRef} (ht : c.Bounded h t)
    (hs : s ∈ t.constructions) : c.Bounded h s where
  weight_le := (TypeRef.weight_le_of_mem_constructions hs).trans ht.weight_le
  argument_le name args hargs := by
    obtain ⟨m, bs, rfl⟩ := TypeRef.exists_of_mem_constructions hs
    obtain ⟨rfl, rfl⟩ := TypeRef.named.inj (List.mem_singleton.1 hargs)
    exact ht.argument_le _ _ hs

/-! ### What an argument becomes -/

section Argument

variable {h : ℕ} {d : TypeDef} {q : Position} {a : TypeRef} {args : List TypeRef}

/-- An argument in a listed supertype weighs no more than the bound on all that is listed. -/
theorem Lists.weight_le (hlists : c.Lists d q a) : a.weight ≤ c.factor := by
  obtain ⟨hd, r, hr, as, hconstruction, ha⟩ := hlists
  have hpart := TypeRef.weight_le_weightAll (List.mem_of_getElem? ha)
  have hwhole := (TypeRef.weight_le_of_mem_constructions hconstruction).trans
    (weight_le_factor hd hr)
  rw [TypeRef.weight] at hwhole
  omega

/-- An argument that is put into a listed supertype is handed on. -/
theorem Lists.exists_handsOn (hlists : c.Lists d q a) {name : String} {u : TypeRef}
    (hwithin : .parameter name ∈ a.within)
    (hu : TypeRef.argumentOf d.typeParameters args name = some u) :
    ∃ i, args[i]? = some u ∧ c.HandsOn (d.fullName, i) name q a := by
  rw [TypeRef.argumentOf_eq] at hu
  obtain ⟨i, hplace, hi⟩ := Option.bind_eq_some_iff.1 hu
  exact ⟨i, hi, d, hlists, rfl, hplace, hwithin⟩

/-- A bare parameter becomes the argument for it, whose old position allowed no more weight. -/
theorem weight_passed_le {name : String} (hlists : c.Lists d q (.parameter name))
    (hroom : c.factor ^ c.rankBound ≤ h)
    (hargs : ∀ (i : ℕ) u, args[i]? = some u →
      u.weight * c.factor ^ c.rank (d.fullName, i) ≤ h) :
    ((TypeRef.parameter name).bind (TypeRef.argumentOf d.typeParameters args)).weight *
      c.factor ^ c.rank q ≤ h := by
  have hK := c.factor_pos
  rw [TypeRef.bind]
  cases hname : TypeRef.argumentOf d.typeParameters args name with
  | none =>
      rw [Option.getD_none]
      calc (TypeRef.parameter name).weight * c.factor ^ c.rank q
          ≤ c.factor * c.factor ^ c.rank q := Nat.mul_le_mul_right _ hlists.weight_le
        _ = c.factor ^ (c.rank q + 1) := by rw [Nat.pow_succ, Nat.mul_comm]
        _ ≤ c.factor ^ c.rankBound := Nat.pow_le_pow_right hK (c.rank_lt_rankBound q)
        _ ≤ h := hroom
  | some u =>
      obtain ⟨i, hu, hhand⟩ := hlists.exists_handsOn (TypeRef.self_mem_within _) hname
      have hle : c.rank q ≤ c.rank (d.fullName, i) := Passes.rank_le ⟨name, _, hhand⟩
      rw [Option.getD_some]
      exact (Nat.mul_le_mul_left _ (Nat.pow_le_pow_right hK hle)).trans (hargs i u hu)

/-- What is wrapped had a higher rank, so it is lighter by the factor that it may gain. -/
theorem weight_wrapped_le (hcircle : ¬ c.HasGrowingCircle) (hlists : c.Lists d q a)
    (hwraps : ∀ name, a ≠ .parameter name) (hroom : c.factor ^ c.rankBound ≤ h)
    (hargs : ∀ (i : ℕ) u, args[i]? = some u →
      u.weight * c.factor ^ c.rank (d.fullName, i) ≤ h) :
    (a.bind (TypeRef.argumentOf d.typeParameters args)).weight * c.factor ^ c.rank q ≤ h := by
  have hK := c.factor_pos
  have hinner : ∀ name, .parameter name ∈ a.within → ∀ u,
      TypeRef.argumentOf d.typeParameters args name = some u →
      u.weight ≤ h / c.factor ^ (c.rank q + 1) := by
    intro name hwithin u hname
    obtain ⟨i, hu, hhand⟩ := hlists.exists_handsOn hwithin hname
    have hlt : c.rank q < c.rank (d.fullName, i) :=
      Wraps.rank_lt hcircle ⟨name, a, hhand, hwraps name⟩
    rw [Nat.le_div_iff_mul_le (Nat.pow_pos hK)]
    exact (Nat.mul_le_mul_left _ (Nat.pow_le_pow_right hK hlt)).trans (hargs i u hu)
  have hquotient : 0 < h / c.factor ^ (c.rank q + 1) := by
    refine Nat.div_pos ?_ (Nat.pow_pos hK)
    exact (Nat.pow_le_pow_right hK (c.rank_lt_rankBound q)).trans hroom
  have hbind := TypeRef.weight_bind_le hquotient a hinner
  calc (a.bind (TypeRef.argumentOf d.typeParameters args)).weight * c.factor ^ c.rank q
      ≤ c.factor * (h / c.factor ^ (c.rank q + 1)) * c.factor ^ c.rank q :=
        Nat.mul_le_mul_right _ (hbind.trans (Nat.mul_le_mul_right _ hlists.weight_le))
    _ = h / c.factor ^ (c.rank q + 1) * c.factor ^ (c.rank q + 1) := by
        rw [Nat.pow_succ]
        ring
    _ ≤ h := Nat.div_mul_le_self ..

/-- **What an argument becomes** at its next position is within the bound there. -/
theorem weight_argument_le (hcircle : ¬ c.HasGrowingCircle) (hlists : c.Lists d q a)
    (hroom : c.factor ^ c.rankBound ≤ h)
    (hargs : ∀ (i : ℕ) u, args[i]? = some u →
      u.weight * c.factor ^ c.rank (d.fullName, i) ≤ h) :
    (a.bind (TypeRef.argumentOf d.typeParameters args)).weight * c.factor ^ c.rank q ≤ h := by
  by_cases hbare : ∃ name, a = .parameter name
  · obtain ⟨name, rfl⟩ := hbare
    exact weight_passed_le hlists hroom hargs
  · exact weight_wrapped_le hcircle hlists (fun name heq => hbare ⟨name, heq⟩) hroom hargs

end Argument

/-! ### What a step keeps -/

/-- **A step keeps to the bound.** -/
theorem Bounded.step (htypes : c.DerivesFromTypes) (hcircle : ¬ c.HasGrowingCircle) {h : ℕ}
    (hroom : c.factor ^ c.rankBound ≤ h)
    (hscope : ∀ u ∈ scope.flatMap (·.constraints), c.Bounded h u) {t u : TypeRef}
    (ht : c.Bounded h t) (hu : u ∈ c.directSupertypes scope t) : c.Bounded h u := by
  have hK := c.factor_pos
  cases t with
  | array element rank => exact ht.construction hu
  | parameter name => exact hscope u (constraintsOf_subset scope name hu)
  | tuple elements => exact absurd hu List.not_mem_nil
  | named name args =>
      cases hresolve : c.resolve? (.named name args) with
      | none => simp [directSupertypes, hresolve] at hu
      | some d =>
          obtain ⟨hd, hname⟩ := resolve?_eq_some_iff.1 hresolve
          obtain rfl : name = d.fullName := Option.some.inj hname
          rw [directSupertypes_named hd] at hu
          obtain ⟨r, hr, rfl⟩ := List.mem_map.1 hu
          have hargs := ht.argument_le d.fullName args (List.mem_singleton_self _)
          have hlight : ∀ name u, TypeRef.argumentOf d.typeParameters args name = some u →
              u.weight ≤ h := by
            intro name u hput
            rw [TypeRef.argumentOf_eq] at hput
            obtain ⟨i, -, hi⟩ := Option.bind_eq_some_iff.1 hput
            exact (Nat.le_mul_of_pos_right _ (Nat.pow_pos hK)).trans (hargs i u hi)
          constructor
          · have hpos : 0 < h := (Nat.pow_pos hK).trans_le hroom
            have hbind := TypeRef.weight_bind_le hpos r fun name _ => hlight name
            exact hbind.trans (Nat.mul_le_mul_right _ (weight_le_factor hd hr))
          · intro m bs hbs j b hb
            rw [TypeRef.substitute, TypeRef.constructions_bind _ (htypes d hd r hr)] at hbs
            obtain ⟨s, hs, hsbs⟩ := List.mem_map.1 hbs
            obtain ⟨m', as, rfl⟩ := TypeRef.exists_of_mem_constructions hs
            simp only [TypeRef.bind, TypeRef.bindAll_eq_map, TypeRef.named.injEq] at hsbs
            obtain ⟨rfl, rfl⟩ := hsbs
            rw [List.getElem?_map] at hb
            obtain ⟨a, ha, rfl⟩ := Option.map_eq_some_iff.1 hb
            exact weight_argument_le hcircle ⟨hd, r, hr, as, hs, ha⟩ hroom hargs

/-- **Without growing circles** finitely many references are above each one. -/
theorem finite_above (htypes : c.DerivesFromTypes) (hcircle : ¬ c.HasGrowingCircle)
    (scope : List TypeParameter) (t : TypeRef) : {u | c.Above scope t u}.Finite := by
  let start := t :: scope.flatMap (·.constraints)
  let h := (TypeRef.weightAll start + 1) * c.factor ^ c.rankBound
  have hK := c.factor_pos
  have hroom : c.factor ^ c.rankBound ≤ h := Nat.le_mul_of_pos_left _ (Nat.succ_pos _)
  have hstart : ∀ u ∈ start, c.Bounded h u := by
    intro u hu
    have hweight : u.weight ≤ TypeRef.weightAll start + 1 :=
      (TypeRef.weight_le_weightAll hu).trans (Nat.le_succ _)
    constructor
    · have hle : u.weight ≤ h := hweight.trans (Nat.le_mul_of_pos_right _ (Nat.pow_pos hK))
      exact hle.trans (Nat.le_mul_of_pos_left _ hK)
    · intro name args hargs j a ha
      have hpart : a.weight ≤ u.weight := by
        have hwhole := TypeRef.weight_le_of_mem_constructions hargs
        have hin := TypeRef.weight_le_weightAll (List.mem_of_getElem? ha)
        rw [TypeRef.weight] at hwhole
        omega
      exact Nat.mul_le_mul (hpart.trans hweight)
        (Nat.pow_le_pow_right hK (c.rank_lt_rankBound (name, j)).le)
  have hscope := fun u hu => hstart u (List.mem_cons_of_mem t hu)
  refine (TypeRef.finite_weight_le (c.factor * h)).1.subset fun u hu => ?_
  suffices hbounded : c.Bounded h u from hbounded.weight_le
  induction hu with
  | refl => exact hstart t List.mem_cons_self
  | tail _ hstep ih => exact ih.step htypes hcircle hroom hscope hstep

end Compilation

end Companion
