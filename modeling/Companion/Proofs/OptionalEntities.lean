import Companion.Proofs.BuilderHistory

/-!
# Builders of Optional Entities

A builder can be made from an optional entity and gives one back. Made from none, it starts from the
default entity and keeps in mind that there was none, and it gives none back as long as it is clean.
What makes it dirty is a value that differs from the default entity's. So a builder whose setters
were only called with the values of the default entity still gives none, where the builder of the
default entity gives that entity after the same calls.

The builders of a hierarchy share one state, which the topmost of them keeps. A setter of a base
works on it like one of the entity itself, so calls are of any properties here.

## Main results

* `Entity.declaresOptionBuilder`: the unit of an entity with code for optional values declares the
  members that are run here.
* `BuilderCall.exists_runAll_isDirty_eq`: what calls leave of the original and of the dirty flag.
* `Entity.optionAfter_eq`: what a builder made from none gives back after any calls.
-/

namespace Companion

variable {V : Type} {rt : BuilderRuntime V} {properties : List BuilderProperty}

/-! ### Members that deal with options -/

/-- A new builder that starts from an entity. -/
def BuilderMemory.startingFrom (rt : BuilderRuntime V) (instances : Nat) (x : Instance V) :
    BuilderMemory V :=
  { blank rt instances with original := x }

namespace Entity

/-- How the builder at the top of a hierarchy starts from what it is given. -/
def adoption (top : Entity) : BuilderStatement :=
  if top.isAbstract then .adoptRequired else .adoptGiven

section Conversions

variable (e top : Entity) (rt : BuilderRuntime V) (instances : Nat)

/-- A new builder of a concrete entity, with an entity to start from or without one. A derived
builder hands that entity or the default one up to the top of the hierarchy. -/
def newBuilder (given : Option (Instance V)) : Option (BuilderMemory V) :=
  let blank := BuilderMemory.blank rt instances
  let frame :=
    if e.base.isEntity then
      BuilderStatement.runAll rt {} [top.adoption]
        { memory := blank, given := some (given.getD rt.defaultEntity) }
    else if given.isSome then
      BuilderStatement.runAll rt {} [.adoptGiven] { memory := blank, given }
    else BuilderStatement.runAll rt {} [.adoptDefault] { memory := blank }
  frame.map (·.memory)

/-- The builder made from an optional entity. -/
def fromOption (given : Option (Instance V)) : Option (BuilderMemory V) := do
  let f ← BuilderStatement.runAll rt { newBuilder := e.newBuilder top rt instances } fromOptionBody
    { memory := BuilderMemory.blank rt instances, given }
  match f.result with
  | some (.builder m) => some m
  | _ => none

end Conversions

end Entity

/-- The optional entity that a builder gives, and what the builder keeps then. -/
def BuilderMemory.toOption (rt : BuilderRuntime V) (properties : List BuilderProperty)
    (m : BuilderMemory V) : Option (Option (Instance V) × BuilderMemory V) := do
  let f ← BuilderStatement.runAll rt { toImmutable := toImmutable rt properties } toOptionBody
    { memory := m }
  match f.result with
  | some (.option x?) => some (x?, f.memory)
  | _ => none

namespace Entity

variable (e top : Entity) (instances : Nat)

/-- Wherever it is kept, the original is the entity given, or else the default one. -/
theorem newBuilder_eq (given : Option (Instance V)) :
    e.newBuilder top rt instances given =
      some (.startingFrom rt instances (given.getD rt.defaultEntity)) := by
  cases hbase : e.base.isEntity <;> cases htop : top.isAbstract <;> cases given <;>
    simp [newBuilder, adoption, BuilderStatement.runAll, BuilderStatement.run,
      BuilderMemory.startingFrom, hbase, htop]

/-- A builder made from none is the builder of the default entity, up to the flag. -/
theorem fromOption_none :
    e.fromOption top rt instances none =
      (e.newBuilder top rt instances none).map fun m => { m with isNone := true } := by
  simp [fromOption, fromOptionBody, BuilderStatement.runAll, BuilderStatement.run,
    BuilderTest.eval, newBuilder_eq]

end Entity

namespace BuilderMemory

/-- **What a builder gives as an option**: none if it was made from none and is clean, else the
entity that it builds. -/
theorem toOption_eq (m : BuilderMemory V) :
    m.toOption rt properties =
      if m.isNone && !m.isDirty then some (none, m)
      else (m.toImmutable rt properties).map fun built => (some built.1, built.2) := by
  cases hnone : m.isNone <;> cases hdirty : m.isDirty <;>
    cases hbuilt : m.toImmutable rt properties <;>
      simp [toOption, toOptionBody, BuilderStatement.runAll, BuilderStatement.run, hnone, hdirty,
        hbuilt]

/-! ### The flags -/

/-- No setter looks at the flag of a builder made from none. -/
theorem set_isNone (p : BuilderProperty) (v : V) (m : BuilderMemory V) (flag : Bool) :
    { m with isNone := flag }.set rt p v =
      (m.set rt p v).map fun m' => { m' with isNone := flag } := by
  cases hsame : rt.same p.type (m.original.value p) v <;> simp [set_eq, hsame]

/-- An entity described with the flag is the one described without. -/
@[simp] theorem entity_isNone (original : Instance V) (isSet : BuilderProperty → Bool)
    (stored : BuilderProperty → V) (isDirty : Bool) (cached : Option (Instance V))
    (instances : Nat) :
    entity rt properties ⟨original, isSet, stored, isDirty, cached, true, instances⟩ =
      entity rt properties ⟨original, isSet, stored, isDirty, cached, false, instances⟩ := by
  simp only [entity, get_eq]

/-- Building an entity does not look at that flag either. -/
theorem toImmutable_isNone (m : BuilderMemory V) (flag : Bool) :
    { m with isNone := flag }.toImmutable rt properties =
      (m.toImmutable rt properties).map fun built =>
        (built.1, { built.2 with isNone := flag }) := by
  obtain ⟨original, isSet, stored, isDirty, cached, isNone, instances⟩ := m
  cases cached with
  | some x => simp [toImmutable_of_cached]
  | none =>
      cases isDirty with
      | false =>
          simp [toImmutable, toImmutableBody, BuilderStatement.runAll, BuilderStatement.run,
            BuilderTest.eval]
      | true =>
          cases hequals : rt.equals
            (entity rt properties ⟨original, isSet, stored, true, none, false, instances⟩)
              original <;> cases flag <;> cases isNone <;>
            simp [toImmutable, toImmutableBody, BuilderStatement.runAll, BuilderStatement.run,
              BuilderTest.eval, construct_eq, hequals]

/-- That a clean builder keeps no entity but its original. -/
def KeepsOriginal (m : BuilderMemory V) : Prop :=
  m.isDirty = false → ∀ x, m.cached = some x → x = m.original

variable (rt properties) in
/-- A clean builder that keeps no entity but its original builds that. -/
theorem KeepsOriginal.exists_toImmutable_eq {m : BuilderMemory V} (h : m.KeepsOriginal) :
    ∃ x m', m.toImmutable rt properties = some (x, m') ∧ m'.original = m.original ∧
      m'.isDirty = m.isDirty ∧ m'.KeepsOriginal ∧ (m.isDirty = false → x = m.original) := by
  obtain ⟨x, n, hbuilt, hcases⟩ := m.exists_toImmutable_eq rt properties
  have hx : m.isDirty = false → x = m.original := by
    intro hclean
    rcases hcases with hcached | ⟨-, -, hdirty, -⟩ | ⟨-, horiginal, -⟩
    · exact h hclean x hcached
    · simp [hclean] at hdirty
    · exact horiginal
  refine ⟨x, _, hbuilt, rfl, rfl, ?_, hx⟩
  rintro hclean _ ⟨⟩
  exact hx hclean

end BuilderMemory

namespace BuilderCall

variable (rt) in
/-- Whether a call sets a value that differs from an entity's. -/
def changes (x : Instance V) : BuilderCall V → Bool
  | set p v => !rt.same p.type (x.value p) v
  | toImmutable => false

/-- A call does the same to a builder made from none. -/
theorem run_isNone (m : BuilderMemory V) (call : BuilderCall V) (flag : Bool) :
    run rt properties { m with isNone := flag } call =
      (run rt properties m call).map fun m' => { m' with isNone := flag } := by
  cases call with
  | set p v => exact m.set_isNone p v flag
  | toImmutable => simp [run, m.toImmutable_isNone flag, Function.comp_def]

/-- Calls do the same to a builder made from none. -/
theorem runAll_isNone (calls : List (BuilderCall V)) (m : BuilderMemory V) (flag : Bool) :
    runAll rt properties { m with isNone := flag } calls =
      (runAll rt properties m calls).map fun m' => { m' with isNone := flag } := by
  induction calls generalizing m with
  | nil => rfl
  | cons call calls ih =>
      simp only [runAll] at ih
      cases hrun : run rt properties m call with
      | none => simp [runAll, run_isNone, hrun]
      | some m' => simp [runAll, run_isNone, hrun, ih]

variable (rt properties) in
/-- **What one call leaves**: the original, and a dirty builder dirty. It makes a clean one dirty
exactly when it changes the original. -/
theorem exists_run_isDirty_eq {m : BuilderMemory V} (hm : m.KeepsOriginal) (call : BuilderCall V) :
    ∃ m', run rt properties m call = some m' ∧ m'.original = m.original ∧ m'.KeepsOriginal ∧
      m'.isDirty = (m.isDirty || call.changes rt m.original) := by
  cases call with
  | set p v =>
      rw [run, BuilderMemory.set_eq]
      cases hsame : rt.same p.type (m.original.value p) v <;>
        simp [changes, BuilderMemory.KeepsOriginal, hsame]
  | toImmutable =>
      obtain ⟨x, m', hbuilt, horiginal, hdirty, hm', -⟩ := hm.exists_toImmutable_eq rt properties
      exact ⟨m', by simp [run, hbuilt], horiginal, hm', by simp [changes, hdirty]⟩

variable (rt properties) in
/-- **What calls leave**: the original, and a dirty builder dirty. They make a clean one dirty
exactly when one of them changes the original. -/
theorem exists_runAll_isDirty_eq (calls : List (BuilderCall V)) {m : BuilderMemory V}
    (hm : m.KeepsOriginal) :
    ∃ m', runAll rt properties m calls = some m' ∧ m'.original = m.original ∧ m'.KeepsOriginal ∧
      m'.isDirty = (m.isDirty || calls.any (·.changes rt m.original)) := by
  induction calls generalizing m with
  | nil => exact ⟨m, rfl, rfl, hm, by simp⟩
  | cons call calls ih =>
      obtain ⟨m₁, hrun, horiginal₁, hm₁, hdirty₁⟩ := exists_run_isDirty_eq rt properties hm call
      obtain ⟨m₂, hruns, horiginal₂, hm₂, hdirty₂⟩ := ih hm₁
      refine ⟨m₂, by simp [runAll, hrun, ← hruns], horiginal₂.trans horiginal₁, hm₂, ?_⟩
      rw [hdirty₂, hdirty₁, horiginal₁, List.any_cons, Bool.or_assoc]

end BuilderCall

/-! ### The code that is run -/

namespace Entity

open Piece

/-- That an entity's unit declares the members of a builder that deal with options as they are run
here, and with them the setters of the entity and of whatever it derives from. -/
structure DeclaresOptionBuilder (e top : Entity) : Prop where
  fromOption : e.body fromOptionBody ∈
    bodiesAll ("public static " ++ e.newModifier ++ "Builder FromOption(" ++ e.option ++
      " original)") e.code
  toOption : e.body toOptionBody ∈
    bodiesAll ("public " ++ e.newModifier ++ e.option ++ " ToOptionImmutable()") e.code
  toImmutable : e.body toImmutableBody ∈
    bodiesAll ("public " ++ e.newModifier ++ e.name ++ " ToImmutable()") e.code
  /-- A derived builder made without an entity hands up the default one. -/
  derived : e.base.isEntity = true →
    e.body [.comment "`_original` is assigned in the base builder."] ∈
      bodiesAll ("public Builder() : base(" ++ e.name ++ ".Default)") e.code
  root : e.base.isEntity = false →
    e.body [.adoptDefault] ∈ bodiesAll "public Builder()" e.code
  /-- The top of the hierarchy keeps the entity handed up. -/
  adoption : top.base.isEntity = false →
    top.body [top.adoption] ∈
      bodiesAll ((if top.isAbstract then "protected" else "public") ++ " Builder(" ++ top.name ++
        " original)") top.code
  setter : ∀ level : Entity, ∀ p ∈ level.properties,
    [.line ("get => " ++ p.getter.code level.definition ++ ";"),
        .braces "set" (level.body p.setter)] ∈
      bodiesAll ("public " ++ p.newModifier ++ p.type ++ " " ++ p.name) level.code

/-- What the constructors or the properties of a builder declare is declared in the unit. -/
theorem mem_bodiesAll_code_of_builder (e : Entity) {header : String} {body : List Piece}
    (h : body ∈ bodiesAll header e.builderConstructors ∨
      ∃ p ∈ e.properties, body ∈ bodiesAll header (e.builderProperty p)) :
    body ∈ bodiesAll header e.code := by
  refine e.mem_bodiesAll_code (.inl ?_)
  rcases h with h | h
  · simp [builderClass, h]
  · simp [builderClass, List.flatMap_map, h]

/-- **The unit of an entity with code for optional values** declares the members that are run
here. -/
theorem declaresOptionBuilder (e top : Entity) (hoption : e.hasOptionCode = true) :
    e.DeclaresOptionBuilder top := by
  have hconcrete : e.isAbstract = false := by
    have h := hoption
    simp only [hasOptionCode, Config.generatesOptionCode, Bool.and_eq_true,
      Bool.not_eq_true'] at h
    exact h.2
  refine ⟨?fromOption, ?toOption, ?toImmutable, fun hbase => ?derived, fun hbase => ?root,
    fun hroot => ?adoption, fun level p hp => ?setter⟩
  case fromOption => simp [code, entityClass, hoption, optionRegion]
  case toOption => simp [code, entityClass, hoption, optionRegion]
  case toImmutable =>
    exact e.mem_bodiesAll_code (.inl (e.mem_bodiesAll_builderClass hconcrete (.inr (.inr (by
      simp [Entity.toImmutable])))))
  case derived =>
    exact e.mem_bodiesAll_code_of_builder (.inl (by
      simp [builderConstructors, derivedConstructors, hbase, hconcrete]))
  case root =>
    exact e.mem_bodiesAll_code_of_builder (.inl (by
      simp [builderConstructors, rootConstructors, hbase, hconcrete]))
  case adoption =>
    refine top.mem_bodiesAll_code_of_builder (.inl ?_)
    cases habstract : top.isAbstract <;>
      simp [builderConstructors, rootConstructors, Entity.adoption, hroot, habstract]
  case setter =>
    exact level.mem_bodiesAll_code_of_builder (.inr ⟨p, hp, by simp [builderProperty]⟩)

end Entity

/-! ### Any calls -/

namespace Entity

section After

variable (e top : Entity) (rt : BuilderRuntime V) (properties : List BuilderProperty)
  (instances : Nat) (calls : List (BuilderCall V))

/-- The entity that the builder of the default entity builds after calls. -/
def builtAfter : Option (Instance V) := do
  let m ← BuilderCall.runAll rt properties (← e.newBuilder top rt instances none) calls
  (m.toImmutable rt properties).map (·.1)

/-- The optional entity that a builder made from none gives after calls. -/
def optionAfter : Option (Option (Instance V)) := do
  let m ← BuilderCall.runAll rt properties (← e.fromOption top rt instances none) calls
  (m.toOption rt properties).map (·.1)

end After

/-- A builder made from none gives what the builder of the default entity builds after the same
calls, if one of them changes that entity; else it gives none, and the other builds the default
entity. -/
theorem exists_builtAfter_eq (e top : Entity) (rt : BuilderRuntime V)
    (properties : List BuilderProperty) (instances : Nat) (calls : List (BuilderCall V)) :
    ∃ x, e.builtAfter top rt properties instances calls = some x ∧
      if calls.any (·.changes rt rt.defaultEntity) then
        e.optionAfter top rt properties instances calls = some (some x)
      else
        x = rt.defaultEntity ∧ e.optionAfter top rt properties instances calls = some none := by
  let start := BuilderMemory.startingFrom rt instances rt.defaultEntity
  have hstart : start.KeepsOriginal := by
    simp [BuilderMemory.KeepsOriginal, start, BuilderMemory.startingFrom, BuilderMemory.blank]
  obtain ⟨m, hrun, horiginal, hm, hdirty⟩ :=
    BuilderCall.exists_runAll_isDirty_eq rt properties calls hstart
  obtain ⟨x, m', hbuilt, -, -, -, hx⟩ := hm.exists_toImmutable_eq rt properties
  refine ⟨x, by simp [builtAfter, newBuilder_eq, start, hrun, hbuilt], ?_⟩
  -- the two builders differ in the flag only, and that is looked at when the option is given back
  have hrunNone : BuilderCall.runAll rt properties { start with isNone := true } calls =
      some { m with isNone := true } := by
    rw [BuilderCall.runAll_isNone, hrun, Option.map_some]
  have hafter : e.optionAfter top rt properties instances calls =
      (BuilderMemory.toOption rt properties { m with isNone := true }).map (·.1) := by
    simp [optionAfter, fromOption_none, newBuilder_eq, start, hrunNone]
  have hchanged : m.isDirty = calls.any (·.changes rt rt.defaultEntity) := by
    rw [hdirty]
    simp [start, BuilderMemory.startingFrom, BuilderMemory.blank]
  rw [hafter, BuilderMemory.toOption_eq, BuilderMemory.toImmutable_isNone, hbuilt, ← hchanged]
  cases hflag : m.isDirty with
  | true => simp
  | false => simpa [start, BuilderMemory.startingFrom] using (hx hflag).trans horiginal

/-- **What a builder made from none gives back** after any calls, for an entity with code for
optional values. If one of the calls set a value that differs from the default entity's, it gives
the entity that the builder of the default entity builds after the same calls. Otherwise it gives
none, where the other gives the default entity. -/
theorem optionAfter_eq (e top : Entity) (hoption : e.hasOptionCode = true)
    (rt : BuilderRuntime V) (properties : List BuilderProperty) (instances : Nat)
    (calls : List (BuilderCall V)) :
    e.DeclaresOptionBuilder top ∧
      ∃ x, e.builtAfter top rt properties instances calls = some x ∧
        if calls.any (·.changes rt rt.defaultEntity) then
          e.optionAfter top rt properties instances calls = some (some x)
        else
          x = rt.defaultEntity ∧ e.optionAfter top rt properties instances calls = some none :=
  ⟨e.declaresOptionBuilder top hoption,
    e.exists_builtAfter_eq top rt properties instances calls⟩

end Entity

/-- A program with optional values and a root entity with one property has a run that writes the
code for them. -/
theorem exists_optional_countedItem :
    ∃ c config g item count,
      Compilation.ofProgram (.onSmallCore [Program.stub "Uno" "Option", countedItem]) = .ok c ∧
      Config.resolve c = .ok config ∧ generate c = .ok g ∧
      item ∈ (Plan.of c config).immutable ∧
      ((Plan.immutablePass c config).entity item).hasOptionCode = true ∧
      ((Plan.immutablePass c config).entity item).properties = [count] := by
  obtain ⟨c, config, g, hc, hconfig, hg, hcheck⟩ :=
    Program.exists_run (.onSmallCore [Program.stub "Uno" "Option", countedItem])
      (fun c config _ => (c.type? "Shop.Item").any fun (item : TypeDef) =>
        decide (item.origin = .source ∧ c.requestsImmutable item = true ∧
          ((Plan.immutablePass c config).entity item).hasOptionCode = true ∧
          ((Plan.immutablePass c config).entity item).properties.map (·.name) = ["Count"]))
      (by decide +kernel)
  obtain ⟨item, hitem, hcheck⟩ := (Option.any_eq_true _ _).1 hcheck
  obtain ⟨hsource, hrequests, hoption, hnames⟩ := of_decide_eq_true hcheck
  obtain ⟨count, hproperties, -⟩ := List.map_eq_singleton_iff.1 hnames
  exact ⟨c, config, g, item, count, hc, hconfig, hg,
    Plan.mem_select.2 ⟨(Compilation.type?_eq_some_iff.1 hitem).1, hsource, hrequests⟩, hoption,
    hproperties⟩

/-- **A count that is not the default one gives an item**: in a builder made from none, 42 is set
where the default entity has 4. -/
theorem count_set_gives_item :
    ∃ c config g item count x,
      Compilation.ofProgram (.onSmallCore [Program.stub "Uno" "Option", countedItem]) = .ok c ∧
      Config.resolve c = .ok config ∧ generate c = .ok g ∧
      item ∈ (Plan.of c config).immutable ∧
      ((Plan.immutablePass c config).entity item).hasOptionCode = true ∧
      ((Plan.immutablePass c config).entity item).builtAfter
        ((Plan.immutablePass c config).entity item) (.ofNumbers [count]) [count] 1
        [.set count 42] = some x ∧
      ((Plan.immutablePass c config).entity item).optionAfter
        ((Plan.immutablePass c config).entity item) (.ofNumbers [count]) [count] 1
        [.set count 42] = some (some x) := by
  obtain ⟨c, config, g, item, count, hc, hconfig, hg, hitem, hoption, -⟩ :=
    exists_optional_countedItem
  obtain ⟨-, x, hbuilt, hafter⟩ :=
    ((Plan.immutablePass c config).entity item).optionAfter_eq
      ((Plan.immutablePass c config).entity item) hoption (.ofNumbers [count]) [count] 1
      [.set count 42]
  exact ⟨c, config, g, item, count, x, hc, hconfig, hg, hitem, hoption, hbuilt,
    hafter⟩

/-- **The default count gives none**: in a builder made from none, the count is set to the 4 that
the default entity has. The builder of the default entity builds that entity after the same call. -/
theorem default_count_gives_none :
    ∃ c config g item count,
      Compilation.ofProgram (.onSmallCore [Program.stub "Uno" "Option", countedItem]) = .ok c ∧
      Config.resolve c = .ok config ∧ generate c = .ok g ∧
      item ∈ (Plan.of c config).immutable ∧
      ((Plan.immutablePass c config).entity item).hasOptionCode = true ∧
      ((Plan.immutablePass c config).entity item).properties = [count] ∧
      ((Plan.immutablePass c config).entity item).builtAfter
        ((Plan.immutablePass c config).entity item) (.ofNumbers [count]) [count] 1
        [.set count 4] = some (BuilderRuntime.ofNumbers [count]).defaultEntity ∧
      ((Plan.immutablePass c config).entity item).optionAfter
        ((Plan.immutablePass c config).entity item) (.ofNumbers [count]) [count] 1
        [.set count 4] = some none := by
  obtain ⟨c, config, g, item, count, hc, hconfig, hg, hitem, hoption, hproperties⟩ :=
    exists_optional_countedItem
  obtain ⟨x, hbuilt, rfl, hafter⟩ :=
    ((Plan.immutablePass c config).entity item).exists_builtAfter_eq
      ((Plan.immutablePass c config).entity item) (.ofNumbers [count]) [count] 1 [.set count 4]
  exact ⟨c, config, g, item, count, hc, hconfig, hg, hitem, hoption, hproperties, hbuilt, hafter⟩

end Companion
