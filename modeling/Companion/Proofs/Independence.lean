import Companion.Proofs.Agreement.Plan

/-!
# What the Units of a Program Do Not Depend On

A program lists its types in some order, and the order shows nowhere: not in what is found under a
name, and not in the plans, which have an order of their own. Nor does the unit of a type depend on
a type that nothing refers to and whose name the generators do not know themselves. It may be added
anywhere; what is generated for the other types stays the same, to the order of the units.

Both are cases of compilations that agree. Types in another order agree on all names, and a type
added leaves agreement on all names but its own.

## Main results

* `generate_perm`: the order of the types of a program is irrelevant.
* `generate_insert`: a type that nothing refers to changes no other unit.
-/

namespace Companion

open Compilation

variable {c c' : Compilation} {p : Program} {types : List TypeDef}

/-- Further types of a program, and a change of their order, leave the core types in front. -/
theorem Compilation.declaredTypes_perm (others : List TypeDef)
    (hperm : types.Perm (others ++ p.types)) :
    (declaredTypes { p with types }).Perm (others ++ declaredTypes p) :=
  (hperm.append_left _).trans (List.perm_append_comm_assoc ..)

/-! ### The same types in another order -/

/-- Compilations of the same types agree on all names. -/
theorem Compilation.agrees_of_perm (hperm : c'.types.Perm c.types)
    (hassembly : c'.assembly = c.assembly) : c.Agrees Set.univ c' where
  assembly_eq := hassembly
  type?_eq name _ := by
    ext d
    rw [type?_eq_some_iff, type?_eq_some_iff, hperm.mem_iff]
  fullName_mem _ _ := Set.mem_univ _
  references _ _ _ _ _ _ _ _ := Set.mem_univ _
  wellKnown _ _ := Set.mem_univ _
  probed _ _ := Set.mem_univ _

/-- Compilations that agree and have the same types generate the same. -/
theorem Compilation.Agrees.generate_eq {known : Set String} (h : c.Agrees known c')
    (hsame : ∀ d, d ∈ c.types ↔ d ∈ c'.types) (engine : PatternEngine) :
    generate c' engine = generate c engine := by
  have hunits : ∀ config, (Plan.of c' config).artifacts c' config =
      (Plan.of c config).artifacts c config := by
    intro config
    have hfilter := h.filter_units config (fun _ => true) (by simpa using hsame)
    rw [List.filter_true] at hfilter
    rw [← Plan.map_snd_units, ← Plan.map_snd_units, hfilter]
  simp only [generate, h.requireWellKnownTypes_eq, h.resolve_eq, hunits]

/-- **The order of the types of a program is irrelevant.** With its types in another order, a
program is refused for a repeated name if it was before, and else it generates the same: the same
error or the same units in the same order. -/
theorem generate_perm (p : Program) (engine : PatternEngine) (hperm : types.Perm p.types) :
    (∃ name name', ofProgram p = .error (.duplicateType name) ∧
        ofProgram { p with types } = .error (.duplicateType name')) ∨
      ∃ c c', ofProgram p = .ok c ∧ ofProgram { p with types } = .ok c' ∧
        generate c' engine = generate c engine := by
  have hdeclared : (declaredTypes { p with types }).Perm (declaredTypes p) :=
    declaredTypes_perm [] hperm
  have hnames := (hdeclared.map (·.fullName)).nodup_iff
  rcases ofProgram_cases p with ⟨c, hc, htypes, hassembly⟩ | ⟨hrepeated, name, herror⟩
  · have hnodup : ((declaredTypes p).map (·.fullName)).Nodup := htypes ▸ c.nodup_map_fullName
    obtain ⟨c', hc', htypes', hassembly'⟩ :=
      (ofProgram_cases { p with types }).resolve_right fun h => h.1 (hnames.2 hnodup)
    have hsame : c'.types.Perm c.types := by rwa [htypes, htypes']
    have hagrees : c.Agrees Set.univ c' := agrees_of_perm hsame (hassembly'.trans hassembly.symm)
    exact .inr ⟨c, c', hc, hc', hagrees.generate_eq (fun d => hsame.mem_iff.symm) engine⟩
  · obtain ⟨-, name', herror'⟩ := (ofProgram_cases { p with types }).resolve_left fun h => by
      obtain ⟨c', -, htypes', -⟩ := h
      exact hrepeated (hnames.1 (htypes' ▸ c'.nodup_map_fullName))
    exact .inl ⟨name, name', herror, herror'⟩

/-- A type with generated equality. -/
def equatableType (name : String) : TypeDef where
  «namespace» := "Shop"
  name := name
  isPartial := true
  attributes := [{ className := Vocabulary.generatedEquality }]
  members := [.property { name := "Id", type := .named "System.Int32" [] }]

/-- A program of two types, which are not in the order of a plan. -/
def shop : Program := .onSmallCore [equatableType "Order", equatableType "Item"]

/-- The paths of the units of that program. -/
def shopPaths : List String :=
  ["EqualityGenerator/Shop/Item.g.cs", "EqualityGenerator/Shop/Order.g.cs"]

/-- A program turned around generates the same two units. -/
theorem generate_reversed :
    ∃ c c' g, ofProgram shop = .ok c ∧
      ofProgram { shop with types := shop.types.reverse } = .ok c' ∧
      generate c = .ok g ∧ generate c' = .ok g ∧ g.paths = shopPaths := by
  obtain ⟨c, config, g, hc, -, hg, hpaths⟩ :=
    Program.exists_run shop (fun _ _ g => decide (g.paths = shopPaths)) (by decide +kernel)
  rcases generate_perm shop Regex.engine (List.reverse_perm _) with
    ⟨name, -, herror, -⟩ | ⟨c₁, c', hc₁, hc', hsame⟩
  · cases herror.symm.trans hc
  · cases hc₁.symm.trans hc
    exact ⟨c, c', g, hc, hc', hg, hsame.trans hg, of_decide_eq_true hpaths⟩

/-! ### A further type -/

/-- Whether a type refers to a definition of the name, where generators look it up. -/
def TypeDef.Mentions (d : TypeDef) (name : String) : Prop :=
  ∃ t ∈ d.references, ∃ u ∈ t.within, u.definitionName? = some name

instance (d : TypeDef) (name : String) : Decidable (d.Mentions name) :=
  inferInstanceAs (Decidable (∃ t ∈ d.references, ∃ u ∈ t.within, u.definitionName? = some name))

/-- The core types refer to core types only. -/
theorem CoreLibrary.namesOnly_references :
    ∀ d ∈ CoreLibrary.types, ∀ t ∈ d.references,
      t.NamesOnly {name | name ∈ CoreLibrary.types.map (·.fullName)} := by
  have hchecked : (CoreLibrary.types.all fun d => d.references.all fun t => t.within.all fun u =>
      u.definitionName?.all (CoreLibrary.types.map (·.fullName)).contains) = true := by
    decide +kernel
  simp only [List.all_eq_true] at hchecked
  intro d hd t ht u hu name hname
  have hcontained := hchecked d hd t ht u hu
  rw [hname, Option.all_some, List.contains_iff_mem] at hcontained
  exact hcontained

/-- A type of a new name that no other type mentions leaves agreement on all names but its own. -/
theorem Compilation.agrees_of_insert {x : TypeDef} (hc : ofProgram p = .ok c)
    (hnew : x.fullName ∉ c.names) (hprobed : x.fullName ∉ probedNames)
    (hknown : c.requireWellKnownTypes = .ok ()) (hmentions : ∀ d ∈ p.types, ¬ d.Mentions x.fullName)
    (hperm : c'.types.Perm (x :: c.types)) (hassembly : c'.assembly = c.assembly) :
    c.Agrees {x.fullName}ᶜ c' where
  assembly_eq := hassembly
  type?_eq name hname := by
    ext d
    rw [type?_eq_some_iff, type?_eq_some_iff, hperm.mem_iff, List.mem_cons]
    exact ⟨fun ⟨hd, hfound⟩ => ⟨hd.resolve_left fun heq => hname (heq ▸ hfound.symm), hfound⟩,
      fun ⟨hd, hfound⟩ => ⟨.inr hd, hfound⟩⟩
  fullName_mem d hd heq := hnew (mem_names_iff.2 ⟨d, hd, heq⟩)
  references d hd t ht := by
    have htypes : c.types = declaredTypes p := (types_of_ofProgram hc).1
    rw [htypes, declaredTypes, List.mem_append] at hd
    rcases hd with hcore | hown
    · split at hcore
      · next hincludes =>
          refine (CoreLibrary.namesOnly_references d hcore t ht).mono fun name hname heq => ?_
          obtain ⟨core, hmem, rfl⟩ := List.mem_map.1 hname
          refine hnew (mem_names_iff.2 ⟨core, ?_, heq⟩)
          rw [htypes, declaredTypes, if_pos hincludes]
          exact List.mem_append_left _ hmem
      · cases hcore
    · exact fun u hu name hname heq => hmentions d hown ⟨t, ht, u, hu, heq ▸ hname⟩
  wellKnown name hname heq :=
    hnew (Set.mem_singleton_iff.1 heq ▸ requireWellKnownTypes_eq_ok_iff.1 hknown name hname)
  probed name hname heq := hprobed (Set.mem_singleton_iff.1 heq ▸ hname)

/-- **A type that nothing refers to changes no other unit.** Added to a program that generates, at
any place, a type of a new name that no type of the program mentions and that generators do not look
up by themselves leaves the units of all other types as they are and in their order. -/
theorem generate_insert (p : Program) {x : TypeDef} {engine : PatternEngine} {config : Config}
    {g : Generation} (hc : ofProgram p = .ok c) (hconfig : Config.resolve c engine = .ok config)
    (hg : generate c engine = .ok g) (hnew : x.fullName ∉ c.names)
    (hprobed : x.fullName ∉ probedNames) (hmentions : ∀ d ∈ p.types, ¬ d.Mentions x.fullName)
    (hperm : types.Perm (x :: p.types)) :
    ∃ c' g', ofProgram { p with types } = .ok c' ∧ Config.resolve c' engine = .ok config ∧
      generate c' engine = .ok g' ∧ g'.artifacts = (Plan.units c' config).map (·.2) ∧
      ((Plan.units c' config).filter (·.1.fullName != x.fullName)).map (·.2) = g.artifacts := by
  obtain ⟨htypes, hassembly⟩ := types_of_ofProgram hc
  have hdeclared : (declaredTypes { p with types }).Perm (x :: c.types) :=
    htypes ▸ declaredTypes_perm [x] hperm
  have hnodup : ((x :: c.types).map (·.fullName)).Nodup :=
    List.nodup_cons.2 ⟨hnew, c.nodup_map_fullName⟩
  obtain ⟨c', hc', htypes', hassembly'⟩ := (ofProgram_cases { p with types }).resolve_right
    fun h => h.1 ((hdeclared.map (·.fullName)).nodup_iff.2 hnodup)
  have hknown : c.requireWellKnownTypes = .ok () := (generate_eq_ok_iff.1 hg).1
  have hsame : c'.types.Perm (x :: c.types) := htypes' ▸ hdeclared
  have hagrees : c.Agrees {x.fullName}ᶜ c' :=
    agrees_of_insert hc hnew hprobed hknown hmentions hsame (hassembly'.trans hassembly.symm)
  have hkeep : ∀ d, d ∈ c.types ↔ d ∈ c'.types ∧ (d.fullName != x.fullName) = true := by
    intro d
    rw [hsame.mem_iff, List.mem_cons, bne_iff_ne]
    refine ⟨fun hd => ⟨.inr hd, hagrees.fullName_mem d hd⟩, fun ⟨hd, hother⟩ => ?_⟩
    exact hd.resolve_left fun heq => hother (heq ▸ rfl)
  have hconfig' : Config.resolve c' engine = .ok config := (hagrees.resolve_eq engine).trans hconfig
  refine ⟨c', ⟨(Plan.of c' config).artifacts c' config⟩, hc', hconfig', ?_,
    (Plan.map_snd_units c' config).symm, ?_⟩
  · exact generate_eq_ok_iff.2
      ⟨hagrees.requireWellKnownTypes_eq.trans hknown, config, hconfig', rfl⟩
  · rw [artifacts_eq_of_generate hconfig hg, ← Plan.map_snd_units,
      hagrees.filter_units config (fun d => d.fullName != x.fullName) hkeep]

/-- With a further type, a program generates what it did for the others. -/
theorem generate_inserted :
    ∃ c c' config g g', ofProgram shop = .ok c ∧ generate c = .ok g ∧
      ofProgram { shop with types := equatableType "Note" :: shop.types } = .ok c' ∧
      generate c' = .ok g' ∧ g'.artifacts = (Plan.units c' config).map (·.2) ∧
      ((Plan.units c' config).filter (·.1.fullName != (equatableType "Note").fullName)).map (·.2) =
        g.artifacts ∧
      g.paths = shopPaths := by
  obtain ⟨c, config, g, hc, hconfig, hg, hcheck⟩ :=
    Program.exists_run shop
      (fun c _ g => decide ((equatableType "Note").fullName ∉ c.names ∧ g.paths = shopPaths))
      (by decide +kernel)
  obtain ⟨hnew, hpaths⟩ := of_decide_eq_true hcheck
  obtain ⟨c', g', hc', -, hg', hunits, hothers⟩ :=
    generate_insert shop hc hconfig hg hnew (by decide +kernel) (by decide +kernel)
      (List.Perm.refl _)
  exact ⟨c, c', config, g, g', hc, hg, hc', hg', hunits, hothers, hpaths⟩

end Companion
