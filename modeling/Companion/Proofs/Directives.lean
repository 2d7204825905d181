import Companion.Proofs.EntityLines
import Companion.Proofs.EntityUnit
import Companion.Proofs.EqualityLines
import Companion.Proofs.Generation
import Companion.Proofs.LifecycleLines

/-!
# The Directives of a Unit

A unit carries its problems as directives, each on a line of its own. No other line looks like one:
lines open with fixed text, and where one opens with the name of a member, the name is what it is.
So the directives in the text of a unit are the problems that the unit reports, each once and in
their order, as long as the model has no line feed and no member whose name begins like a
directive.

Directives are looked for behind the indentation that the writer puts in front of a line. Looked for
behind all blanks they are the same, unless the name of a member begins with blanks.

## Main results

* `IsLine.isDirective_eq_false`: a line of code that carries no problem does not look like it.
* `Pass.writtenAll_unitCode`: the lines of the units of all generators.
* `Pass.directives_unit`: the directives of a unit.
* `exists_pass_of_mem_artifacts`: the units of a run are units of passes.
-/

namespace Companion

open Piece

/-! ### Directives -/

/-- Whether a text opens like a directive that carries a problem. -/
def isDirective (s : String) : Bool :=
  [Severity.error, .warning].any fun severity =>
    (severity.directive ++ " ").toList.isPrefixOf s.toList

/-- Whether a text begins with the sign that directives begin with. -/
def BeginsWithSign (s : String) : Prop := s.toList.head? = some '#'

instance (s : String) : Decidable (BeginsWithSign s) :=
  inferInstanceAs (Decidable (s.toList.head? = some '#'))

/-- An embedded diagnostic is a directive. -/
theorem isDirective_embed (d : Diagnostic) : isDirective d.embed = true := by
  have hopens : (d.severity.directive ++ " ").toList <+: d.embed.toList := by
    rw [Diagnostic.embed, String.toList_append (s := d.severity.directive ++ " ")]
    exact List.prefix_append _ _
  rw [isDirective, List.any_eq_true]
  refine ⟨d.severity, ?_, List.isPrefixOf_iff_prefix.2 hopens⟩
  cases d.severity <;> simp

/-- Every directive begins with the sign of directives. -/
theorem beginsWithSign_of_isDirective {s : String} (h : isDirective s = true) :
    BeginsWithSign s := by
  obtain ⟨severity, -, hopens⟩ := List.any_eq_true.1 h
  obtain ⟨rest, hrest⟩ := List.isPrefixOf_iff_prefix.1 hopens
  rw [BeginsWithSign, ← hrest]
  cases severity <;> simp [Severity.directive]

/-- The other directives of a unit carry no problem. -/
theorem isDirective_append_of_quiet {word : String} (h : word ∈ quietDirectives) (rest : String) :
    isDirective (word ++ rest) = false := by
  simp only [quietDirectives, List.mem_cons, List.not_mem_nil, or_false] at h
  rcases h with rfl | rfl | rfl <;> simp [isDirective, Severity.directive, List.isPrefixOf]

/-- A text short of the blanks at its beginning. -/
def Text.unindented (s : String) : String := String.ofList (s.toList.dropWhile (· == ' '))

theorem Text.unindented_of_head?_ne {s : String} (h : s.toList.head? ≠ some ' ') :
    unindented s = s := by
  rw [unindented]
  cases hs : s.toList with
  | nil => simp_all
  | cons c cs =>
      have hc : c ≠ ' ' := by simpa [hs] using h
      rw [List.dropWhile_cons_of_neg (by simpa using hc), ← hs, String.ofList_toList]

/-- An embedded diagnostic has no blanks in front. -/
theorem Text.unindented_embed (d : Diagnostic) : unindented d.embed = d.embed := by
  refine unindented_of_head?_ne ?_
  rw [beginsWithSign_of_isDirective (isDirective_embed d)]
  decide

/-- The indentation of a row is made of blanks. -/
theorem Row.unindented_text (r : Row) :
    Text.unindented r.text = Text.unindented r.content := by
  rw [Row.text]
  split
  · next hblank =>
      have hcontent : r.content = "" := by simpa [isBlank] using hblank
      rw [hcontent]
  · rw [Text.unindented, String.toList_append, Text.replicate, String.toList_ofList,
      List.dropWhile_append_of_pos]
    · rfl
    · exact fun c hc => beq_iff_eq.2 (List.eq_of_mem_replicate hc)

/-! ### Lines that carry no problem -/

namespace IsLine

variable {names : List String} {s : String}

/-- **A line that carries no problem** does not look like it, unless the name of a member does. -/
theorem isDirective_eq_false (hnames : ∀ name ∈ names, ¬ BeginsWithSign name)
    (h : IsLine names s) : isDirective s = false := by
  rw [Bool.eq_false_iff]
  intro hdirective
  have hhead := beginsWithSign_of_isDirective hdirective
  rw [BeginsWithSign] at hhead
  obtain ⟨c, hc, -, hsign⟩ | rfl | ⟨word, hword, rest, rfl⟩ |
    ⟨name, hname, rest, ⟨behind, hrest⟩, rfl⟩ := h.2
  · exact hsign (Option.some.inj (hc.symm.trans hhead))
  · simp at hhead
  · simp [isDirective_append_of_quiet hword] at hdirective
  · cases hchars : name.toList with
    | nil => simp [hchars, ← hrest] at hhead
    | cons c cs =>
        refine hnames name hname ?_
        simpa [BeginsWithSign, hchars] using hhead

/-- The same behind the blanks at the beginning of the line and of the name. -/
theorem isDirective_unindented_eq_false
    (hnames : ∀ name ∈ names, ¬ BeginsWithSign (Text.unindented name))
    (h : IsLine names s) : isDirective (Text.unindented s) = false := by
  rw [Bool.eq_false_iff]
  intro hdirective
  have hhead := beginsWithSign_of_isDirective hdirective
  rw [BeginsWithSign] at hhead
  obtain ⟨c, hc, hblank, hsign⟩ | rfl | ⟨word, hword, rest, rfl⟩ |
    ⟨name, hname, rest, ⟨behind, hrest⟩, rfl⟩ := h.2
  · have hplain : s.toList.head? ≠ some ' ' := by
      rw [Option.mem_def.1 hc]
      simpa using hblank
    rw [Text.unindented_of_head?_ne hplain] at hhead
    exact hsign (Option.some.inj (hc.symm.trans hhead))
  · simp [Text.unindented] at hhead
  · have hplain : (word ++ rest).toList.head? ≠ some ' ' := by
      simp only [quietDirectives, List.mem_cons, List.not_mem_nil, or_false] at hword
      rcases hword with rfl | rfl | rfl <;> simp
    rw [Text.unindented_of_head?_ne hplain, isDirective_append_of_quiet hword] at hdirective
    cases hdirective
  · simp only [Text.unindented, String.toList_ofList, String.toList_append,
      List.dropWhile_append] at hhead
    cases hchars : name.toList.dropWhile (· == ' ') with
    | nil => simp [hchars, ← hrest] at hhead
    | cons c cs =>
        refine hnames name hname ?_
        rw [BeginsWithSign, Text.unindented, String.toList_ofList, hchars]
        simpa [hchars] using hhead

end IsLine

/-! ### Units -/

namespace Pass

/-- The code of the unit that a generator writes for a type. -/
def unitCode (pass : Pass) : Generator → TypeDef → List Piece
  | .equality, d => (pass.equalityUnit d).code
  | .immutable, d => (pass.entity d).code
  | .lifecycle, d => (pass.compilation.lifecycleUnit d).code

/-- The unit that a generator writes for a type. -/
def unit (pass : Pass) (generator : Generator) (d : TypeDef) : Artifact :=
  .of generator d (pass.unitCode generator d)

variable {pass : Pass} {d : TypeDef}

/-- **The lines of a unit**, whatever the generator. -/
theorem writtenAll_unitCode (h : pass.compilation.IsOneLine) (hd : d ∈ pass.compilation.types)
    (generator : Generator) :
    WrittenAll (IsLine (d.members.map Member.name)) (pass.unitCode generator d) := by
  cases generator with
  | equality => exact EqualityUnit.writtenAll_code (isOneLine_equalityUnit h hd)
  | immutable => exact Entity.writtenAll_code (isOneLine_entity h hd)
  | lifecycle => exact LifecycleUnit.writtenAll_code (h d hd)

/-- A unit has a line: the first one of its banner. -/
theorem laidOut_unitCode_ne_nil (generator : Generator) :
    laidOut (pass.unitCode generator d) ≠ [] := by
  have hfirst : ∀ ps : List Piece, laidOut (.line "// <auto-generated>" :: ps) ≠ [] := by
    intro ps hnil
    rw [laidOut, List.rdropWhile_eq_nil_iff] at hnil
    have hblank := hnil ⟨0, "// <auto-generated>"⟩ (by simp [rowsAll, rows])
    simp [Row.isBlank] at hblank
  cases generator <;> exact hfirst _

end Pass

/-- **The units of a run** are units of passes over its compilation. -/
theorem exists_pass_of_mem_artifacts {c : Compilation} {engine : PatternEngine} {g : Generation}
    (hg : generate c engine = .ok g) {a : Artifact} (ha : a ∈ g.artifacts) :
    ∃ (pass : Pass) (generator : Generator) (d : TypeDef),
      pass.compilation = c ∧ d ∈ c.types ∧ a = pass.unit generator d := by
  obtain ⟨-, config, hconfig, -⟩ := generate_eq_ok_iff.1 hg
  obtain ⟨generator, d, hd, rfl⟩ := Plan.exists_target_of_mem hconfig hg ha
  have htypes : d ∈ c.types := (Plan.mem_targets_iff.1 hd).1
  cases generator with
  | equality => exact ⟨_, .equality, d, rfl, htypes, rfl⟩
  | immutable => exact ⟨_, .immutable, d, rfl, htypes, rfl⟩
  | lifecycle => exact ⟨⟨c, config, []⟩, .lifecycle, d, rfl, htypes, rfl⟩

/-! ### The directives in the text of a unit -/

variable {p : Program} {c : Compilation} {pass : Pass} {d : TypeDef}

/-- Behind all blanks of a line there is what is behind all blanks of the content of its row. -/
theorem unindented_split (generator : Generator)
    (h : Text.split '\n' (pass.unit generator d).text =
      (laidOut (pass.unitCode generator d)).map Row.text ++ [""]) :
    ((Text.split '\n' (pass.unit generator d).text).map Text.unindented).filter isDirective =
      (((laidOut (pass.unitCode generator d)).map Row.content).filter fun s =>
        isDirective (Text.unindented s)).map Text.unindented := by
  have hrows : ∀ rows : List Row, (rows.map Row.text).map Text.unindented =
      (rows.map Row.content).map Text.unindented := by
    simp [Row.unindented_text]
  have hlast : [Text.unindented ""].filter isDirective = [] := by decide
  rw [h, List.map_append, hrows, List.filter_append, List.map_singleton, hlast, List.append_nil,
    List.filter_map]
  rfl

/-- **The directives of a unit** are the problems that it reports, each once and in their order.
The lines of its text are rows, each behind its indentation. -/
theorem Pass.directives_unit (hc : Compilation.ofProgram p = .ok c) (hlines : OneLines p.texts)
    (hnames : ∀ d ∈ p.types, ∀ m ∈ d.members, ¬ BeginsWithSign m.name) (pass : Pass)
    (hpass : pass.compilation = c) (generator : Generator) (hd : d ∈ c.types) :
    Text.split '\n' (pass.unit generator d).text =
        (laidOut (pass.unitCode generator d)).map Row.text ++ [""] ∧
      ((laidOut (pass.unitCode generator d)).map Row.content).filter isDirective =
        (pass.unit generator d).diagnostics.map Diagnostic.embed ∧
      ((∀ d ∈ p.types, ∀ m ∈ d.members, ¬ BeginsWithSign (Text.unindented m.name)) →
        ((Text.split '\n' (pass.unit generator d).text).map Text.unindented).filter isDirective =
          (pass.unit generator d).diagnostics.map Diagnostic.embed) := by
  subst hpass
  have hwritten := writtenAll_unitCode (Compilation.isOneLine_of_ofProgram hc hlines) hd generator
  have hsplit : Text.split '\n' (pass.unit generator d).text =
      (laidOut (pass.unitCode generator d)).map Row.text ++ [""] :=
    split_layOut (fun _ h => h.1) hwritten (laidOut_unitCode_ne_nil generator)
  refine ⟨hsplit, ?_, fun hbehind => ?_⟩
  · have hplain : ∀ s, IsLine (d.members.map Member.name) s → isDirective s = false :=
      fun s => IsLine.isDirective_eq_false (List.forall_mem_map.2
        (Compilation.forall_types_of_ofProgram hc (by decide +kernel) hnames d hd))
    have hempty : isDirective "" = false := by decide
    exact filter_contents_laidOut hplain hempty isDirective_embed hwritten
  · have hplain : ∀ s, IsLine (d.members.map Member.name) s →
        isDirective (Text.unindented s) = false :=
      fun s => IsLine.isDirective_unindented_eq_false (List.forall_mem_map.2
        (Compilation.forall_types_of_ofProgram hc (by decide +kernel) hbehind d hd))
    have hempty : isDirective (Text.unindented "") = false := by decide
    have hembed : ∀ problem : Diagnostic,
        isDirective (Text.unindented problem.embed) = true := fun problem => by
      rw [Text.unindented_embed, isDirective_embed]
    have hcontents := filter_contents_laidOut (D := fun s => isDirective (Text.unindented s))
      hplain hempty hembed hwritten
    rw [unindented_split generator hsplit, hcontents, List.map_map]
    exact List.map_congr_left fun problem _ => Text.unindented_embed problem

/-! ### The directives of one unit -/

/-- An entity that cannot be opened again, with a pattern that cannot be read. -/
def closedCrate : TypeDef where
  «namespace» := "Shop"
  name := "Crate"
  attributes := [{ className := Vocabulary.generatedImmutable },
    { className := Vocabulary.immutableCopyIgnore, arguments := [.string "("] }]
  members := [.property { name := "Empty", type := .named "Shop.Crate" [], isStatic := true }]

/-- **The directives of `Crate`** are its two problems. The message about the pattern has line
feeds, and still takes one line. -/
theorem two_directives_of_closedCrate :
    ∃ c config g a,
      Compilation.ofProgram (.onSmallCore [closedCrate]) = .ok c ∧
      Config.resolve c = .ok config ∧ generate c = .ok g ∧ a ∈ g.artifacts ∧
      a.diagnostics.map (·.code) = [.immutableNotPartial, .copyIgnoreInvalid] ∧
      (∃ problem ∈ a.diagnostics, ¬ OneLine problem.message) ∧
      ((Text.split '\n' a.text).map Text.unindented).filter isDirective =
        a.diagnostics.map Diagnostic.embed := by
  obtain ⟨c, config, g, hc, hconfig, hg, hcheck⟩ :=
    Program.exists_run (.onSmallCore [closedCrate])
      (fun c config _ => (c.type? "Shop.Crate").any fun (crate : TypeDef) =>
        let pass : Pass := ⟨c, config, targetNames (Plan.of c config).immutable⟩
        decide (crate.origin = Origin.source ∧ c.requestsImmutable crate = true ∧
          (pass.entity crate).problems.map (·.code) =
            [DiagnosticCode.immutableNotPartial, .copyIgnoreInvalid] ∧
          ∃ problem ∈ (pass.entity crate).problems, ¬ OneLine problem.message))
      (by decide +kernel)
  obtain ⟨crate, hcrate, hcheck⟩ := (Option.any_eq_true _ _).1 hcheck
  obtain ⟨hsource, himmutable, hproblems⟩ := of_decide_eq_true hcheck
  have htype : crate ∈ c.types := (Compilation.type?_eq_some_iff.1 hcrate).1
  rw [← Pass.diagnostics_immutableArtifact] at hproblems
  have hdirectives := Pass.directives_unit hc (by decide +kernel) (by decide +kernel)
    ⟨c, config, targetNames (Plan.of c config).immutable⟩ rfl .immutable htype
  exact ⟨c, config, g, _, hc, hconfig, hg,
    Plan.artifact_mem .immutable hconfig hg (Plan.mem_select.2 ⟨htype, hsource, himmutable⟩),
    hproblems.1, hproblems.2, hdirectives.2.2 (by decide +kernel)⟩

end Companion
