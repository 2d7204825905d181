import Companion.Command.Options
import Mathlib.Data.List.Basic

/-!
# The Items of a Command Line

The arguments behind `generate` are read from left to right with a draft of the options at hand.
That reading is set against a grammar that knows no state: a command line is a list of items, and an
item is an output option with the argument behind it, a check option, a format option, or one
argument that does not start with a minus sign. What the options are is told by the items as a
whole: the document is the one that is named, the output directory and the format are the last ones
given, and the files are checked if that is asked for anywhere.

## Main results

* `Draft.read_items`: what the arguments of items make of a draft.
* `Draft.exists_items_of_read`: arguments that can be read are the arguments of items.
* `parse_items`: what the arguments of items are read as.
* `parse_items_of_perm`: only the order of outputs and the order of formats count.
* `parse_reads_items`: the arguments that are read, what they are read as, and that only the order
  of outputs and of formats counts.
-/

namespace Companion.GenerateOptions

/-! ### Items -/

/-- The spellings of the output option. -/
inductive OutputOption where
  | short
  | long
deriving Repr, DecidableEq

def OutputOption.text : OutputOption → String
  | short => "-o"
  | long => "--output"

/-- An item of a command line. -/
inductive Item where
  /-- The argument behind the option is the directory, whatever it looks like. -/
  | output (option : OutputOption) (directory : String)
  | check
  | format (f : OutputFormat)
  /-- A document is told from an option by its first character. -/
  | document (path : String) (noOption : path.toList.head? ≠ some '-')
deriving Repr, DecidableEq

namespace Item

/-- The arguments that an item takes up. -/
def arguments : Item → List String
  | output option directory => [option.text, directory]
  | check => ["--check"]
  | format .text => ["--format=text"]
  | format .json => ["--format=json"]
  | document path _ => [path]

def directory? : Item → Option String
  | output _ directory => some directory
  | _ => none

def format? : Item → Option OutputFormat
  | format f => some f
  | _ => none

def document? : Item → Option String
  | document path _ => some path
  | _ => none

def isCheck : Item → Bool
  | check => true
  | _ => false

end Item

/-! ### Reading one item -/

/-- What starts with no minus sign is none of the words for options. -/
theorem ne_of_noOption {path word : String} (h : path.toList.head? ≠ some '-')
    (hword : word.toList.head? = some '-') : path ≠ word := by
  rintro rfl
  exact h hword

/-- An argument that starts with no minus sign is a document. -/
theorem read_document {path : String} (h : path.toList.head? ≠ some '-') :
    OptionArgument.read path = .ok (.document path) := by
  have hcheck : path ≠ "--check" := ne_of_noOption h rfl
  have htext : path ≠ "--format=text" := ne_of_noOption h rfl
  have hjson : path ≠ "--format=json" := ne_of_noOption h rfl
  have hstart : OptionArgument.formatStart.toList.isPrefixOf path.toList = false := by
    cases hpath : path.toList with
    | nil => rfl
    | cons c cs =>
        have hc : '-' ≠ c := by simpa [hpath, eq_comm] using h
        simp [OptionArgument.formatStart, List.isPrefixOf, hc]
  simp [OptionArgument.read, hcheck, htext, hjson, hstart, h]

/-- An argument that is read on its own is the only argument of an item. -/
theorem exists_item_of_read {argument : String} {x : OptionArgument}
    (h : OptionArgument.read argument = .ok x) :
    ∃ item : Item, item.arguments = [argument] := by
  rw [OptionArgument.read] at h
  split at h
  · next hcheck => exact ⟨.check, by rw [hcheck]; rfl⟩
  split at h
  · next htext => exact ⟨.format .text, by rw [htext]; rfl⟩
  split at h
  · next hjson => exact ⟨.format .json, by rw [hjson]; rfl⟩
  split at h
  · cases h
  split at h
  · cases h
  · next hplain => exact ⟨.document argument hplain, rfl⟩

namespace Draft

/-- A draft with one more item. -/
def take (draft : Draft) : Item → Except UsageError Draft
  | .output _ directory => .ok { draft with output := some directory }
  | .check => draft.add .check
  | .format f => draft.add (.format f)
  | .document path _ => draft.add (.document path)

theorem read_nil (draft : Draft) : draft.read [] = .ok draft := by
  rw [read.eq_def]

/-- An argument that takes no other one is read on its own. -/
theorem read_cons (draft : Draft) {argument : String} (hshort : argument ≠ "-o")
    (hlong : argument ≠ "--output") (rest : List String) :
    draft.read (argument :: rest) =
      ((OptionArgument.read argument).bind draft.add).bind (·.read rest) := by
  rw [read.eq_def]
  simp only [hshort, hlong, decide_false, Bool.or_self, Bool.false_eq_true, if_false]
  cases (OptionArgument.read argument).bind draft.add <;> rfl

/-- **A step of the reader** takes the arguments of an item. -/
theorem read_item (draft : Draft) (item : Item) (rest : List String) :
    draft.read (item.arguments ++ rest) = (draft.take item).bind (·.read rest) := by
  cases item with
  | output option directory =>
      rw [Item.arguments, read.eq_def]
      cases option <;> rfl
  | check => exact read_cons draft (by decide) (by decide) rest
  | format f => cases f <;> exact read_cons draft (by decide) (by decide) rest
  | document path h =>
      have hread := read_cons draft (ne_of_noOption h rfl) (ne_of_noOption h rfl) rest
      rwa [read_document h] at hread

/-- Arguments that can be read are the arguments of items. -/
theorem exists_items_of_read {draft draft' : Draft} {arguments : List String}
    (h : draft.read arguments = .ok draft') :
    ∃ items : List Item, arguments = items.flatMap Item.arguments := by
  fun_induction draft.read arguments with
  | case1 => exact ⟨[], rfl⟩
  | case2 draft option hoption directory rest ih =>
      obtain ⟨items, rfl⟩ := ih h
      obtain ⟨o, rfl⟩ : ∃ o : OutputOption, o.text = option := by
        rcases (Bool.or_eq_true _ _).mp hoption with hshort | hlong
        · exact ⟨.short, (of_decide_eq_true hshort).symm⟩
        · exact ⟨.long, (of_decide_eq_true hlong).symm⟩
      exact ⟨.output o directory :: items, rfl⟩
  | case3 => cases h
  | case4 draft argument rest _ draft'' hread ih =>
      obtain ⟨items, rfl⟩ := ih h
      cases hargument : OptionArgument.read argument with
      | error e =>
          rw [hargument] at hread
          cases hread
      | ok x =>
          obtain ⟨item, hitem⟩ := exists_item_of_read hargument
          exact ⟨item :: items, by rw [List.flatMap_cons, hitem, List.singleton_append]⟩
  | case5 => cases h

/-! ### Reading all items -/

/-- The documents that a draft and items name. -/
def documents (draft : Draft) (items : List Item) : List String :=
  draft.document.toList ++ items.filterMap Item.document?

/-- The draft that items with one document at most make of a draft. -/
def after (draft : Draft) (items : List Item) : Draft where
  document := (draft.documents items).head?
  output := ((items.filterMap Item.directory?).getLast?).or draft.output
  format := ((items.filterMap Item.format?).getLast?).getD draft.format
  checks := draft.checks || items.any Item.isCheck

theorem after_nil (draft : Draft) : draft.after [] = draft := by
  obtain ⟨_ | document, output, format, checks⟩ := draft <;> simp [after, documents]

/-- An item is taken unless it names a second document. -/
theorem take_eq (draft : Draft) (item : Item) :
    draft.take item =
      if (draft.documents [item]).length ≤ 1 then .ok (draft.after [item])
      else .error .severalDocuments := by
  obtain ⟨_ | document, output, format, checks⟩ := draft <;> cases item <;>
    simp [take, add, after, documents, List.filterMap_cons, Item.document?, Item.directory?,
      Item.format?, Item.isCheck]

/-- What an item gives a draft comes before the documents of the items behind it. -/
theorem documents_after {draft : Draft} {item : Item} (h : (draft.documents [item]).length ≤ 1)
    (items : List Item) :
    (draft.after [item]).documents items = draft.documents (item :: items) := by
  have hfirst : (draft.documents [item]).head?.toList = draft.documents [item] := by
    cases hdocuments : draft.documents [item] with
    | nil => rfl
    | cons d ds =>
        rw [hdocuments, List.length_cons] at h
        obtain rfl : ds = [] := List.eq_nil_of_length_eq_zero (by omega)
        rfl
  have hcons : draft.documents (item :: items) =
      draft.documents [item] ++ items.filterMap Item.document? := by
    rw [documents, documents, List.append_assoc, ← List.filterMap_append, List.singleton_append]
  rw [hcons, ← hfirst]
  rfl

/-- Items are taken in one after another. -/
theorem after_after {draft : Draft} {item : Item} (h : (draft.documents [item]).length ≤ 1)
    (items : List Item) : (draft.after [item]).after items = draft.after (item :: items) := by
  have hdocument : ((draft.after [item]).documents items).head? =
      (draft.documents (item :: items)).head? := by rw [documents_after h]
  refine Draft.mk.injEq .. ▸ ⟨hdocument, ?_, ?_, ?_⟩ <;> cases item <;>
    simp [after, List.filterMap_cons, Item.directory?, Item.format?, Item.isCheck,
      List.getLast?_cons]

/-- **The arguments of items are read**, unless the items name a second document. -/
theorem read_items (items : List Item) (draft : Draft) :
    draft.read (items.flatMap Item.arguments) =
      if (draft.documents items).length ≤ 1 then .ok (draft.after items)
      else .error .severalDocuments := by
  induction items generalizing draft with
  | nil =>
      have hone : (draft.documents []).length ≤ 1 := by
        cases hdocument : draft.document <;> simp [documents, hdocument]
      rw [List.flatMap_nil, read_nil, after_nil, if_pos hone]
  | cons item items ih =>
      have hle : (draft.documents [item]).length ≤ (draft.documents (item :: items)).length := by
        simp only [documents, List.length_append, List.filterMap_cons, List.filterMap_nil]
        split <;> simp
      rw [List.flatMap_cons, read_item, take_eq]
      by_cases h : (draft.documents [item]).length ≤ 1
      · rw [if_pos h, Except.bind, ih, documents_after h, after_after h]
      · rw [if_neg h, if_neg (by omega)]
        rfl

end Draft

/-! ### The whole command line -/

/-- The options that items ask for which name the given document. -/
def ofItems (document : String) (items : List Item) : GenerateOptions where
  document := document
  output := ((items.filterMap Item.directory?).getLast?).getD "generated"
  format := ((items.filterMap Item.format?).getLast?).getD .text
  checks := items.any Item.isCheck

/-- **The arguments of items are read** as the options that the items ask for, if they name one
document. -/
theorem parse_items (items : List Item) :
    parse (items.flatMap Item.arguments) =
      match items.filterMap Item.document? with
      | [] => .error .missingDocument
      | [document] => .ok (ofItems document items)
      | _ => .error .severalDocuments := by
  have hdocuments : Draft.documents {} items = items.filterMap Item.document? := rfl
  rw [parse, Draft.read_items, hdocuments]
  match hitems : items.filterMap Item.document? with
  | [] =>
      simp only [List.length_nil, Nat.zero_le, if_true, Draft.after, hdocuments, hitems]
      rfl
  | [document] =>
      simp only [List.length_singleton, Nat.le_refl, if_true, Draft.after, hdocuments, hitems]
      cases hoption : (items.filterMap Item.directory?).getLast? <;> simp [ofItems, hoption]
      · rfl
      · rfl
  | document :: other :: rest => rfl

/-- Items in another order are read alike if outputs and formats keep theirs. -/
theorem parse_items_of_perm {items items' : List Item} (h : items.Perm items')
    (houtputs : items.filterMap Item.directory? = items'.filterMap Item.directory?)
    (hformats : items.filterMap Item.format? = items'.filterMap Item.format?) :
    parse (items.flatMap Item.arguments) = parse (items'.flatMap Item.arguments) := by
  have hdocuments := h.filterMap Item.document?
  have hofItems : ∀ document, ofItems document items = ofItems document items' := fun document => by
    rw [ofItems, ofItems, houtputs, hformats, h.any_eq]
  rw [parse_items, parse_items]
  match hitems : items.filterMap Item.document? with
  | [] =>
      rw [hitems] at hdocuments
      rw [← hdocuments.nil_eq]
  | [document] =>
      rw [hitems] at hdocuments
      rw [List.perm_singleton.mp hdocuments.symm]
      exact congrArg Except.ok (hofItems document)
  | document :: other :: rest =>
      have hlength := hdocuments.length_eq
      rw [hitems] at hlength
      match hitems' : items'.filterMap Item.document? with
      | [] | [_] => simp [hitems'] at hlength
      | _ :: _ :: _ => rfl

/-- **The command line is read item by item.** Arguments are read exactly when they are those of
items which name one document, and then as the options that these items ask for. So items may be put
in another order that keeps the order of outputs and the order of formats. -/
theorem parse_reads_items :
    (∀ arguments options, parse arguments = .ok options ↔
      ∃ items document, arguments = items.flatMap Item.arguments ∧
        items.filterMap Item.document? = [document] ∧ options = ofItems document items) ∧
    ∀ items items' : List Item, items.Perm items' →
      items.filterMap Item.directory? = items'.filterMap Item.directory? →
      items.filterMap Item.format? = items'.filterMap Item.format? →
        parse (items.flatMap Item.arguments) = parse (items'.flatMap Item.arguments) := by
  refine ⟨fun arguments options => ⟨fun h => ?_, ?_⟩, fun _ _ => parse_items_of_perm⟩
  · obtain ⟨draft, hdraft⟩ : ∃ draft, Draft.read {} arguments = .ok draft := by
      cases hread : Draft.read {} arguments with
      | error e =>
          rw [parse, hread] at h
          cases h
      | ok draft => exact ⟨draft, rfl⟩
    obtain ⟨items, rfl⟩ := Draft.exists_items_of_read hdraft
    rw [parse_items] at h
    split at h
    · cases h
    · next document hdocument => exact ⟨items, document, rfl, hdocument, (Except.ok.inj h).symm⟩
    · cases h
  · rintro ⟨items, document, rfl, hdocument, rfl⟩
    rw [parse_items, hdocument]

/-- An output option takes the option behind it for its directory. -/
example : parse ["-o", "--check", "m.json"] =
    .ok { document := "m.json", output := "--check" } := by
  decide +kernel

end Companion.GenerateOptions
