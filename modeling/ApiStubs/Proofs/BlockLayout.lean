import ApiStubs.Proofs.FlowLayout

/-!
# Descriptions on several lines

`Writing.block` writes a line for each category, and one or two for each entry, in which lists
of texts stand in brackets. The text has the value of the description
(`Writing.ofString_block_eq_value`), as it has on one line, so it makes no difference how a
description was written:

* `Reading.ofString_block` — each category with its entries, and the same answer for every name
  as from the text on one line.

Names of categories are keys without a question mark here, for which they have to be short.
-/

namespace ApiStubs

open Yaml (SpellsKey Value lineTo)
open Yaml.Block (Spells SpellsPair)
open Yaml.Flow (forall₂_map)

namespace Writing

/-! ### Lines -/

/-- Lines as characters, each with a line feed. -/
def lineChars (lines : List String) : List Char := lines.flatMap fun line => line.toList ++ ['\n']

theorem lineChars_cons (line : String) (lines : List String) :
    lineChars (line :: lines) = line.toList ++ '\n' :: lineChars lines := by
  rw [lineChars, List.flatMap_cons, List.append_assoc]
  rfl

theorem lineChars_flatMap {α : Type} (items : List α) (lines : α → List String) :
    lineChars (items.flatMap lines) = items.flatMap fun item => lineChars (lines item) :=
  List.flatMap_assoc

/-- What is written at one column for each item are lines with the same indentation. -/
theorem flatMap_indented {α : Type} (column : Nat) (chars : α → List Char) {items : List α}
    (h : items ≠ []) :
    (items.flatMap fun item => List.replicate column ' ' ++ (chars item ++ ['\n'])) =
      List.replicate column ' ' ++ ((lineTo column).intercalate (items.map chars) ++ ['\n']) := by
  induction items with
  | nil => exact absurd rfl h
  | cons first others ih =>
    -- The lines of the first item, and those of the others by induction.
    cases others with
    | nil => simp
    | cons second others =>
      rw [List.flatMap_cons, ih (by simp)]
      simp [List.intercalate_cons_cons, lineTo]

/-! ### Entries -/

/-- The characters of a full or degraded entry behind its dash, with the text of its value. -/
def keyedChars (s : Signature) (value : String) : List Char :=
  '?' :: ' ' :: ((signature s).toList ++ lineTo 6 ++ ':' :: ' ' :: value.toList)

/-- The characters of an entry behind its dash. -/
def entryChars : Entry → List Char
  | .shorthand name returnType comment => (shorthand name returnType comment).toList
  | .full s ps => keyedChars s (params ps)
  | .degraded s raw => keyedChars s (quoted raw)

theorem lineChars_entryLines (entry : Entry) :
    lineChars (entryLines entry) =
      List.replicate 4 ' ' ++ ('-' :: ' ' :: entryChars entry ++ ['\n']) := by
  cases entry <;>
    simp [lineChars, entryLines, keyedLines, entryChars, keyedChars, lineTo]

/-- **An entry spells its value** behind a dash. -/
theorem spells_entryChars (entry : Entry) : Spells 6 (entryChars entry) entry.value 3 := by
  -- A full or degraded entry is a mapping, in which one key cannot be the same as another.
  have hkeyed : ∀ (s : Signature) (text : String) (v : Value),
      Yaml.Flow.Spells text.toList v 2 →
        Spells 6 (keyedChars s text) (.mapping [(s.value, v)]) 3 := by
    intro s text v htext
    have hpair : SpellsPair 6 2 (keyedChars s text) (s.value, v) :=
      .explicit (.of_flow ((spells_signature s).mono (by decide)) 8) (.of_flow htext 8)
    exact hpair.mapping
  cases entry with
  | shorthand name returnType comment =>
    exact .of_flow ((spells_texts [name, returnType, comment]).mono (by decide)) 6
  | full s ps => exact hkeyed s _ _ (spells_params ps)
  | degraded s raw => exact hkeyed s _ _ ((Yaml.Flow.Spells.quoted raw).mono (by decide))

/-! ### Categories -/

/-- The characters of a name with a colon, and what is behind that. -/
def namedChars (name : String) (value : List Char) : List Char := name.toList ++ ':' :: value

/-- The characters of the functions of a category. -/
def functionsChars (entries : List Entry) : List Char :=
  namedChars "functions" <|
    if entries.isEmpty then ' ' :: (sequence []).toList
    else
      lineTo 4 ++ (lineTo 4).intercalate (entries.map fun entry => '-' :: ' ' :: entryChars entry)

/-- The characters of a category. -/
def categoryChars (category : String × List Entry) : List Char :=
  namedChars (quoted category.1) (lineTo 2 ++ functionsChars category.2)

theorem lineChars_categoryLines (category : String × List Entry) :
    lineChars (categoryLines category) = categoryChars category ++ ['\n'] := by
  obtain ⟨name, entries⟩ := category
  -- A category without entries has its brackets on the line of `functions`.
  by_cases hentries : entries = []
  · subst hentries
    have hfunctions : functionsChars [] = "functions: []".toList := rfl
    simp [lineChars, categoryLines, categoryChars, namedChars, hfunctions, lineTo]
  · -- With entries, each has lines of its own at the same column.
    have hempty : entries.isEmpty = false := List.isEmpty_eq_false_iff.mpr hentries
    have hitems := flatMap_indented 4 (fun entry => '-' :: ' ' :: entryChars entry) hentries
    have hname : "  functions:".toList = ' ' :: ' ' :: namedChars "functions" [] := rfl
    simp only [categoryLines, categoryChars, functionsChars, hempty, Bool.false_eq_true, if_false,
      lineChars_cons, lineChars_flatMap, lineChars_entryLines, hitems, hname]
    simp [namedChars, lineTo]

theorem spellsKey_functions : SpellsKey "functions".toList (.string "functions") :=
  .word (by decide) (by decide) (by rfl)

theorem spells_functionsChars (entries : List Entry) :
    Spells 2 (functionsChars entries) (Description.specValue entries) 5 := by
  have hpair : SpellsPair 2 4 (functionsChars entries)
      (.string "functions", .sequence (entries.map Entry.value)) := by
    -- An empty list stands behind its key, and any other one below it.
    cases entries with
    | nil => exact .inline spellsKey_functions (spells_sequence .nil)
    | cons entry entries =>
      have hitems : List.Forall₂ (Spells 6 · · 3) ((entry :: entries).map entryChars)
          ((entry :: entries).map Entry.value) :=
        forall₂_map fun entry _ => spells_entryChars entry
      -- The dashes stand behind the column of the key, as a list below it may.
      have hitem : Spells 4 _ (.sequence ((entry :: entries).map Entry.value)) 4 :=
        .sequence hitems (by simp)
      rw [List.map_map] at hitem
      exact .below spellsKey_functions hitem (by decide)
  exact hpair.mapping

theorem spells_categoryChars {category : String × List Entry}
    (hshort : (quoted category.1).length ≤ 1000) :
    SpellsPair 0 5 (categoryChars category)
      (.string category.1, Description.specValue category.2) :=
  .below (.quoted category.1 (Nat.le_trans hshort (by decide))) (spells_functionsChars category.2)
    (by decide)

/-! ### Descriptions -/

theorem block_toList {d : Description} (hne : d.categories ≠ []) :
    (block d).toList = (lineTo 0).intercalate (d.categories.map categoryChars) ++ ['\n'] := by
  have hlines : (block d).toList = lineChars (d.categories.flatMap categoryLines) := by
    simp [block, lineChars, List.flatMap_def, Function.comp_def]
  -- A category starts at the first column, so its indentation is nothing.
  have hcategories := flatMap_indented 0 categoryChars hne
  simp only [List.replicate_zero, List.nil_append] at hcategories
  rw [hlines, lineChars_flatMap, ← hcategories]
  simp only [lineChars_categoryLines]

/-- **The value of a description on several lines**, if it has any categories, and their names
differ and are short enough. -/
theorem ofString_block_eq_value (d : Description) (hne : d.categories ≠ [])
    (hnames : (d.categories.map Prod.fst).Nodup)
    (hshort : ∀ category ∈ d.categories, (quoted category.1).length ≤ 1000) :
    Value.ofString (block d) = .ok d.value := by
  have hpairs : List.Forall₂ (SpellsPair 0 5) (d.categories.map categoryChars)
      (d.categories.map fun category =>
        (.string category.1, Description.specValue category.2)) :=
    -- A name is a key without a question mark, for which it has to be short.
    forall₂_map fun category hcategory => spells_categoryChars (hshort category hcategory)
  have hspells := Spells.mapping hpairs (by simpa using hne) (d.pairwise_keys hnames)
  exact hspells.ofString_eq (by decide) (block_toList hne)

end Writing

namespace Reading

/-- **Both layouts agree.** A description on several lines is read back as it was written: each
category with exactly its entries. No name gives another answer than on one line. -/
theorem ofString_block (d : Description) (hne : d.categories ≠ [])
    (hnames : (d.categories.map Prod.fst).Nodup)
    (hshort : ∀ category ∈ d.categories, (Writing.quoted category.1).length ≤ 1000) :
    (∀ category ∈ d.categories,
      ofString category.1 (Writing.block d) = .ok ⟨[category]⟩) ∧
    (∀ name, ofString name (Writing.block d) = ofString name (Writing.flow d)) := by
  -- Both texts have one value, which decides all that is read.
  have hblock := Writing.ofString_block_eq_value d hne hnames hshort
  have hflow := Writing.ofString_flow_eq_value d hnames
  refine ⟨fun category hcategory => ?_, fun name => ?_⟩
  · rw [ofString_eq_ofValue category.1 hblock, ofValue_value,
      d.category?_eq_of_mem hnames hcategory]
  · rw [ofString_eq_ofValue name hblock, ofString_eq_ofValue name hflow]

/-- Names that look like items or lines do not matter, nor do texts that look like keys, block
scalars, comments and document indicators. -/
theorem ofString_block_lookalikes :
    (["- 1", "k: v\n\"?"] : List String).Nodup ∧
    (∀ name ∈ ["- 1", "k: v\n\"?"], (Writing.quoted name).length ≤ 1000) ∧
    ofString "k: v\n\"?" (Writing.block ⟨[("- 1", []),
      ("k: v\n\"?", [.full ⟨"f]", "~", "- a: b\n\n# c", "? é\\"⟩ [⟨"", ": x"⟩],
        .shorthand "" "|" "---", .degraded ⟨"g", "", "\x01", ","⟩ "[[x, y]]"])]⟩) =
      .ok ⟨[("k: v\n\"?", [.full ⟨"f]", "~", "- a: b\n\n# c", "? é\\"⟩ [⟨"", ": x"⟩],
        .shorthand "" "|" "---", .degraded ⟨"g", "", "\x01", ","⟩ "[[x, y]]"])]⟩ := by
  have hnames : (["- 1", "k: v\n\"?"] : List String).Nodup := by decide
  have hshort : ∀ name ∈ ["- 1", "k: v\n\"?"], (Writing.quoted name).length ≤ 1000 := by decide
  refine ⟨hnames, hshort, ?_⟩
  refine (ofString_block _ (by simp) ?_ ?_).1 ("k: v\n\"?", _) ?_
  · exact hnames
  · exact fun category hcategory => hshort category.1 (List.mem_map_of_mem hcategory)
  · exact List.mem_cons_of_mem _ List.mem_cons_self

end Reading
end ApiStubs
