import ApiStubs.Proofs.Stub.Lines
import ApiStubs.Proofs.Text.EmptyLines

/-!
# One block for each entry

A language server takes an empty line for the end of a block. A stub file cut at its empty
lines shows its blocks, one for each entry and in their order, if and only if no field
brings an empty line of its own:

* `Stub.StaysTogether entry` — what the fields of the entry must be like;
* `Stub.tidy_block_iff` — its block has no empty line if and only if they are;
* `Stub.paragraphs_file_iff` — the paragraphs of a stub file are its blocks if and only if
  this holds of every entry.

A comment and the text of unreadable parameters can be anything, since each of their lines is
put behind dashes (`Stub.tidy_comment`). A return type and the type of a parameter end their
lines as they are, so these must not end in a line feed either. What stands before something
else on its line may.
-/

namespace ApiStubs
namespace Stub

open Text (HasEmptyLine Tidy StartsVisibly)

/-! ### Comments -/

theorem startsVisibly_of_dashes {line : List Char} (h : "---".toList <+: line) :
    StartsVisibly line := by
  obtain ⟨rest, rfl⟩ := h
  exact ⟨'-', _, rfl, by decide⟩

/-- **Comments are tidy**, with blank lines in the text and line feeds at its ends. -/
theorem tidy_comment (text : String) : Tidy (comment text).toList := by
  -- Line by line: no line has a line feed in it, and each starts with a dash.
  rw [comment_toList, Text.tidy_intercalate_iff]
  · exact fun line hline => Text.tidy_of_not_mem (commentLines_spec text line hline).2
  · exact fun line hline => startsVisibly_of_dashes (commentLines_spec text line hline).1

theorem startsVisibly_comment (text : String) : StartsVisibly (comment text).toList := by
  rw [comment_toList]
  obtain ⟨first, others, hlines⟩ := List.exists_cons_of_ne_nil (commentLines_ne_nil text)
  have hfirst := commentLines_spec text first (hlines ▸ List.mem_cons_self)
  rw [hlines]
  cases others with
  | nil =>
    rw [List.intercalate_singleton]
    exact startsVisibly_of_dashes hfirst.1
  | cons second others =>
    rw [List.intercalate_cons_cons, List.append_assoc]
    exact (startsVisibly_of_dashes hfirst.1).append _

/-! ### Other parts -/

theorem tidy_returns_iff (type : String) : Tidy (returns type).toList ↔ Tidy type.toList := by
  rw [returns, String.toList_append, Text.tidy_append_of_tidy (by decide)]

theorem tidy_param_iff (p : Param) :
    Tidy (param p).toList ↔ ¬ HasEmptyLine p.name.toList ∧ Tidy p.type.toList := by
  -- The space within the line keeps line feeds of the name from those of the type.
  have hparts : (param p).toList =
      "---@param ".toList ++ (p.name.toList ++ ' ' :: p.type.toList) := by
    simp [param]
  rw [hparts, Text.tidy_append_of_tidy (by decide), Text.tidy_append_cons (by decide)]

theorem tidy_link_iff {baseUrl : String} (hbase : '\n' ∉ baseUrl.toList) (path : String) :
    Tidy (link baseUrl path).toList ↔ ¬ HasEmptyLine path.toList := by
  -- In front of the path, the text is tidy up to the base URL, which has no line feeds; behind it
  -- comes a bracket.
  have hstart : Tidy "---\n---***\n---[Open Documentation](".toList := by decide +kernel
  have hclose : ")\n---".toList = ')' :: "\n---".toList := by decide
  have hend : Tidy "\n---".toList := by decide
  unfold link
  simp only [String.toList_append, List.append_assoc]
  rw [hclose, Text.tidy_append_of_tidy hstart,
    Text.tidy_append_of_tidy (Text.tidy_of_not_mem hbase), Text.tidy_append_cons (by decide)]
  tauto

theorem tidy_declaration_iff {category : String} (hcategory : '\n' ∉ category.toList)
    (name : String) (params : List String) :
    Tidy (declaration category name params).toList ↔
      ¬ HasEmptyLine name.toList ∧ ∀ p ∈ params, ¬ HasEmptyLine p.toList := by
  have hparts : (declaration category name params).toList =
      "function ".toList ++ (category.toList ++ ('.' :: (name.toList ++ '(' ::
        ([',', ' '].intercalate (params.map String.toList) ++ ')' :: " end".toList)))) := by
    simp [declaration]
  have hend : Tidy " end".toList := by decide
  -- What stands before the dot is tidy; the name and its parameters stand within the line.
  have hdot : ∀ text, '.' :: text = ['.'] ++ text := fun _ => rfl
  rw [hparts, Text.tidy_append_of_tidy (by decide),
    Text.tidy_append_of_tidy (Text.tidy_of_not_mem hcategory), hdot,
    Text.tidy_append_of_tidy (by decide), Text.tidy_append_cons (by decide),
    Text.tidy_append_cons (by decide), Text.hasEmptyLine_intercalate_comma]
  simp only [List.mem_map, exists_exists_and_eq_and, not_exists, not_and, hend, and_true]

theorem tidy_header {category : String} (h : '\n' ∉ category.toList) :
    Tidy (header category).toList := by
  -- Two lines, the first of which ends just where the second one starts.
  have hparts : (header category).toList =
      "---@meta ".toList ++ (category.toList ++ ("\n---@class ".toList ++ category.toList)) := by
    simp [header]
  rw [hparts, Text.tidy_append_of_tidy (by decide),
    Text.tidy_append_of_tidy (Text.tidy_of_not_mem h), Text.tidy_append_of_tidy (by decide)]
  exact Text.tidy_of_not_mem h

/-! ### Blocks -/

/-- **An entry that stays together.** Names and links have no empty line, and types are tidy.
There is no condition on its comment or on the text of unreadable parameters. -/
def StaysTogether : Entry → Prop
  | .shorthand name returnType _ => ¬ HasEmptyLine name.toList ∧ Tidy returnType.toList
  | .full s params =>
    ¬ HasEmptyLine s.name.toList ∧ Tidy s.returnType.toList ∧ ¬ HasEmptyLine s.link.toList ∧
      ∀ p ∈ params, ¬ HasEmptyLine p.name.toList ∧ Tidy p.type.toList
  | .degraded s _ =>
    ¬ HasEmptyLine s.name.toList ∧ Tidy s.returnType.toList ∧ ¬ HasEmptyLine s.link.toList

variable {category baseUrl : String}

theorem startsVisibly_parts (category baseUrl : String) (entry : Entry) :
    ∀ part ∈ parts category baseUrl entry, StartsVisibly part.toList := by
  -- Every part starts with a dash, or with the first letter of a declaration.
  have hreturns : ∀ type, StartsVisibly (returns type).toList :=
    fun type => startsVisibly_of_dashes (dashes_returns type)
  have hparam : ∀ p, StartsVisibly (param p).toList :=
    fun p => startsVisibly_of_dashes (dashes_param p)
  have hlink : ∀ path, StartsVisibly (link baseUrl path).toList := by
    intro path
    unfold link
    simp only [String.toList_append, List.append_assoc]
    exact (startsVisibly_of_dashes (by decide +kernel)).append _
  have hdeclaration : ∀ name params, StartsVisibly (declaration category name params).toList := by
    intro name params
    obtain ⟨more, heq⟩ := exists_declaration_eq_cons category name params
    exact ⟨'f', more, heq, by decide⟩
  cases entry with
  | shorthand name returnType text =>
    simp only [parts, List.forall_mem_cons]
    exact ⟨startsVisibly_comment _, hreturns _, hdeclaration _ _, List.forall_mem_nil _⟩
  | full s params =>
    simp only [parts, List.cons_append, List.forall_mem_cons, List.forall_mem_append,
      List.forall_mem_map]
    exact ⟨startsVisibly_comment _, fun p _ => hparam p, hreturns _, hlink _, hdeclaration _ _,
      List.forall_mem_nil _⟩
  | degraded s raw =>
    simp only [parts, List.forall_mem_cons]
    exact ⟨startsVisibly_comment _, startsVisibly_comment _, hreturns _, hlink _,
      hdeclaration _ _, List.forall_mem_nil _⟩

/-- **A block without empty lines.** Part by part, only fields that keep to their lines
make one. -/
theorem tidy_block_iff (hcategory : '\n' ∉ category.toList) (hbase : '\n' ∉ baseUrl.toList)
    (entry : Entry) : Tidy (block category baseUrl entry).toList ↔ StaysTogether entry := by
  -- No part starts with a line feed, so the block is tidy if each of its parts is.
  have hvisible := List.forall_mem_map.mpr (startsVisibly_parts category baseUrl entry)
  rw [block_toList_parts, Text.tidy_intercalate_iff hvisible, List.forall_mem_map]
  cases entry with
  | shorthand name returnType text =>
    simp only [parts, List.forall_mem_cons, tidy_comment, tidy_returns_iff,
      tidy_declaration_iff hcategory, StaysTogether]
    tauto
  | full s params =>
    simp only [parts, List.cons_append, List.forall_mem_cons, List.forall_mem_append,
      List.forall_mem_map, tidy_comment, tidy_param_iff, tidy_returns_iff,
      tidy_link_iff hbase, tidy_declaration_iff hcategory, StaysTogether]
    constructor
    · rintro ⟨-, hparams, hreturns, hlink, ⟨hname, -⟩, -⟩
      exact ⟨hname, hreturns, hlink, hparams⟩
    · -- The names of the parameters stand in the declaration once more.
      rintro ⟨hname, hreturns, hlink, hparams⟩
      exact ⟨trivial, hparams, hreturns, hlink, ⟨hname, fun p hp => (hparams p hp).1⟩,
        List.forall_mem_nil _⟩
  | degraded s raw =>
    simp only [parts, todo, List.forall_mem_cons, tidy_comment, tidy_returns_iff,
      tidy_link_iff hbase, tidy_declaration_iff hcategory, StaysTogether]
    tauto

/-- A block ends with its declaration. -/
theorem block_getLast? (category baseUrl : String) (entry : Entry) :
    (block category baseUrl entry).toList.getLast? = some 'd' := by
  have hdeclaration : ∀ name params,
      (declaration category name params).toList.getLast? = some 'd' := by
    intro name params
    have hend : ") end".toList.getLast? = some 'd' := by decide
    rw [declaration, String.toList_append, List.getLast?_append, hend]
    rfl
  -- Whatever the entry is, the declaration is the last part.
  obtain ⟨before, name, params, hparts⟩ : ∃ before name params,
      parts category baseUrl entry = before ++ [declaration category name params] := by
    cases entry with
    | shorthand name returnType text => exact ⟨[_, _], _, _, rfl⟩
    | full s params =>
      exact ⟨comment s.comment :: params.map param ++ [returns s.returnType, link baseUrl s.link],
        _, _, by rw [parts, List.append_assoc]; rfl⟩
    | degraded s raw => exact ⟨[_, _, _, _], _, _, rfl⟩
  obtain ⟨rest, hrest⟩ := Text.exists_intercalate_concat ['\n']
    (declaration category name params).toList (before.map String.toList)
  rw [block_toList_parts, hparts, List.map_append, List.map_singleton, hrest, List.getLast?_append,
    hdeclaration]
  rfl

/-! ### Files -/

variable {settings : Settings}

theorem text_toList (settings : Settings) (entries : List Entry) :
    (text settings entries).toList =
      ['\n', '\n'].intercalate ((blocks settings entries).map String.toList) := by
  simp [text]

/-- No block ends in a line feed, and the header has no empty line. -/
theorem blocks_spec (hcategory : '\n' ∉ settings.category.toList) (entries : List Entry) :
    (∀ b ∈ blocks settings entries, b.toList.getLast? ≠ some '\n') ∧
      ((∀ b ∈ blocks settings entries, ¬ HasEmptyLine b.toList) ↔
        ∀ entry ∈ entries,
          ¬ HasEmptyLine (block settings.category settings.baseUrl entry).toList) := by
  -- With or without a header, the conditions on the blocks of the entries are the same.
  have hblock : ∀ entry, (block settings.category settings.baseUrl entry).toList.getLast? ≠
      some '\n' := by
    intro entry
    rw [block_getLast?]
    decide
  have hheader := tidy_header hcategory
  rw [blocks]
  cases settings.header with
  | true =>
    simp only [if_true, List.forall_mem_append, List.forall_mem_singleton, List.forall_mem_map]
    exact ⟨⟨hheader.2, fun entry _ => hblock entry⟩, and_iff_right hheader.1⟩
  | false =>
    simp only [Bool.false_eq_true, if_false, List.nil_append, List.forall_mem_map]
    exact ⟨fun entry _ => hblock entry, trivial⟩

theorem paragraphs_text_iff (hcategory : '\n' ∉ settings.category.toList)
    {entries : List Entry} (hne : blocks settings entries ≠ []) :
    Text.paragraphs (text settings entries) = blocks settings entries ↔
      ∀ entry ∈ entries,
        ¬ HasEmptyLine (block settings.category settings.baseUrl entry).toList := by
  -- The law of cutting asks for texts that do not end in line feeds, as these.
  obtain ⟨hends, hempty⟩ := blocks_spec hcategory entries
  have hstrings : ∀ strings : List String,
      (strings.map String.toList).map String.ofList = strings := by
    intro strings
    rw [List.map_map, show String.ofList ∘ String.toList = id from
      funext fun _ => String.ofList_toList, List.map_id]
  have hchars : ∀ charss : List (List Char),
      (charss.map String.ofList).map String.toList = charss := by
    intro charss
    rw [List.map_map, show String.toList ∘ String.ofList = id from
      funext fun _ => String.toList_ofList, List.map_id]
  -- Strings and lists of characters, as the laws of cutting are about the latter.
  rw [← hempty, ← List.forall_mem_map (f := String.toList) (P := (¬ HasEmptyLine ·)),
    ← Text.splitParagraphs_intercalate_iff (by simpa using hne)
      (List.forall_mem_map.mpr hends), ← text_toList, Text.paragraphs]
  constructor
  · intro h
    rw [← h, hchars]
  · intro h
    rw [h, hstrings]

/-- **One block for each entry, and when.** Cut at its empty lines, a stub file that has a
block at all is its blocks if and only if every entry stays together. -/
theorem paragraphs_file_iff {d : Description} {entries : List Entry}
    (hentries : d.category? settings.category = some entries)
    (hcategory : '\n' ∉ settings.category.toList) (hbase : '\n' ∉ settings.baseUrl.toList)
    (hparts : settings.header = true ∨ entries ≠ []) :
    ∃ text, file settings d = .ok text ∧
      (Text.paragraphs text =
          (if settings.header then [header settings.category] else []) ++
            entries.map (block settings.category settings.baseUrl) ↔
        ∀ entry ∈ entries, StaysTogether entry) := by
  refine ⟨text settings entries, by rw [file, hentries], ?_⟩
  -- Without a header and without entries, there would be no block to be found again.
  have hne : blocks settings entries ≠ [] := by
    rw [blocks]
    rcases hparts with hheader | hne
    · simp [hheader]
    · simp [hne]
  refine (paragraphs_text_iff hcategory hne).trans ?_
  -- A block never ends in a line feed, so to be tidy it only must have no empty line.
  refine forall₂_congr fun entry _ => ?_
  rw [← tidy_block_iff hcategory hbase, Tidy, block_getLast?]
  simp

/-- A blank line in a comment stays in its block. -/
theorem paragraphs_file_blank_comment :
    ∃ text, file ⟨"Object", "", true⟩ ⟨[("Object", [.shorthand "f" "nil" "a\n\nb\n"])]⟩ = .ok text ∧
      Text.paragraphs text =
        [header "Object", block "Object" "" (.shorthand "f" "nil" "a\n\nb\n")] := by
  obtain ⟨text, hfile, hiff⟩ := @paragraphs_file_iff ⟨"Object", "", true⟩
    ⟨[("Object", [.shorthand "f" "nil" "a\n\nb\n"])]⟩ _ rfl (by decide) (by decide) (.inl rfl)
  refine ⟨text, hfile, hiff.mpr ?_⟩
  -- One entry, whose name and type are words.
  rw [List.forall_mem_singleton]
  exact ⟨by decide, by decide⟩

end Stub
end ApiStubs
