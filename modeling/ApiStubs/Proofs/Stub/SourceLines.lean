import ApiStubs.Proofs.Stub.Annotations
import ApiStubs.Proofs.Text.SourceLines

/-!
# Comments in a Lua source

The lines of a comment are those between the line feeds of its text, while Lua ends a line at a
carriage return too. So a text that has one can leave its comment: what follows it on the same line
of the text stands on a source line of its own, without dashes in front.

* `Stub.sourceLines_marked_iff` — the source lines of a comment, and those of a block above the
  declaration, are comments if and only if each carriage return in the texts stands at the end of a
  line or before dashes (`Text.Resumes`);
* `Stub.sourceLines_block_unmarked` — a comment with any other carriage return brings a line of
  code.

A carriage return before a line feed does no harm, since the two are one break. Nor does one at the
end of a comment, as the line feed below the comment follows it in the block.
-/

namespace ApiStubs
namespace Stub

open Text (Resumes splitSource sourceLines)

variable {line : List Char} {lines : List (List Char)} {category baseUrl : String} {entry : Entry}

/-- Strings start with a mark as their characters do. -/
theorem forall_mem_sourceLines {mark : List Char} {text : String} :
    (∀ line ∈ sourceLines text, mark <+: line.toList) ↔
      ∀ piece ∈ splitSource text.toList, mark <+: piece := by
  simp only [sourceLines, List.forall_mem_map, String.toList_ofList]

/-! ### Comments -/

theorem exists_cons_of_dashes (h : "---".toList <+: line) :
    ∃ c more, line = c :: more ∧ ¬ Text.IsBreak c := by
  obtain ⟨rest, rfl⟩ := h
  exact ⟨'-', _, rfl, by decide⟩

/-- The source lines of comment lines are comments if and only if each of the lines resumes with
dashes. -/
theorem forall_mem_flatMap_splitSource_iff
    (h : ∀ line ∈ lines, "---".toList <+: line ∧ '\n' ∉ line) :
    (∀ piece ∈ lines.flatMap splitSource, "---".toList <+: piece) ↔
      ∀ line ∈ lines, Resumes "---".toList line := by
  rw [List.forall_mem_flatMap]
  -- Line by line: a line starts with dashes, so the question is whether it resumes with them.
  refine forall₂_congr fun line hline => ?_
  exact Text.forall_mem_splitSource_iff (h line hline).2 (by decide) (h line hline).1

/-- The lines of a comment resume with dashes as its text does. -/
theorem resumes_commentLines_iff (text : String) :
    (∀ line ∈ commentLines text, Resumes "---".toList line) ↔
      Resumes "---".toList text.toList := by
  have hreturn : '\r' ∉ "---".toList := by decide
  have hfeed : '\n' ∉ "---".toList := by decide
  -- The dashes in front of a line have no carriage return, and the line feeds between lines end
  -- them.
  simp only [commentLines, List.forall_mem_map, Text.resumes_append_of_not_mem hreturn]
  rw [← Text.resumes_intercalate hfeed, Text.intercalate_splitLines,
    Text.resumes_dropTrailing hfeed]

/-- The source lines of a comment all start with dashes if and only if its text resumes with
them. -/
theorem forall_mem_comment_iff (text : String) :
    (∀ line ∈ sourceLines (comment text), "---".toList <+: line.toList) ↔
      Resumes "---".toList text.toList := by
  -- The source lines are those of the comment lines, as each of these starts with a dash.
  have hspec := commentLines_spec text
  rw [forall_mem_sourceLines, comment_toList, Text.splitSource_intercalate
    (fun line hline => (hspec line hline).2)
    (fun line hline => exists_cons_of_dashes (hspec line hline).1),
    forall_mem_flatMap_splitSource_iff hspec, resumes_commentLines_iff]

/-- The keyword of unreadable parameters has no carriage return. -/
theorem resumes_todo_iff (raw : String) :
    Resumes "---".toList ("TODO: " ++ raw).toList ↔ Resumes "---".toList raw.toList := by
  rw [String.toList_append]
  exact Text.resumes_append_of_not_mem (by decide)

/-! ### Blocks -/

/-- What holds of the lines below the comment. -/
theorem forall_mem_annotationLines {P : List Char → Prop} :
    (∀ line ∈ annotationLines entry, P line) ↔
      (∀ p ∈ entry.params, P (param p).toList) ∧
        ∀ raw ∈ unreadable entry, ∀ line ∈ commentLines ("TODO: " ++ raw), P line := by
  cases entry <;> simp [annotationLines, Entry.params, unreadable]

/-- The texts of an entry that are put behind dashes line by line. -/
def proseTexts (entry : Entry) : List String := commentOf entry :: unreadable entry

/-- The lines of a block resume with dashes if its texts do, as no other field has a carriage
return. -/
theorem resumes_blockLines_iff (hcategory : '\r' ∉ category.toList) (hbase : '\r' ∉ baseUrl.toList)
    (h : ∀ field ∈ inlineFields entry, '\r' ∉ field.toList) :
    (∀ line ∈ blockLines category baseUrl entry, Resumes "---".toList line) ↔
      ∀ prose ∈ proseTexts entry, Resumes "---".toList prose.toList := by
  -- The codes of carriage returns are below that of the space, as those of all control characters.
  have hreturn : '\r'.toNat < 32 := by decide
  have hparams : ∀ p ∈ entry.params, Resumes "---".toList (param p).toList :=
    fun p hp => Text.resumes_of_not_mem (not_mem_params hreturn h p hp)
  have hclosing : ∀ line ∈ closingLines category baseUrl entry, Resumes "---".toList line :=
    fun line hline =>
      Text.resumes_of_not_mem (not_mem_closingLines hreturn hcategory hbase h line hline)
  -- What is left are the lines that come from the texts.
  rw [blockLines, List.forall_mem_append, List.forall_mem_append, forall_mem_annotationLines,
    and_iff_left hclosing, and_iff_right hparams, proseTexts, List.forall_mem_cons]
  simp only [resumes_commentLines_iff, resumes_todo_iff]

theorem declarationOf_mem_closingLines (category baseUrl : String) (entry : Entry) :
    (declarationOf category entry).toList ∈ closingLines category baseUrl entry := by
  cases entry <;> simp [closingLines, declarationOf, Entry.name, Entry.params]

/-- **A block in a Lua source.** Its last source line is the declaration, and those above it are the
source lines of its comments. -/
theorem splitSource_block (hcategory : '\n' ∉ category.toList ∧ '\r' ∉ category.toList)
    (hbase : '\n' ∉ baseUrl.toList ∧ '\r' ∉ baseUrl.toList)
    (hfields : ∀ field ∈ inlineFields entry, '\n' ∉ field.toList ∧ '\r' ∉ field.toList) :
    ∃ comments,
      splitSource (block category baseUrl entry).toList =
          comments ++ [(declarationOf category entry).toList] ∧
        ((∀ piece ∈ comments, "---".toList <+: piece) ↔
          ∀ prose ∈ proseTexts entry, Resumes "---".toList prose.toList) := by
  have hlined : OneLined entry := oneLined_iff.mpr fun field hfield => (hfields field hfield).1
  have hreturns : ∀ field ∈ inlineFields entry, '\r' ∉ field.toList :=
    fun field hfield => (hfields field hfield).2
  have hfeeds := not_mem_blockLines_lineFeed hcategory.1 hbase.1 hlined
  have hresumes := resumes_blockLines_iff hcategory.2 hbase.2 hreturns
  have hreturn : '\r' ∉ (declarationOf category entry).toList :=
    not_mem_closingLines (by decide) hcategory.2 hbase.2 hreturns _
      (declarationOf_mem_closingLines category baseUrl entry)
  -- The lines in question are comments and a declaration, and so are the source lines.
  obtain ⟨comments, hlines, hcomments⟩ := blockLines_eq_comments category baseUrl entry
  rw [hlines, List.forall_mem_append, List.forall_mem_singleton] at hfeeds hresumes
  obtain ⟨more, hstart⟩ : ∃ more, (declarationOf category entry).toList = 'f' :: more :=
    exists_declaration_eq_cons category entry.name (entry.params.map Param.name)
  have hdeclaration : splitSource (declarationOf category entry).toList =
      [(declarationOf category entry).toList] := by
    -- It has no breaks, so it is one source line.
    refine Text.splitSource_eq_singleton (hstart ▸ List.cons_ne_nil _ _) fun c hc => ?_
    rintro (rfl | rfl)
    · exact hfeeds.2 hc
    · exact hreturn hc
  -- The comment lines are cut further, and the declaration is not.
  refine ⟨comments.flatMap splitSource, ?_, ?_⟩
  · rw [block_toList, hlines, Text.splitSource_intercalate, List.flatMap_append,
      List.flatMap_singleton, hdeclaration]
    · exact List.forall_mem_append.mpr ⟨hfeeds.1, List.forall_mem_singleton.mpr hfeeds.2⟩
    · rw [List.forall_mem_append, List.forall_mem_singleton]
      exact ⟨fun line hline => exists_cons_of_dashes (hcomments line hline),
        'f', more, hstart, by decide⟩
  · rw [← hresumes, and_iff_left (Text.resumes_of_not_mem hreturn)]
    exact forall_mem_flatMap_splitSource_iff fun line hline =>
      ⟨hcomments line hline, hfeeds.1 line hline⟩

/-- **Comments stay comments, and when.** Each source line of a comment starts with dashes, and so
does each one of unreadable parameters, if and only if every carriage return of the text stands at
the end of a line or before dashes. If no field inside a line has a break, the source lines of a
block are those of its comments and then the declaration, and the former start with dashes if and
only if this holds of all texts of the entry. -/
theorem sourceLines_marked_iff (text category baseUrl : String) (entry : Entry) :
    ((∀ line ∈ sourceLines (comment text), "---".toList <+: line.toList) ↔
      Resumes "---".toList text.toList) ∧
    ((∀ line ∈ sourceLines (todo text), "---".toList <+: line.toList) ↔
      Resumes "---".toList text.toList) ∧
    ((∀ field ∈ category :: baseUrl :: inlineFields entry,
        '\n' ∉ field.toList ∧ '\r' ∉ field.toList) →
      ∃ comments, sourceLines (block category baseUrl entry) = comments ++
          ["function " ++ category ++ "." ++ entry.name ++ "(" ++
            ", ".intercalate (entry.params.map Param.name) ++ ") end"] ∧
        ((∀ line ∈ comments, "---".toList <+: line.toList) ↔
          ∀ prose ∈ proseTexts entry, Resumes "---".toList prose.toList)) := by
  refine ⟨forall_mem_comment_iff text, ?_, fun hfields => ?_⟩
  · rw [todo, forall_mem_comment_iff, resumes_todo_iff]
  · -- The block, whose texts may have any breaks and whose other fields have none.
    rw [List.forall_mem_cons, List.forall_mem_cons] at hfields
    obtain ⟨comments, hlines, hmarked⟩ :=
      splitSource_block hfields.1 hfields.2.1 hfields.2.2
    refine ⟨comments.map String.ofList, ?_, ?_⟩
    · rw [sourceLines, hlines, List.map_append, List.map_singleton, String.ofList_toList]
      rfl
    · simp only [List.forall_mem_map, String.toList_ofList]
      exact hmarked

/-- Carriage returns before line feeds, before dashes and at the end. -/
theorem sourceLines_marked_returns :
    let text := "a\r\nb\r---c\n\r\nd\r"
    let entry : Entry := .degraded ⟨"f", "nil", text, "/f"⟩ "[e,\r\n\r--- f]\r\n"
    (∀ line ∈ sourceLines (comment text), "---".toList <+: line.toList) ∧
      (∀ field ∈ "Object" :: "" :: inlineFields entry,
        '\n' ∉ field.toList ∧ '\r' ∉ field.toList) ∧
      ∃ comments, sourceLines (block "Object" "" entry) =
          comments ++ ["function Object.f() end"] ∧
        ∀ line ∈ comments, "---".toList <+: line.toList := by
  intro text entry
  have hfields : ∀ field ∈ "Object" :: "" :: inlineFields entry,
      '\n' ∉ field.toList ∧ '\r' ∉ field.toList := by decide
  -- All carriage returns of the text are at the end of lines or before dashes.
  have htext : Resumes "---".toList text.toList := by decide
  have htexts : ∀ prose ∈ proseTexts entry, Resumes "---".toList prose.toList := by decide
  obtain ⟨hcomment, -, hblock⟩ := sourceLines_marked_iff text "Object" "" entry
  obtain ⟨comments, hlines, hmarked⟩ := hblock hfields
  exact ⟨hcomment.mpr htext, hfields, comments, hlines, hmarked.mpr htexts⟩

/-- **Comments that bring code.** What follows a carriage return in a comment, or in unreadable
parameters, stands on a line of code above the declaration. -/
theorem sourceLines_block_unmarked :
    let entry : Entry := .shorthand "f" "nil" "a\rerror()"
    (∀ field ∈ "Object" :: "" :: inlineFields entry,
        '\n' ∉ field.toList ∧ '\r' ∉ field.toList) ∧
      sourceLines (comment "a\rerror()") = ["---a", "error()"] ∧
      sourceLines (todo "a\rerror()") = ["---TODO: a", "error()"] ∧
      sourceLines (block "Object" "" entry) =
        ["---a", "error()", "---@return nil", "function Object.f() end"] ∧
      ¬ "---".toList <+: "error()".toList := by
  intro entry
  refine ⟨?_, ?_, ?_, ?_, ?_⟩ <;> decide

end Stub
end ApiStubs
