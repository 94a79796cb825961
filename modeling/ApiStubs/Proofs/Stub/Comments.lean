import ApiStubs.Proofs.Stub.Lines

/-!
# Comments and their texts

A comment shows all of its text but the line feeds at the end. Line by line it is the text with
dashes in front (`Stub.lines_comment`), so the text comes back from it without them, whatever it is:
it may be empty, have blank lines at its start or in the middle, or begin with dashes itself.

* `Stub.comment_eq_iff` — two texts have one comment if they are the same but for line feeds at the
  end, and only then;
* `Stub.comment_append` — a text that is put below another one has its own comment below the lines
  of that, unless it consists of line feeds only;
* `Stub.comment_keeps_lines` — these together, on texts as they are.
-/

namespace ApiStubs
namespace Stub

/-! ### Texts and their lines -/

theorem ofList_dashes (line : List Char) :
    String.ofList ("---".toList ++ line) = "---" ++ String.ofList line := by
  rw [String.ofList_append, String.ofList_toList]

/-- The lines of a text make it up. -/
theorem intercalate_lines (text : String) : "\n".intercalate (Text.lines text) = text := by
  -- The same join, once of strings and once of characters.
  have hchars : (Text.lines text).map String.toList = Text.splitLines text.toList := by
    simp only [Text.lines, List.map_map, Function.comp_def, String.toList_ofList, List.map_id']
  have hfeed : "\n".toList = ['\n'] := by decide
  rw [← String.toList_inj, String.toList_intercalate, hchars, hfeed, Text.intercalate_splitLines]

theorem lines_injective {text other : String} (h : Text.lines text = Text.lines other) :
    text = other := by
  rw [← intercalate_lines text, h, intercalate_lines]

/-! ### Texts and their comments -/

/-- The lines of a comment are those of its text with dashes in front. -/
theorem lines_comment (text : String) :
    Text.lines (comment text) =
      (Text.lines (Text.withoutFinalLineFeeds text)).map ("---" ++ ·) := by
  -- The comment is cut at just the line feeds that joined its lines.
  have hcut : Text.splitLines (comment text).toList = commentLines text := by
    rw [comment_toList, Text.splitLines_intercalate _ (commentLines_ne_nil text)]
    exact fun line hline => (commentLines_spec text line hline).2
  -- What is put behind dashes is the text without its final line feeds.
  have hkept : (Text.withoutFinalLineFeeds text).toList = Text.dropTrailing '\n' text.toList :=
    String.toList_ofList
  rw [Text.lines, hcut, commentLines, Text.lines, hkept, List.map_map, List.map_map]
  exact List.map_congr_left fun line _ => ofList_dashes line

/-- **Two texts have one comment** if the same is left of them without the line feeds at their
ends. -/
theorem comment_eq_iff {text other : String} :
    comment text = comment other ↔
      Text.withoutFinalLineFeeds text = Text.withoutFinalLineFeeds other := by
  constructor
  · intro h
    have hlines : (Text.lines (Text.withoutFinalLineFeeds text)).map ("---" ++ ·) =
        (Text.lines (Text.withoutFinalLineFeeds other)).map ("---" ++ ·) := by
      rw [← lines_comment, h, lines_comment]
    -- Lines that are the same behind dashes are the same.
    have hdashes : Function.Injective ("---" ++ · : String → String) :=
      fun _ _ heq => String.append_right_inj _ |>.mp heq
    exact lines_injective (hdashes.list_map hlines)
  · intro h
    rw [comment, comment, h]

/-- **A text below another one.** The lines of the first text are kept, also the empty ones at its
end, and the second one has a comment of its own. -/
theorem commentLines_append (before : String) {after : String} {c : Char} (hmem : c ∈ after.toList)
    (hc : c ≠ '\n') :
    commentLines (before ++ "\n" ++ after) =
      (Text.splitLines before.toList).map ("---".toList ++ ·) ++ commentLines after := by
  -- The text that is joined below starts on a line of its own, behind the line feed.
  have htext : (before ++ "\n" ++ after).toList = before.toList ++ '\n' :: after.toList := by
    simp
  -- The line feed between the two texts is not at the end, as a character other than it follows.
  have hbelow : Text.dropTrailing '\n' (before.toList ++ '\n' :: after.toList) =
      before.toList ++ '\n' :: Text.dropTrailing '\n' after.toList := by
    rw [List.append_cons, Text.dropTrailing_append_of_mem hmem hc, ← List.append_cons]
  rw [commentLines, htext, hbelow, Text.splitLines_append_lineFeed, List.map_append, commentLines]

/-- The comment of a text below another one, as a text. -/
theorem comment_append (before : String) {after : String} {c : Char} (hmem : c ∈ after.toList)
    (hc : c ≠ '\n') :
    comment (before ++ "\n" ++ after) =
      "\n".intercalate ((Text.lines before).map ("---" ++ ·)) ++ "\n" ++ comment after := by
  have hlines : ((Text.lines before).map ("---" ++ ·)).map String.toList =
      (Text.splitLines before.toList).map ("---".toList ++ ·) := by
    simp only [Text.lines, List.map_map, Function.comp_def, String.toList_append,
      String.toList_ofList]
  have hfeed : "\n".toList = ['\n'] := by decide
  have hne : (Text.splitLines before.toList).map ("---".toList ++ ·) ≠ [] := by
    simpa using Text.splitLines_ne_nil before.toList
  rw [← String.toList_inj, comment_toList, commentLines_append before hmem hc,
    Text.intercalate_append hne (commentLines_ne_nil after), String.toList_append,
    String.toList_append, String.toList_intercalate, hlines, comment_toList, hfeed]

/-- Without its dashes, a comment is its text. -/
theorem intercalate_drop_comment (text : String) :
    "\n".intercalate ((Text.lines (comment text)).map fun line =>
      String.ofList (line.toList.drop 3)) = Text.withoutFinalLineFeeds text := by
  -- The dashes are three characters, so that what is left behind them is the line.
  have hdrop : ∀ line : String, String.ofList (("---" ++ line).toList.drop 3) = line := by
    intro line
    have hdashes : "---".toList.length = 3 := by decide
    rw [String.toList_append, ← hdashes, List.drop_left, String.ofList_toList]
  rw [lines_comment, List.map_map, Function.comp_def, List.map_id'' hdrop, intercalate_lines]

/-- **A comment is its text, line by line**, without the line feeds at the end. It has as many
lines, each behind dashes, and without these they are the text again. So a comment shows all of its
text but those line feeds, and a text that is put below another one has its own comment below the
lines of that. -/
theorem comment_keeps_lines (text : String) :
    (let kept := Text.withoutFinalLineFeeds text
      let lines := Text.lines (comment text)
      (kept.toList.getLast? ≠ some '\n' ∧
          ∃ n, text.toList = kept.toList ++ List.replicate n '\n') ∧
        lines.length = (Text.lines kept).length ∧
        (∀ line ∈ lines, "---".toList <+: line.toList) ∧
        "\n".intercalate (lines.map fun line => String.ofList (line.toList.drop 3)) = kept) ∧
    (∀ other : String, comment text = comment other ↔
      ∃ kept m n, text.toList = kept ++ List.replicate m '\n' ∧
        other.toList = kept ++ List.replicate n '\n') ∧
    ((∃ c ∈ text.toList, c ≠ '\n') → ∀ before : String,
      comment (before ++ "\n" ++ text) =
        "\n".intercalate ((Text.lines before).map ("---" ++ ·)) ++ "\n" ++ comment text) := by
  refine ⟨?_, fun other => ?_, ?_⟩
  · -- What one comment is.
    intro kept lines
    have hkept : kept.toList = Text.dropTrailing '\n' text.toList := String.toList_ofList
    have hlines : lines = (Text.lines kept).map ("---" ++ ·) := lines_comment text
    refine ⟨⟨?_, ?_⟩, ?_, ?_, intercalate_drop_comment text⟩
    · rw [hkept]
      exact Text.getLast?_dropTrailing '\n' text.toList
    · rw [hkept]
      exact Text.exists_eq_dropTrailing_append '\n' text.toList
    · rw [hlines, List.length_map]
    · rw [hlines, List.forall_mem_map]
      intro line _
      rw [String.toList_append]
      exact List.prefix_append _ _
  · -- When two comments are equal.
    rw [comment_eq_iff, Text.withoutFinalLineFeeds, Text.withoutFinalLineFeeds, String.ofList_inj,
      Text.dropTrailing_eq_iff]
  · -- What a comment is of a text below another.
    rintro ⟨c, hmem, hc⟩ before
    exact comment_append before hmem hc

/-- Blank lines at the end of the first of two texts, and at both ends of the second one, which
begins with dashes itself. -/
theorem comment_keeps_lines_blank :
    (∃ c ∈ "\n--- b\n\n".toList, c ≠ '\n') ∧
      comment ("a\n\n" ++ "\n" ++ "\n--- b\n\n") =
        "\n".intercalate ["---a", "---", "---"] ++ "\n" ++ comment "\n--- b\n\n" := by
  have hletter : ∃ c ∈ "\n--- b\n\n".toList, c ≠ '\n' := ⟨'b', by decide, by decide⟩
  -- The letter is what makes the second text count as one that has something to show.
  refine ⟨hletter, ((comment_keeps_lines "\n--- b\n\n").2.2 hletter "a\n\n").trans ?_⟩
  have hlines : Text.lines "a\n\n" = ["a", "", ""] := by decide
  rw [hlines]
  rfl

end Stub
end ApiStubs
