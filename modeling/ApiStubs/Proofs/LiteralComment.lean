import ApiStubs.Proofs.ItemLayout
import ApiStubs.Proofs.Stub.Lines
import ApiStubs.Proofs.Text.EmptyLines

/-!
# Comments in literal scalars

A comment of several lines is most easily written as a literal scalar: below a bar, with all lines
indented alike. It is read line for line, without the empty lines at the end and with one line feed
behind the others, and shown line for line, without that line feed:

* `Reading.ofString_literal` — the entry that is read, and its block.

The first line says how far the lines are indented, so it must not be empty or start with a blank.
All others are arbitrary.
-/

namespace ApiStubs

open Yaml (Value isAllowed isBlank isBreak lineTo)
open Yaml.Block (IsFirstLine IsLine Spells filled linesChars)

namespace Writing

/-- The lines of a shorthand entry whose comment is a literal scalar. -/
def literalLines (comment : List String) : List String :=
  ["Object:", "  functions:", "    - - foo", "      - bool", "      - |"] ++
    comment.map ("        " ++ ·)

/-- Lines without the empty ones at the end. -/
def filledLines (lines : List String) : List String := lines.rdropWhile (· == "")

/-- The comment that some lines of a literal scalar mean. -/
def literalComment (lines : List String) : String := "\n".intercalate (filledLines lines) ++ "\n"

/-! ### The lines that count -/

theorem filled_map_toList (lines : List String) :
    filled (lines.map String.toList) = (filledLines lines).map String.toList := by
  -- A line is empty as a string iff it is as a list of characters.
  have hempty : List.isEmpty ∘ String.toList = (· == "") := by
    funext line
    rw [Bool.eq_iff_iff]
    simp
  rw [filled, filledLines, List.rdropWhile, List.rdropWhile, ← List.map_reverse,
    List.dropWhile_map, hempty, List.map_reverse]

theorem mem_of_mem_filledLines {line : String} {lines : List String}
    (h : line ∈ filledLines lines) : line ∈ lines :=
  (List.rdropWhile_prefix _ _).subset h

/-- A first line that is not empty stays. -/
theorem filledLines_ne_nil {first : String} (hfirst : first ≠ "") (others : List String) :
    filledLines (first :: others) ≠ [] := by
  rw [filledLines, Ne, List.rdropWhile_eq_nil_iff]
  exact fun h => hfirst (by simpa using h first List.mem_cons_self)

/-- The last line that stays is not empty. -/
theorem exists_filledLines_concat {lines : List String} (h : filledLines lines ≠ []) :
    ∃ before last, filledLines lines = before ++ [last] ∧ last ≠ "" ∧ last ∈ lines := by
  -- By the library, what is dropped from the end stops at a line that is not to be dropped.
  have hlast := List.rdropWhile_last_not (· == "") lines h
  refine ⟨_, _, (List.dropLast_append_getLast h).symm, ?_, ?_⟩
  · exact fun heq => hlast (beq_iff_eq.mpr heq)
  · exact mem_of_mem_filledLines (List.getLast_mem h)

theorem toList_literalComment (lines : List String) :
    (literalComment lines).toList =
      ['\n'].intercalate ((filledLines lines).map String.toList) ++ ['\n'] := by
  simp [literalComment]

/-- The lines that stay, each with its line feed, are the comment. -/
theorem linesChars_filled {lines : List String} (h : filledLines lines ≠ []) :
    String.ofList (linesChars (filled (lines.map String.toList))) = literalComment lines := by
  -- With no indentation, joining the lines is the same as ending each of them.
  have hjoined := flatMap_indented 0 String.toList h
  rw [← String.toList_inj, String.toList_ofList, toList_literalComment, filled_map_toList,
    linesChars, List.flatMap_map]
  exact hjoined

/-! ### The text -/

/-- Lines with a line feed behind each are lines with one in front of each, and one at the end. -/
theorem lineFeed_flatMap (column : Nat) (lines : List (List Char)) :
    '\n' :: lines.flatMap (fun line => List.replicate column ' ' ++ (line ++ ['\n'])) =
      lines.flatMap (lineTo column ++ ·) ++ ['\n'] := by
  -- By induction on the lines: the one side has a line feed in front of each, the other behind it.
  induction lines with
  | nil => rfl
  | cons line lines ih =>
    rw [List.flatMap_cons, List.flatMap_cons, List.append_assoc (lineTo column ++ line), ← ih]
    simp [lineTo]

/-- The characters of the entry behind its dash. -/
def literalChars (comment : List (List Char)) : List Char :=
  (lineTo 6).intercalate
    (["foo".toList, "bool".toList, '|' :: comment.flatMap (lineTo 8 ++ ·)].map ('-' :: ' ' :: ·))

theorem toList_literalLines (comment : List String) :
    (ofLines (literalLines comment)).toList =
      itemHead ++ (literalChars (comment.map String.toList) ++ ['\n']) := by
  have hlines : literalLines comment = "Object:" :: "  functions:" :: ("    - " ++ "- foo") ::
      "      - bool" :: "      - |" :: comment.map ("        " ++ ·) := rfl
  have hbool : "      - bool".toList = List.replicate 6 ' ' ++ '-' :: ' ' :: "bool".toList := rfl
  have hbar : "      - |".toList = List.replicate 6 ' ' ++ ['-', ' ', '|'] := rfl
  -- The lines of the comment are indented alike, each with its line feed behind it.
  have hindented : lineChars (comment.map ("        " ++ ·)) =
      (comment.map String.toList).flatMap fun line => List.replicate 8 ' ' ++ (line ++ ['\n']) := by
    simp [lineChars, List.flatMap_map]
  rw [toList_ofLines, hlines, lineChars_item, lineChars_cons, lineChars_cons, hbool, hbar,
    hindented, lineFeed_flatMap]
  simp [literalChars, lineTo]

/-- **The entry is spelt** by its characters. -/
theorem spells_literalChars {first : List Char} {others : List (List Char)}
    (hfirst : IsFirstLine first) (hothers : ∀ line ∈ others, IsLine line)
    (hallowed : ∀ line ∈ first :: others, ∀ c ∈ line, isAllowed c = true) :
    Spells 6 (literalChars (first :: others))
      (.sequence [.string "foo", .string "bool",
        .string (String.ofList (linesChars (filled (first :: others))))]) 1 := by
  have hname : Spells 8 "foo".toList (.string "foo") 0 := .word (by decide) (by rfl)
  have htype : Spells 8 "bool".toList (.string "bool") 0 := .word (by decide) (by rfl)
  -- The literal scalar stands two columns behind its dash, just at the indentation of its lines.
  have hcomment : Spells 8 _ _ 0 :=
    .literal (by decide : 0 < 8) (Nat.le_refl _) hfirst hothers hallowed
  exact .sequence (.cons hname (.cons htype (.cons hcomment .nil))) (by simp)

end Writing

/-! ### The block -/

namespace Stub

open Writing (filledLines literalComment)

/-- The comment is shown line for line, without the line feed at its end. -/
theorem commentLines_literalComment {lines : List String} (h : filledLines lines ≠ [])
    (hlines : ∀ line ∈ lines, '\n' ∉ line.toList) :
    commentLines (literalComment lines) =
      (filledLines lines).map fun line => "---".toList ++ line.toList := by
  have hkept : ∀ line ∈ (filledLines lines).map String.toList, '\n' ∉ line :=
    List.forall_mem_map.mpr fun line hline =>
      hlines line (Writing.mem_of_mem_filledLines hline)
  -- The last line that stays is not empty, so only the line feed behind it is dropped.
  have hdropped : Text.dropTrailing '\n' (literalComment lines).toList =
      ['\n'].intercalate ((filledLines lines).map String.toList) := by
    obtain ⟨before, last, heq, hlast, hmem⟩ := Writing.exists_filledLines_concat h
    have hchars : last.toList ≠ [] := by simpa using hlast
    have hend : last.toList.getLast hchars ≠ '\n' := fun hc =>
      hlines last hmem (hc ▸ List.getLast_mem hchars)
    -- What is joined ends in the last of the lines, and so in the last character of that.
    obtain ⟨start, hstart⟩ :=
      Text.exists_intercalate_concat ['\n'] last.toList (before.map String.toList)
    have hsplit : ['\n'].intercalate ((filledLines lines).map String.toList) =
        start ++ last.toList.dropLast ++ [last.toList.getLast hchars] := by
      rw [heq, List.map_append, List.map_singleton, hstart, List.append_assoc,
        List.dropLast_append_getLast]
    rw [Writing.toList_literalComment, hsplit, List.append_assoc, List.singleton_append,
      Text.dropTrailing_append hend]
    rfl
  rw [commentLines, hdropped, Text.splitLines_intercalate hkept (by simpa using h), List.map_map]
  rfl

end Stub

namespace Reading

open Writing (filledLines literalComment literalLines ofLines)

/-- **A literal scalar is shown line for line.** -/
theorem ofString_literal (baseUrl : String) (lines : List String)
    (hlines : ∀ line ∈ lines, ∀ c ∈ line.toList, isAllowed c = true ∧ isBreak c = false)
    (hfirst : ∃ first ∈ lines.head?, ∃ c ∈ first.toList.head?, c ≠ ' ' ∧ c ≠ '\t') :
    ofString "Object" (ofLines (literalLines lines)) =
        .ok ⟨[("Object", [.shorthand "foo" "bool" (literalComment lines)])]⟩ ∧
      Stub.block "Object" baseUrl (.shorthand "foo" "bool" (literalComment lines)) =
        "\n".intercalate ((filledLines lines).map ("---" ++ ·) ++
          ["---@return bool", "function Object.foo() end"]) := by
  obtain ⟨first, hmem, c, hc, hblank⟩ := hfirst
  obtain ⟨others, rfl⟩ := List.head?_eq_some_iff.mp hmem
  obtain ⟨more, hmore⟩ := List.head?_eq_some_iff.mp hc
  have hne : filledLines (first :: others) ≠ [] := by
    refine Writing.filledLines_ne_nil ?_ others
    rintro rfl
    cases hmore
  constructor
  · -- What is read.
    have hline : ∀ line ∈ first :: others, IsLine line.toList :=
      fun line hline d hd => (hlines line hline d hd).2
    have hothers : ∀ line ∈ others.map String.toList, IsLine line :=
      List.forall_mem_map.mpr fun line hmem => hline line (List.mem_cons_of_mem _ hmem)
    have hallowed : ∀ line ∈ (first :: others).map String.toList, ∀ d ∈ line, isAllowed d = true :=
      List.forall_mem_map.mpr fun line hline d hd => (hlines line hline d hd).1
    have hspells := Writing.spells_literalChars
      ⟨hline first List.mem_cons_self, c, more, hmore, by simpa [isBlank] using hblank⟩ hothers
      hallowed
    refine ofString_item hspells (by decide) ?_ (Writing.toList_literalLines (first :: others))
    rw [← List.map_cons, Writing.linesChars_filled hne]
    -- The three fields are strings, which are kept as they are.
    simp [Entry.ofValue, Value.bare, Value.text]
  · -- What is shown of it.
    -- No line has a line feed in it, since that would be a break.
    have hfeed : ∀ line ∈ first :: others, '\n' ∉ line.toList := fun line hline hmem => by
      have hbreak := (hlines line hline '\n' hmem).2
      revert hbreak
      decide
    rw [← String.toList_inj, Stub.block_toList, Stub.blockLines, Stub.commentOf,
      Stub.commentLines_literalComment hne hfeed]
    simp [Stub.annotationLines, Stub.closingLines, Stub.returns, Stub.declaration,
      Function.comp_def]

/-- Lines that look like items, comments and document indicators do not matter, nor do empty lines
and lines that are indented further. -/
theorem ofString_literal_lookalikes :
    (∀ line ∈ ["- é: |", "", "   # x", "---", "\t", ""],
      ∀ c ∈ line.toList, isAllowed c = true ∧ isBreak c = false) ∧
    (∃ first ∈ ["- é: |", "", "   # x", "---", "\t", ""].head?,
      ∃ c ∈ first.toList.head?, c ≠ ' ' ∧ c ≠ '\t') ∧
    ofString "Object" ("Object:\n  functions:\n    - - foo\n      - bool\n      - |\n" ++
        "        - é: |\n        \n           # x\n        ---\n        \t\n        \n") =
      .ok ⟨[("Object", [.shorthand "foo" "bool" "- é: |\n\n   # x\n---\n\t\n"])]⟩ ∧
    Stub.block "Object" "" (.shorthand "foo" "bool" "- é: |\n\n   # x\n---\n\t\n") =
      "---- é: |\n---\n---   # x\n------\n---\t\n---@return bool\nfunction Object.foo() end" := by
  have hchars : ∀ line ∈ ["- é: |", "", "   # x", "---", "\t", ""],
      line.toList.all (fun c => isAllowed c && !isBreak c) = true := by decide
  have hlines : ∀ line ∈ ["- é: |", "", "   # x", "---", "\t", ""],
      ∀ c ∈ line.toList, isAllowed c = true ∧ isBreak c = false := fun line hline c hc => by
    simpa using List.all_eq_true.mp (hchars line hline) c hc
  have hfirst : ∃ first ∈ ["- é: |", "", "   # x", "---", "\t", ""].head?,
      ∃ c ∈ first.toList.head?, c ≠ ' ' ∧ c ≠ '\t' :=
    ⟨"- é: |", rfl, '-', rfl, by decide, by decide⟩
  -- The text, the comment and the block in full.
  have htext : ofLines (literalLines ["- é: |", "", "   # x", "---", "\t", ""]) =
      "Object:\n  functions:\n    - - foo\n      - bool\n      - |\n" ++
        "        - é: |\n        \n           # x\n        ---\n        \t\n        \n" := by
    decide +kernel
  have hcomment : literalComment ["- é: |", "", "   # x", "---", "\t", ""] =
      "- é: |\n\n   # x\n---\n\t\n" := by decide +kernel
  have hblock : "\n".intercalate
      ((filledLines ["- é: |", "", "   # x", "---", "\t", ""]).map ("---" ++ ·) ++
        ["---@return bool", "function Object.foo() end"]) =
      "---- é: |\n---\n---   # x\n------\n---\t\n---@return bool\nfunction Object.foo() end" := by
    decide +kernel
  have h := ofString_literal "" ["- é: |", "", "   # x", "---", "\t", ""] hlines hfirst
  rw [htext, hcomment, hblock] at h
  exact ⟨hlines, hfirst, h⟩

end Reading
end ApiStubs
