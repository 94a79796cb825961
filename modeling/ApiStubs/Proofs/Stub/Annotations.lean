import ApiStubs.Proofs.Stub.Declarations

/-!
# Annotations and prose

A language server reads a line of a block as an annotation if a keyword follows its dashes. An entry
brings one such line for the returned value, one for each known parameter, and one for parameters
that could not be read (`Stub.Keyword.own`).

Its texts are put behind dashes as they stand, line by line (`Stub.proseLines`). So a line of a
comment that starts with a keyword is read as an annotation too, and so is a line of unreadable
parameters below the first one:

* `Stub.countP_lines_block` — the annotations in a block are those of its entry and those that are
  written in its prose, and there are no others;
* `Stub.countP_lines_block_ne` — the latter do count.

The three keywords differ in their first two characters, and no other line of a block has these
behind its dashes. So each part of a block is counted by itself.
-/

namespace ApiStubs
namespace Stub

/-- The texts of parameters that could not be read: that of a degraded entry. -/
def unreadable : Entry → List String
  | .degraded _ raw => [raw]
  | _ => []

/-! ### Keywords -/

/-- The keywords of annotations, which stand behind the dashes at the start of a line. -/
inductive Keyword where
  | returns
  | param
  | todo
  deriving DecidableEq

namespace Keyword

/-- A keyword with the space behind it. -/
def text : Keyword → String
  | returns => "@return "
  | param => "@param "
  | todo => "TODO: "

/-- How many lines with a keyword an entry brings by what is known of it. -/
def own (entry : Entry) : Keyword → Nat
  | returns => 1
  | param => entry.params.length
  | todo => (unreadable entry).length

/-- Whether a line of a text starts with a keyword. -/
def Heads (k : Keyword) (line : List Char) : Prop := k.text.toList <+: line

instance (k : Keyword) : DecidablePred k.Heads := fun _ => inferInstanceAs (Decidable (_ <+: _))

/-- Whether a line of a block starts with dashes and a keyword. -/
def Marks (k : Keyword) (line : List Char) : Prop := "---".toList ++ k.text.toList <+: line

instance (k : Keyword) : DecidablePred k.Marks := fun _ => inferInstanceAs (Decidable (_ <+: _))

variable {k k' : Keyword} {line : List Char}

theorem marks_dashes : k.Marks ("---".toList ++ line) ↔ k.Heads line :=
  List.prefix_append_right_inj _

theorem take_two_injective (h : k.text.toList.take 2 = k'.text.toList.take 2) : k = k' := by
  -- The first two characters are different for all three keywords.
  cases k <;> cases k' <;> simp [text] at h <;> rfl

/-- Two characters of a line tell which keyword it can start with. -/
theorem Heads.take_two (h : k.Heads line) : line.take 2 = k.text.toList.take 2 := by
  obtain ⟨rest, rfl⟩ := h
  cases k <;> rfl

/-- A line that starts with a keyword starts with no other one. -/
theorem heads_append (rest : List Char) : k.Heads (k'.text.toList ++ rest) ↔ k = k' := by
  constructor
  -- The line starts with its own keyword, whose two characters are those of the other one.
  · intro h
    have hown : k'.Heads (k'.text.toList ++ rest) := List.prefix_append _ _
    exact take_two_injective (h.take_two.symm.trans hown.take_two)
  · rintro rfl
    exact List.prefix_append _ _

end Keyword

/-! ### Single lines -/

variable {k : Keyword} {category baseUrl : String}

theorem marks_returns (type : String) : k.Marks (returns type).toList ↔ k = .returns := by
  have hline : (returns type).toList =
      "---".toList ++ (Keyword.returns.text.toList ++ type.toList) := by
    rw [returns, String.toList_append, ← List.append_assoc]
    rfl
  rw [hline, Keyword.marks_dashes, Keyword.heads_append]

theorem marks_param (p : Param) : k.Marks (param p).toList ↔ k = .param := by
  have hline : (param p).toList = "---".toList ++
      (Keyword.param.text.toList ++ (p.name.toList ++ (" ".toList ++ p.type.toList))) := by
    simp only [param, String.toList_append, List.append_assoc]
    rfl
  rw [hline, Keyword.marks_dashes, Keyword.heads_append]

theorem not_marks_declaration (name : String) (params : List String) :
    ¬ k.Marks (declaration category name params).toList := by
  -- A declaration does not even start with dashes.
  intro h
  exact (isCode_declaration category name params).2 ((List.prefix_append _ _).trans h)

/-- The rulings and the link start with no keyword. -/
theorem not_marks_linkLines (path : String) : ∀ line ∈ linkLines baseUrl path, ¬ k.Marks line := by
  -- The two characters behind their dashes are those of no keyword.
  have hrest : ∀ rest : List Char, rest.take 2 ∈ ["", "**", "[O"].map String.toList →
      ¬ k.Marks ("---".toList ++ rest) := by
    intro rest hmem
    rw [Keyword.marks_dashes]
    intro h
    rw [h.take_two] at hmem
    revert hmem
    cases k <;> decide
  have hlink : ∀ rest : List Char,
      ("[Open Documentation](".toList ++ rest).take 2 ∈ ["", "**", "[O"].map String.toList := by
    intro rest
    simp
  -- Line by line: a ruling, the stars, the link and a ruling.
  simp only [linkLines, List.forall_mem_cons]
  exact ⟨hrest [] (by decide), hrest "***".toList (by decide), hrest _ (hlink _),
    hrest [] (by decide), List.forall_mem_nil _⟩

/-! ### Counting lines -/

/-- **The prose of an entry**: the lines of its texts behind which no part of the layout stands but
the dashes. These are the lines of its comment, and those of unreadable parameters but for the first
one, which has a keyword of its own. -/
def proseLines : Entry → List String
  | .shorthand _ _ text => Text.lines (Text.withoutFinalLineFeeds text)
  | .full s _ => Text.lines (Text.withoutFinalLineFeeds s.comment)
  | .degraded s raw =>
    Text.lines (Text.withoutFinalLineFeeds s.comment) ++
      (Text.lines (Text.withoutFinalLineFeeds raw)).tail

/-- A predicate of characters counts lines as strings or as characters. -/
theorem countP_map_ofList (p : List Char → Prop) [DecidablePred p] (lines : List (List Char)) :
    (lines.map String.ofList).countP (fun line => p line.toList) = lines.countP p := by
  rw [List.countP_map]
  congr 1
  funext line
  simp

/-- Behind dashes, lines have the keywords that they have without them. -/
theorem countP_dashed (k : Keyword) (lines : List (List Char)) :
    (lines.map ("---".toList ++ ·)).countP k.Marks = lines.countP k.Heads := by
  rw [List.countP_map]
  congr 1
  funext line
  exact decide_eq_decide.mpr Keyword.marks_dashes

/-- A comment has as many lines with a keyword as its text. -/
theorem countP_commentLines (k : Keyword) (text : String) :
    (commentLines text).countP k.Marks =
      (Text.lines (Text.withoutFinalLineFeeds text)).countP fun line => k.Heads line.toList := by
  rw [commentLines, countP_dashed, Text.lines, countP_map_ofList, Text.withoutFinalLineFeeds,
    String.toList_ofList]

/-- Unreadable parameters have one line with their own keyword. Below it, they have as many lines
with a keyword as their text. -/
theorem countP_todoLines (k : Keyword) (raw : String) :
    (commentLines ("TODO: " ++ raw)).countP k.Marks =
      (if k = .todo then 1 else 0) +
        (Text.lines (Text.withoutFinalLineFeeds raw)).tail.countP fun line =>
          k.Heads line.toList := by
  -- There is a first line, which is the only one to stand behind the keyword.
  obtain ⟨first, others, hlines⟩ :=
    List.exists_cons_of_ne_nil (Text.splitLines_ne_nil (Text.dropTrailing '\n' raw.toList))
  have hraw : (Text.lines (Text.withoutFinalLineFeeds raw)).tail = others.map String.ofList := by
    rw [Text.lines, Text.withoutFinalLineFeeds, String.toList_ofList, hlines]
    rfl
  -- The first line counts for its own keyword only, whatever follows that.
  have hfirst : k.Marks ("---".toList ++ ("TODO: ".toList ++ first)) ↔ k = .todo :=
    Keyword.marks_dashes.trans (@Keyword.heads_append k .todo first)
  rw [commentLines_todo hlines, hraw, countP_map_ofList, List.countP_cons, countP_dashed,
    Nat.add_comm, if_congr (decide_eq_true_iff.trans hfirst) rfl rfl]

/-- From the returned value on, only that has a keyword. -/
theorem countP_closingLines (k : Keyword) (entry : Entry) :
    (closingLines category baseUrl entry).countP k.Marks = if k = .returns then 1 else 0 := by
  have hlink : ∀ path, (linkLines baseUrl path).countP k.Marks = 0 := by
    intro path
    rw [List.countP_eq_zero]
    simpa using not_marks_linkLines path
  -- None of the lines below the returned value counts.
  cases entry <;>
    simp [closingLines, List.countP_cons, List.countP_append, marks_returns,
      not_marks_declaration, hlink]

/-- **The lines of a block with a keyword** are those of its entry and those of its prose. -/
theorem countP_blockLines (k : Keyword) (entry : Entry) :
    (blockLines category baseUrl entry).countP k.Marks =
      k.own entry + (proseLines entry).countP fun line => k.Heads line.toList := by
  -- The comment counts by its text, and the closing lines once; what is between depends on the
  -- entry.
  rw [blockLines, List.countP_append, List.countP_append, countP_commentLines,
    countP_closingLines]
  cases entry with
  | shorthand name returnType text =>
    rw [annotationLines, List.countP_nil, proseLines]
    cases k <;> simp [commentOf, Keyword.own, Entry.params, unreadable, Nat.add_comm]
  | full s params =>
    -- The lines of the parameters have one keyword each, which is theirs.
    have hparams : (params.map fun p => (param p).toList).countP k.Marks =
        if k = .param then params.length else 0 := by
      rw [List.countP_map]
      split
      · next hk => exact List.countP_eq_length.mpr fun p _ => by simpa using (marks_param p).mpr hk
      · next hk => exact List.countP_eq_zero.mpr fun p _ => by simpa using mt (marks_param p).mp hk
    rw [annotationLines, hparams, proseLines]
    cases k <;> simp [commentOf, Keyword.own, Entry.params, unreadable, Nat.add_comm]
  -- Unreadable parameters add their first line, and below it what their text has.
  | degraded s raw =>
    rw [annotationLines, countP_todoLines, proseLines, List.countP_append]
    cases k <;> simp [commentOf, Keyword.own, Entry.params, unreadable] <;> omega

/-! ### Blocks -/

/-- The lines with a keyword, as a block is cut into lines. -/
theorem countP_lines_block_marks (hcategory : '\n' ∉ category.toList)
    (hbase : '\n' ∉ baseUrl.toList) {entry : Entry} (h : OneLined entry) (k : Keyword) :
    (Text.lines (block category baseUrl entry)).countP (fun line => k.Marks line.toList) =
      k.own entry + (proseLines entry).countP fun line => k.Heads line.toList := by
  rw [Text.lines, countP_map_ofList, splitLines_block hcategory hbase h, countP_blockLines]

/-- **The annotations in a block**: one for the returned value, one for each known parameter and one
for unreadable ones, and those that are written in the prose of the entry. -/
theorem countP_lines_block (hcategory : '\n' ∉ category.toList) (hbase : '\n' ∉ baseUrl.toList)
    {entry : Entry} (h : OneLined entry) :
    let lines := Text.lines (block category baseUrl entry)
    let prose := proseLines entry
    lines.countP (fun line => "---@return ".toList <+: line.toList) =
        1 + prose.countP (fun line => "@return ".toList <+: line.toList) ∧
      lines.countP (fun line => "---@param ".toList <+: line.toList) =
        entry.params.length + prose.countP (fun line => "@param ".toList <+: line.toList) ∧
      lines.countP (fun line => "---TODO: ".toList <+: line.toList) =
        (unreadable entry).length + prose.countP (fun line => "TODO: ".toList <+: line.toList) :=
  ⟨countP_lines_block_marks hcategory hbase h .returns,
    countP_lines_block_marks hcategory hbase h .param,
    countP_lines_block_marks hcategory hbase h .todo⟩

/-- Known parameters below a comment with keywords, of which an indented one and one without a space
behind it do not count. -/
theorem countP_lines_block_full :
    let entry : Entry := .full ⟨"f", "nil", "@param c int\n @return d\n\nTODO: e\n@param\n", "/f"⟩
      [⟨"a", "int"⟩, ⟨"b", "@return "⟩]
    let lines := Text.lines (block "Object" "" entry)
    ('\n' ∉ "Object".toList ∧ '\n' ∉ "".toList ∧ OneLined entry) ∧
      lines.countP (fun line => "---@return ".toList <+: line.toList) = 1 ∧
      lines.countP (fun line => "---@param ".toList <+: line.toList) = 3 ∧
      lines.countP (fun line => "---TODO: ".toList <+: line.toList) = 1 := by
  intro entry lines
  have hcategory : '\n' ∉ "Object".toList := by decide
  have hbase : '\n' ∉ "".toList := by decide
  have hlined : OneLined entry := by decide
  have hprose : proseLines entry =
      ["@param c int", " @return d", "", "TODO: e", "@param"] := by decide +kernel
  have hcount := countP_lines_block hcategory hbase hlined
  simp only [hprose] at hcount
  exact ⟨⟨hcategory, hbase, hlined⟩, hcount.1, hcount.2.1, hcount.2.2⟩

/-- **Prose is read as annotations.** A comment and unreadable parameters bring a second returned
value, a parameter where none is known, and more unreadable parameters. -/
theorem countP_lines_block_ne :
    let entry : Entry := .degraded ⟨"f", "nil", "@param x int", "/f"⟩ "a\n@return b\nTODO: c"
    let lines := Text.lines (block "Object" "https://example" entry)
    ('\n' ∉ "Object".toList ∧ '\n' ∉ "https://example".toList ∧ OneLined entry) ∧
      lines.countP (fun line => "---@return ".toList <+: line.toList) ≠ 1 ∧
      lines.countP (fun line => "---@param ".toList <+: line.toList) ≠ 0 ∧
      lines.countP (fun line => "---TODO: ".toList <+: line.toList) ≠ 1 := by
  intro entry lines
  have hcategory : '\n' ∉ "Object".toList := by decide
  have hbase : '\n' ∉ "https://example".toList := by decide
  have hlined : OneLined entry := by decide
  have hprose : proseLines entry = ["@param x int", "@return b", "TODO: c"] := by decide +kernel
  -- Each keyword heads one line of the prose, which is one more than the entry has of its own.
  have hcount : ∀ k : Keyword,
      lines.countP (fun line => k.Marks line.toList) = k.own entry + 1 := by
    intro k
    rw [countP_lines_block_marks hcategory hbase hlined, hprose]
    cases k <;> decide
  have hreturns : lines.countP (fun line => "---@return ".toList <+: line.toList) = 2 :=
    hcount .returns
  have hparams : lines.countP (fun line => "---@param ".toList <+: line.toList) = 1 := hcount .param
  have htodo : lines.countP (fun line => "---TODO: ".toList <+: line.toList) = 2 := hcount .todo
  rw [hreturns, hparams, htodo]
  exact ⟨⟨hcategory, hbase, hlined⟩, by decide, by decide, by decide⟩

end Stub
end ApiStubs
