import ApiStubs.Proofs.Text.Lines
import ApiStubs.Stub

/-!
# The lines of a block

A block is laid out in parts, some of which have several lines. Line by line, it is

* the comment of the entry (`Stub.commentLines`),
* a line for each parameter, or those that show unreadable ones
  (`Stub.annotationLines`),
* the returned value, the link if there is one, and the declaration
  (`Stub.closingLines`).

Put below each other, these are the block (`Stub.block_toList`). If the fields that end up
inside a line have no line feeds, they are also what the block is cut into
(`Stub.splitLines_block`).
-/

namespace ApiStubs
namespace Stub

/-- The lines of a comment. -/
def commentLines (text : String) : List (List Char) :=
  (Text.splitLines (Text.dropTrailing '\n' text.toList)).map ("---".toList ++ ·)

theorem comment_toList (text : String) :
    (comment text).toList = ['\n'].intercalate (commentLines text) := by
  simp [comment, commentLines, Text.lines, Text.withoutFinalLineFeeds, Function.comp_def]

/-- Whatever the text is, every line of its comment starts with dashes and ends before the
next line feed. -/
theorem commentLines_spec (text : String) :
    ∀ line ∈ commentLines text, "---".toList <+: line ∧ '\n' ∉ line := by
  intro line hline
  obtain ⟨rest, hrest, rfl⟩ := List.mem_map.mp hline
  refine ⟨List.prefix_append _ _, ?_⟩
  rw [List.mem_append, not_or]
  exact ⟨by decide, Text.not_mem_of_mem_splitLines _ rest hrest⟩

theorem commentLines_ne_nil (text : String) : commentLines text ≠ [] := by
  simpa [commentLines] using Text.splitLines_ne_nil _

/-- Unreadable parameters have the keyword in front of their first line. -/
theorem commentLines_todo {raw : String} {first : List Char} {others : List (List Char)}
    (h : Text.splitLines (Text.dropTrailing '\n' raw.toList) = first :: others) :
    commentLines ("TODO: " ++ raw) =
      ("---".toList ++ ("TODO: ".toList ++ first)) :: others.map ("---".toList ++ ·) := by
  -- The keyword itself is on the first line, and its colon keeps line feeds behind it from the end.
  have hmark : "TODO: ".toList = "TODO:".toList ++ [' '] := by decide
  have htext : ("TODO: " ++ raw).toList = "TODO:".toList ++ ' ' :: raw.toList := by simp
  rw [commentLines, htext, Text.dropTrailing_append (by decide), List.append_cons,
    Text.splitLines_append (by decide), h, hmark]
  rfl

/-! ### Parts and lines -/

/-- The comment of an entry. -/
def commentOf : Entry → String
  | .shorthand _ _ comment => comment
  | .full s _ => s.comment
  | .degraded s _ => s.comment

/-- The lines between the comment and the returned value. -/
def annotationLines : Entry → List (List Char)
  | .shorthand _ _ _ => []
  | .full _ params => params.map fun p => (param p).toList
  | .degraded _ raw => commentLines ("TODO: " ++ raw)

/-- The lines of a link. -/
def linkLines (baseUrl path : String) : List (List Char) :=
  ["---".toList, "---***".toList,
    "---[Open Documentation](".toList ++ (baseUrl.toList ++ (path.toList ++ [')'])), "---".toList]

/-- The lines from the returned value on. -/
def closingLines (category baseUrl : String) : Entry → List (List Char)
  | .shorthand name returnType _ =>
    [(returns returnType).toList, (declaration category name []).toList]
  | .full s params =>
    (returns s.returnType).toList :: (linkLines baseUrl s.link ++
      [(declaration category s.name (params.map Param.name)).toList])
  | .degraded s _ =>
    (returns s.returnType).toList :: (linkLines baseUrl s.link ++
      [(declaration category s.name []).toList])

/-- The lines of a block. -/
def blockLines (category baseUrl : String) (entry : Entry) : List (List Char) :=
  commentLines (commentOf entry) ++ (annotationLines entry ++ closingLines category baseUrl entry)

theorem linkLines_ne_nil (baseUrl path : String) : linkLines baseUrl path ≠ [] :=
  List.cons_ne_nil _ _

theorem linkLines_length (baseUrl path : String) : (linkLines baseUrl path).length = 4 := rfl

theorem link_toList (baseUrl path : String) :
    (link baseUrl path).toList = ['\n'].intercalate (linkLines baseUrl path) := by
  -- A link is written as one text with line feeds in it: these are what cuts it into four lines.
  have hstart : "---\n---***\n---[Open Documentation](".toList =
      "---".toList ++ '\n' :: ("---***".toList ++ '\n' :: "---[Open Documentation](".toList) := by
    decide +kernel
  have hclose : ")\n---".toList = ')' :: '\n' :: "---".toList := by decide
  unfold link
  simp only [String.toList_append, hstart, hclose, linkLines, List.intercalate_cons_cons,
    List.intercalate_singleton, List.append_assoc, List.cons_append, List.nil_append]

theorem block_toList_parts (category baseUrl : String) (entry : Entry) :
    (block category baseUrl entry).toList =
      ['\n'].intercalate ((parts category baseUrl entry).map String.toList) := by
  simp [block]

/-- **A block is its lines**, whatever the entry is. -/
theorem block_toList (category baseUrl : String) (entry : Entry) :
    (block category baseUrl entry).toList =
      ['\n'].intercalate (blockLines category baseUrl entry) := by
  -- The lines in groups, one for each part.
  obtain ⟨groups, hne, hparts, hlines⟩ : ∃ groups : List (List (List Char)),
      (∀ group ∈ groups, group ≠ []) ∧
        (parts category baseUrl entry).map String.toList = groups.map ['\n'].intercalate ∧
        blockLines category baseUrl entry = groups.flatten := by
    -- By the forms of an entry, which differ in the groups and not in how they are joined.
    cases entry with
    | shorthand name returnType text =>
      refine ⟨[commentLines text, [(returns returnType).toList],
        [(declaration category name []).toList]], ?_, ?_, ?_⟩
      · simp [commentLines_ne_nil]
      · simp [parts, comment_toList]
      · simp [blockLines, commentOf, annotationLines, closingLines]
    | full s params =>
      refine ⟨commentLines s.comment :: (params.map fun p => [(param p).toList]) ++
        [[(returns s.returnType).toList], linkLines baseUrl s.link,
          [(declaration category s.name (params.map Param.name)).toList]], ?_, ?_, ?_⟩
      · simp [commentLines_ne_nil, linkLines_ne_nil, or_imp, forall_and]
      · simp [parts, comment_toList, link_toList]
      -- Each parameter is a group of one line, so these groups are the lines themselves.
      · have hparams : (params.map fun p => [(param p).toList]).flatten =
            params.map fun p => (param p).toList := by
          rw [← List.flatMap_def, ← List.map_eq_flatMap]
        simp [blockLines, commentOf, annotationLines, closingLines, hparams]
    | degraded s raw =>
      refine ⟨[commentLines s.comment, commentLines ("TODO: " ++ raw),
        [(returns s.returnType).toList], linkLines baseUrl s.link,
          [(declaration category s.name []).toList]], ?_, ?_, ?_⟩
      · simp [commentLines_ne_nil, linkLines_ne_nil]
      · simp [parts, todo, comment_toList, link_toList]
      · simp [blockLines, commentOf, annotationLines, closingLines]
  rw [block_toList_parts, hparts, hlines, Text.intercalate_flatten hne]

/-! ### Where lines start -/

theorem dashes_returns (type : String) : "---".toList <+: (returns type).toList := by
  have hstart : "---".toList <+: "---@return ".toList := by decide
  rw [returns, String.toList_append]
  exact hstart.trans (List.prefix_append _ _)

theorem dashes_param (p : Param) : "---".toList <+: (param p).toList := by
  have hstart : "---".toList <+: "---@param ".toList := by decide
  simp only [param, String.toList_append, List.append_assoc]
  exact hstart.trans (List.prefix_append _ _)

theorem dashes_linkLines (baseUrl path : String) :
    ∀ line ∈ linkLines baseUrl path, "---".toList <+: line := by
  have hstart : "---".toList <+: "---[Open Documentation](".toList := by decide +kernel
  simp only [linkLines, List.forall_mem_cons]
  exact ⟨List.prefix_rfl, by decide, hstart.trans (List.prefix_append _ _), List.prefix_rfl,
    List.forall_mem_nil _⟩

theorem exists_declaration_eq_cons (category name : String) (params : List String) :
    ∃ more, (declaration category name params).toList = 'f' :: more := by
  have hstart : "function ".toList = 'f' :: "unction ".toList := by decide
  unfold declaration
  simp only [String.toList_append, List.append_assoc, hstart, List.cons_append]
  exact ⟨_, rfl⟩

/-! ### Cutting a block into lines -/

/-- **An entry whose fields stay on their lines.** No line feed is in a name, a type or a
link. Its comment and the text of unreadable parameters may have any number of lines. -/
def OneLined : Entry → Prop
  | .shorthand name returnType _ => '\n' ∉ name.toList ∧ '\n' ∉ returnType.toList
  | .full s params =>
    ('\n' ∉ s.name.toList ∧ '\n' ∉ s.returnType.toList ∧ '\n' ∉ s.link.toList) ∧
      ∀ p ∈ params, '\n' ∉ p.name.toList ∧ '\n' ∉ p.type.toList
  | .degraded s _ =>
    '\n' ∉ s.name.toList ∧ '\n' ∉ s.returnType.toList ∧ '\n' ∉ s.link.toList

instance : DecidablePred OneLined
  | .shorthand _ _ _ => inferInstanceAs (Decidable (_ ∧ _))
  | .full _ _ => inferInstanceAs (Decidable ((_ ∧ _ ∧ _) ∧ ∀ _ ∈ _, _ ∧ _))
  | .degraded _ _ => inferInstanceAs (Decidable (_ ∧ _ ∧ _))

/-- The fields of an entry that end up inside a line. -/
def inlineFields : Entry → List String
  | .shorthand name returnType _ => [name, returnType]
  | .full s params => [s.name, s.returnType, s.link] ++ params.flatMap fun p => [p.name, p.type]
  | .degraded s _ => [s.name, s.returnType, s.link]

theorem forall_mem_inlineFields_full {P : String → Prop} {s : Signature} {params : List Param} :
    (∀ field ∈ inlineFields (.full s params), P field) ↔
      (P s.name ∧ P s.returnType ∧ P s.link) ∧ ∀ p ∈ params, P p.name ∧ P p.type := by
  simp only [inlineFields, List.forall_mem_append, List.forall_mem_flatMap, List.forall_mem_cons,
    List.not_mem_nil, false_implies, implies_true, and_true]

theorem oneLined_iff {entry : Entry} :
    OneLined entry ↔ ∀ field ∈ inlineFields entry, '\n' ∉ field.toList := by
  cases entry with
  | shorthand name returnType text => simp [OneLined, inlineFields]
  | full s params => rw [OneLined, forall_mem_inlineFields_full]
  | degraded s raw => simp [OneLined, inlineFields]

section ControlCharacters

/- Line feeds and carriage returns are control characters: their codes are below that of the space,
and no text of the layout has one. So a line has none if the fields in it have none. -/
variable {category baseUrl : String} {c : Char} (hc : c.toNat < 32)
include hc

theorem not_mem_of_control {text : List Char} (h : text.all fun d => 32 ≤ d.toNat) : c ∉ text := by
  -- All that is known of the character is that it comes before the space.
  intro hmem
  have hspace : 32 ≤ c.toNat := of_decide_eq_true (List.all_eq_true.mp h c hmem)
  omega

theorem not_mem_returns {type : String} (h : c ∉ type.toList) : c ∉ (returns type).toList := by
  have hstart : c ∉ "---@return ".toList := not_mem_of_control hc (by decide)
  rw [returns, String.toList_append, List.mem_append, not_or]
  exact ⟨hstart, h⟩

theorem not_mem_param {p : Param} (hname : c ∉ p.name.toList) (htype : c ∉ p.type.toList) :
    c ∉ (param p).toList := by
  have hstart : c ∉ "---@param ".toList := not_mem_of_control hc (by decide)
  have hspace : c ∉ " ".toList := not_mem_of_control hc (by decide)
  simp only [param, String.toList_append, List.mem_append, not_or]
  exact ⟨⟨⟨hstart, hname⟩, hspace⟩, htype⟩

theorem not_mem_declaration (hcategory : c ∉ category.toList) {name : String}
    (hname : c ∉ name.toList) {params : List String} (hparams : ∀ p ∈ params, c ∉ p.toList) :
    c ∉ (declaration category name params).toList := by
  have hstart : c ∉ "function ".toList := not_mem_of_control hc (by decide)
  have hdot : c ∉ ".".toList := not_mem_of_control hc (by decide)
  have hopen : c ∉ "(".toList := not_mem_of_control hc (by decide)
  have hend : c ∉ ") end".toList := not_mem_of_control hc (by decide)
  -- The names are joined by commas and spaces, which are no control characters either.
  have hnames : c ∉ (", ".intercalate params).toList := by
    rw [String.toList_intercalate]
    exact Text.not_mem_intercalate (not_mem_of_control hc (by decide))
      (List.forall_mem_map.mpr hparams)
  simp only [declaration, String.toList_append, List.mem_append, not_or]
  exact ⟨⟨⟨⟨⟨⟨hstart, hcategory⟩, hdot⟩, hname⟩, hopen⟩, hnames⟩, hend⟩

theorem not_mem_linkLines (hbase : c ∉ baseUrl.toList) {path : String} (hpath : c ∉ path.toList) :
    ∀ line ∈ linkLines baseUrl path, c ∉ line := by
  have hrule : c ∉ "---".toList := not_mem_of_control hc (by decide)
  have hstars : c ∉ "---***".toList := not_mem_of_control hc (by decide)
  have hstart : c ∉ "---[Open Documentation](".toList :=
    not_mem_of_control hc (by decide +kernel)
  have hend : c ∉ [')'] := not_mem_of_control hc (by decide)
  simp only [linkLines, List.forall_mem_cons, List.mem_append, not_or]
  exact ⟨hrule, hstars, ⟨hstart, hbase, hpath, hend⟩, hrule, List.forall_mem_nil _⟩

/-- A line for a parameter has no control character, if the fields have none. -/
theorem not_mem_params {entry : Entry} (h : ∀ field ∈ inlineFields entry, c ∉ field.toList) :
    ∀ p ∈ entry.params, c ∉ (param p).toList := by
  intro p hp
  -- Only a full entry has known parameters.
  cases entry with
  | full s params =>
    obtain ⟨hname, htype⟩ := (forall_mem_inlineFields_full.mp h).2 p hp
    exact not_mem_param hc hname htype
  | shorthand name returnType text => cases hp
  | degraded s raw => cases hp

/-- No line from the returned value on has a control character, if the fields have none. -/
theorem not_mem_closingLines (hcategory : c ∉ category.toList) (hbase : c ∉ baseUrl.toList)
    {entry : Entry} (h : ∀ field ∈ inlineFields entry, c ∉ field.toList) :
    ∀ line ∈ closingLines category baseUrl entry, c ∉ line := by
  cases entry with
  | shorthand name returnType text =>
    simp only [inlineFields, List.forall_mem_cons] at h
    simp only [closingLines, List.forall_mem_cons]
    exact ⟨not_mem_returns hc h.2.1, not_mem_declaration hc hcategory h.1 (List.forall_mem_nil _),
      List.forall_mem_nil _⟩
  | full s params =>
    obtain ⟨⟨hname, hreturns, hlink⟩, hparams⟩ := forall_mem_inlineFields_full.mp h
    simp only [closingLines, List.forall_mem_cons, List.forall_mem_append]
    exact ⟨not_mem_returns hc hreturns, not_mem_linkLines hc hbase hlink,
      not_mem_declaration hc hcategory hname
        (List.forall_mem_map.mpr fun p hp => (hparams p hp).1), List.forall_mem_nil _⟩
  | degraded s raw =>
    simp only [inlineFields, List.forall_mem_cons] at h
    simp only [closingLines, List.forall_mem_cons, List.forall_mem_append]
    exact ⟨not_mem_returns hc h.2.1, not_mem_linkLines hc hbase h.2.2.1,
      not_mem_declaration hc hcategory h.1 (List.forall_mem_nil _), List.forall_mem_nil _⟩

end ControlCharacters

variable {category baseUrl : String}

/-- The lines of a block have no line feeds, if the fields stay on their lines. -/
theorem not_mem_blockLines_lineFeed (hcategory : '\n' ∉ category.toList)
    (hbase : '\n' ∉ baseUrl.toList) {entry : Entry} (h : OneLined entry) :
    ∀ line ∈ blockLines category baseUrl entry, '\n' ∉ line := by
  -- Comments never have line feeds inside their lines, whatever their texts are.
  have hcomment : ∀ text, ∀ line ∈ commentLines text, '\n' ∉ line :=
    fun text line hline => (commentLines_spec text line hline).2
  rw [oneLined_iff] at h
  simp only [blockLines, List.forall_mem_append]
  refine ⟨hcomment _, ?_, not_mem_closingLines (by decide) hcategory hbase h⟩
  -- Between the comment and the returned value, the forms of an entry differ.
  cases entry with
  | shorthand name returnType text => exact List.forall_mem_nil _
  | full s params => exact List.forall_mem_map.mpr (not_mem_params (by decide) h)
  | degraded s raw => exact hcomment _

/-- **The lines of a block are what it is cut into**, if the fields stay on their lines. -/
theorem splitLines_block (hcategory : '\n' ∉ category.toList) (hbase : '\n' ∉ baseUrl.toList)
    {entry : Entry} (h : OneLined entry) :
    Text.splitLines (block category baseUrl entry).toList = blockLines category baseUrl entry := by
  have hlines := not_mem_blockLines_lineFeed hcategory hbase h
  -- There is a first line, since every comment has one.
  have hne : blockLines category baseUrl entry ≠ [] :=
    List.append_ne_nil_of_left_ne_nil (commentLines_ne_nil _) _
  rw [block_toList, Text.splitLines_intercalate hlines hne]

end Stub
end ApiStubs
