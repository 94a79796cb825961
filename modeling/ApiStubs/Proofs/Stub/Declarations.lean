import ApiStubs.Proofs.Stub.Blocks
import Mathlib.Data.List.Count

/-!
# Code and comments

A Lua program that reads a stub file as code sees one declaration for each entry and nothing
else. `Stub.IsCode` tells which lines count: those that are neither empty nor a comment.

* `Stub.lines_file` — the lines of code of a stub file are the declarations of its entries, in
  their order, and there is one empty line less than there are blocks.

Comments and the text of unreadable parameters are arbitrary here, also where one of their lines
reads like a declaration. Each of their lines is put behind dashes, and the lines of a block follow
each other directly (`Stub.blockLines_eq_comments`). So a block brings one line of code, and the
empty lines are those between the blocks (`Stub.lines_text`).
-/

namespace ApiStubs
namespace Stub

/-! ### Lines of groups -/

section Groups

variable {α : Type} {separator : List α} {groups : List (List α)}

/-- What a filter keeps of joined groups, if it keeps nothing of what is between them. -/
theorem filter_intercalate {p : α → Bool} (hseparator : separator.filter p = []) :
    -- By induction on the groups, with a separator in front of each but the first.
    (separator.intercalate groups).filter p = groups.flatMap (List.filter p) := by
  induction groups with
  | nil => rfl
  | cons first groups ih =>
    cases groups with
    | nil => simp
    | cons second groups =>
      rw [List.intercalate_cons_cons, List.filter_append, List.filter_append, hseparator,
        List.append_nil, ih]
      rfl

/-- One separator stands between each two groups, and the item is in none of these. -/
theorem count_intercalate [BEq α] [LawfulBEq α] {a : α} (hgroups : ∀ group ∈ groups, a ∉ group)
    (hne : groups ≠ []) : ([a].intercalate groups).count a + 1 = groups.length := by
  induction groups with
  | nil => exact absurd rfl hne
  | cons first groups ih =>
    rw [List.forall_mem_cons] at hgroups
    -- The first group has none of the items, so that only its separator counts.
    have hfirst : first.count a = 0 := List.count_eq_zero.mpr hgroups.1
    cases groups with
    | nil => simp [hfirst]
    | cons second groups =>
      have hrest := ih hgroups.2 (List.cons_ne_nil _ _)
      rw [List.intercalate_cons_cons, List.count_append, List.count_append, hfirst,
        List.count_singleton_self, List.length_cons]
      omega

/-- Something is joined if there is something. -/
theorem intercalate_ne_nil (hgroups : ∀ group ∈ groups, group ≠ []) (hne : groups ≠ []) :
    separator.intercalate groups ≠ [] := by
  obtain ⟨first, others, rfl⟩ := List.exists_cons_of_ne_nil hne
  rw [List.forall_mem_cons] at hgroups
  cases others with
  | nil =>
    rw [List.intercalate_singleton]
    exact hgroups.1
  | cons second others =>
    rw [List.intercalate_cons_cons, List.append_assoc]
    exact List.append_ne_nil_of_left_ne_nil hgroups.1 _

end Groups

/-- Texts of several lines with an empty line between each two are all lines in a row. -/
theorem intercalate_paragraphs {groups : List (List (List Char))}
    (h : ∀ group ∈ groups, group ≠ []) :
    ['\n', '\n'].intercalate (groups.map ['\n'].intercalate) =
      ['\n'].intercalate ([[]].intercalate groups) := by
  induction groups with
  | nil => rfl
  | cons first groups ih =>
    rw [List.forall_mem_cons] at h
    cases groups with
    | nil => simp
    | cons second groups =>
      -- Two line feeds in a row are the end of a group, and then an empty line.
      have hrest : [[]].intercalate (second :: groups) ≠ [] :=
        intercalate_ne_nil h.2 (List.cons_ne_nil _ _)
      calc ['\n', '\n'].intercalate ((first :: second :: groups).map ['\n'].intercalate)
          = ['\n'].intercalate first ++ ['\n', '\n'] ++
              ['\n'].intercalate ([[]].intercalate (second :: groups)) := by
            rw [List.map_cons, List.map_cons, List.intercalate_cons_cons, ← List.map_cons, ih h.2]
        _ = ['\n'].intercalate (first ++ ([] :: [[]].intercalate (second :: groups))) := by
            rw [Text.intercalate_append h.1 (List.cons_ne_nil _ _),
              List.intercalate_cons_of_ne_nil hrest]
            simp
        _ = ['\n'].intercalate ([[]].intercalate (first :: second :: groups)) := by
            rw [List.intercalate_cons_cons, List.append_assoc]
            rfl

/-! ### Lines of blocks -/

/-- **A line of code**: one that is not empty and no comment. -/
def IsCode (line : List Char) : Prop := line ≠ [] ∧ ¬ "---".toList <+: line

instance : DecidablePred IsCode := fun _ => inferInstanceAs (Decidable (_ ∧ _))

theorem not_isCode_of_dashes {line : List Char} (h : "---".toList <+: line) : ¬ IsCode line :=
  fun hcode => hcode.2 h

/-- Among comments is no line of code. -/
theorem filter_comments {comments : List (List Char)}
    (h : ∀ line ∈ comments, "---".toList <+: line) : comments.filter IsCode = [] := by
  rw [List.filter_eq_nil_iff]
  intro line hline
  simpa using not_isCode_of_dashes (h line hline)

theorem isCode_declaration (category name : String) (params : List String) :
    IsCode (declaration category name params).toList := by
  have hdashes : "---".toList = '-' :: "--".toList := by decide
  obtain ⟨more, heq⟩ := exists_declaration_eq_cons category name params
  rw [heq]
  refine ⟨List.cons_ne_nil _ _, ?_⟩
  rw [hdashes, List.cons_prefix_cons]
  rintro ⟨hdash, -⟩
  exact absurd hdash (by decide)

/-- The declaration of an entry. -/
def declarationOf (category : String) (entry : Entry) : String :=
  declaration category entry.name (entry.params.map Param.name)

/-- **A block is comments and a declaration**, whatever the texts of the entry are. -/
theorem blockLines_eq_comments (category baseUrl : String) (entry : Entry) :
    ∃ comments, blockLines category baseUrl entry =
        comments ++ [(declarationOf category entry).toList] ∧
      ∀ line ∈ comments, "---".toList <+: line := by
  -- By the forms of an entry; what is above the declaration is made of comments, or of other lines
  -- with dashes.
  have hcomment : ∀ text, ∀ line ∈ commentLines text, "---".toList <+: line := by
    intro text line hline
    exact (commentLines_spec text line hline).1
  cases entry with
  | shorthand name returnType text =>
    refine ⟨commentLines text ++ [(returns returnType).toList], ?_, ?_⟩
    · rw [List.append_assoc]
      rfl
    · rw [List.forall_mem_append, List.forall_mem_singleton]
      exact ⟨hcomment _, dashes_returns _⟩
  | full s params =>
    refine ⟨commentLines s.comment ++ ((params.map fun p => (param p).toList) ++
      (returns s.returnType).toList :: linkLines baseUrl s.link), ?_, ?_⟩
    · simp only [List.append_assoc, List.cons_append]
      rfl
    · simp only [List.forall_mem_append, List.forall_mem_cons, List.forall_mem_map]
      exact ⟨hcomment _, fun p _ => dashes_param p, dashes_returns _, dashes_linkLines _ _⟩
  | degraded s raw =>
    refine ⟨commentLines s.comment ++ (commentLines ("TODO: " ++ raw) ++
      (returns s.returnType).toList :: linkLines baseUrl s.link), ?_, ?_⟩
    · simp only [List.append_assoc, List.cons_append]
      rfl
    · simp only [List.forall_mem_append, List.forall_mem_cons]
      exact ⟨hcomment _, hcomment _, dashes_returns _, dashes_linkLines _ _⟩

/-- A block brings one line of code. -/
theorem filter_blockLines (category baseUrl : String) (entry : Entry) :
    (blockLines category baseUrl entry).filter IsCode =
      [(declarationOf category entry).toList] := by
  -- All but the last line are filtered away.
  obtain ⟨comments, hlines, hcomments⟩ := blockLines_eq_comments category baseUrl entry
  have hdeclaration : IsCode (declarationOf category entry).toList := isCode_declaration _ _ _
  rw [hlines, List.filter_append, filter_comments hcomments, List.nil_append]
  simp [hdeclaration]

/-- A block brings no empty line. -/
theorem not_mem_blockLines (category baseUrl : String) (entry : Entry) :
    [] ∉ blockLines category baseUrl entry := by
  obtain ⟨comments, hlines, hcomments⟩ := blockLines_eq_comments category baseUrl entry
  rw [hlines, List.mem_append, List.mem_singleton, not_or]
  refine ⟨fun hnil => ?_, fun hnil => ?_⟩
  · -- An empty line does not start with dashes, so it is no comment.
    exact absurd (hcomments [] hnil) (by decide)
  · -- A declaration has characters.
    exact (isCode_declaration category entry.name (entry.params.map Param.name)).1 hnil.symm

/-! ### Lines of files -/

/-- The lines of the header. -/
def headerLines (category : String) : List (List Char) :=
  ["---@meta ".toList ++ category.toList, "---@class ".toList ++ category.toList]

theorem header_toList (category : String) :
    (header category).toList = ['\n'].intercalate (headerLines category) := by
  have hclass : "\n---@class ".toList = '\n' :: "---@class ".toList := by decide
  simp [header, headerLines, hclass]

/-- The lines of each block of a file, the header included. -/
def groups (settings : Settings) (entries : List Entry) : List (List (List Char)) :=
  (if settings.header then [headerLines settings.category] else []) ++
    entries.map (blockLines settings.category settings.baseUrl)

variable {settings : Settings} {entries : List Entry}

/-- What holds of the lines of the header and of those of every block holds of all groups. -/
theorem forall_mem_groups {P : List (List Char) → Prop}
    (hheader : P (headerLines settings.category))
    (hblocks : ∀ entry ∈ entries, P (blockLines settings.category settings.baseUrl entry)) :
    ∀ group ∈ groups settings entries, P group := by
  rw [groups, List.forall_mem_append, List.forall_mem_map]
  refine ⟨?_, hblocks⟩
  -- The header is a group of its own, or there is none.
  cases settings.header with
  | true => exact List.forall_mem_singleton.mpr hheader
  | false => exact List.forall_mem_nil _

theorem groups_length (settings : Settings) (entries : List Entry) :
    (groups settings entries).length = (if settings.header then 1 else 0) + entries.length := by
  rw [groups, List.length_append, List.length_map]
  cases settings.header <;> rfl

theorem blocks_toList (settings : Settings) (entries : List Entry) :
    (blocks settings entries).map String.toList =
      (groups settings entries).map ['\n'].intercalate := by
  have hblocks : (entries.map (block settings.category settings.baseUrl)).map String.toList =
      (entries.map (blockLines settings.category settings.baseUrl)).map ['\n'].intercalate := by
    rw [List.map_map, List.map_map]
    exact List.map_congr_left fun entry _ => block_toList _ _ entry
  rw [blocks, groups, List.map_append, List.map_append, hblocks]
  cases settings.header with
  | true => simp [header_toList]
  | false => simp

theorem not_mem_headerLines {category : String} (h : '\n' ∉ category.toList) :
    ∀ line ∈ headerLines category, '\n' ∉ line := by
  have hmeta : '\n' ∉ "---@meta ".toList := by decide
  have hclass : '\n' ∉ "---@class ".toList := by decide
  simp only [headerLines, List.forall_mem_cons, List.mem_append, not_or]
  exact ⟨⟨hmeta, h⟩, ⟨hclass, h⟩, List.forall_mem_nil _⟩

theorem dashes_headerLines (category : String) :
    ∀ line ∈ headerLines category, "---".toList <+: line := by
  have hmeta : "---".toList <+: "---@meta ".toList := by decide
  have hclass : "---".toList <+: "---@class ".toList := by decide
  simp only [headerLines, List.forall_mem_cons]
  exact ⟨hmeta.trans (List.prefix_append _ _), hclass.trans (List.prefix_append _ _),
    List.forall_mem_nil _⟩

/-- The lines of code of the groups. -/
theorem filter_groups (settings : Settings) (entries : List Entry) :
    (groups settings entries).flatMap (List.filter IsCode) =
      entries.map fun entry => (declarationOf settings.category entry).toList := by
  have hheader : (headerLines settings.category).filter IsCode = [] :=
    filter_comments (dashes_headerLines settings.category)
  have hblocks : (entries.map (blockLines settings.category settings.baseUrl)).flatMap
      (List.filter IsCode) = entries.map fun entry =>
        (declarationOf settings.category entry).toList := by
    rw [List.flatMap_map, List.map_eq_flatMap]
    exact List.flatMap_congr fun entry _ => filter_blockLines _ _ entry
  rw [groups, List.flatMap_append, hblocks]
  cases settings.header with
  | true => simp [hheader]
  | false => simp

/-- **The lines of a file** that has a block are those of its blocks, with an empty line between
each two. -/
theorem lines_text (hcategory : '\n' ∉ settings.category.toList)
    (hbase : '\n' ∉ settings.baseUrl.toList) (hentries : ∀ entry ∈ entries, OneLined entry)
    (hne : groups settings entries ≠ []) :
    Text.splitLines (text settings entries).toList =
      [[]].intercalate (groups settings entries) := by
  -- From lines to the text: each group has lines, no line has a line feed, and so the lines come
  -- back.
  have hgroups : ∀ group ∈ groups settings entries, group ≠ [] := by
    refine forall_mem_groups (List.cons_ne_nil _ _) fun entry _ => ?_
    exact List.append_ne_nil_of_left_ne_nil (commentLines_ne_nil _) _
  have hlines : ∀ group ∈ groups settings entries, ∀ line ∈ group, '\n' ∉ line := by
    refine forall_mem_groups (not_mem_headerLines hcategory) fun entry hentry => ?_
    rw [← splitLines_block hcategory hbase (hentries entry hentry)]
    exact Text.not_mem_of_mem_splitLines _
  have hempty : ∀ line ∈ ([[]] : List (List Char)), '\n' ∉ line :=
    List.forall_mem_singleton.mpr List.not_mem_nil
  have hall : ∀ line ∈ [[]].intercalate (groups settings entries), '\n' ∉ line :=
    Text.forall_mem_intercalate (P := fun line : List Char => '\n' ∉ line) hempty hlines
  have htext : (text settings entries).toList =
      ['\n'].intercalate ([[]].intercalate (groups settings entries)) := by
    rw [text_toList, blocks_toList, intercalate_paragraphs hgroups]
  have hsome : [[]].intercalate (groups settings entries) ≠ [] := intercalate_ne_nil hgroups hne
  rw [htext, Text.splitLines_intercalate hall hsome]

/-- What a predicate of characters keeps of the lines of a string. -/
theorem filter_lines (p : List Char → Prop) [DecidablePred p] (s : String) :
    (Text.lines s).filter (fun line => p line.toList) =
      ((Text.splitLines s.toList).filter p).map String.ofList := by
  rw [Text.lines, List.filter_map]
  congr 2
  funext line
  simp

/-- **One line of code for each entry, and no other.** Whatever the comments and the texts of
unreadable parameters are, the lines of a file that are neither empty nor start with dashes are
the declarations of its entries. If it has a block, it has one empty line less than blocks. -/
theorem lines_file {d : Description} {settings : Settings} {entries : List Entry}
    (hheld : d.category? settings.category = some entries)
    (hcategory : '\n' ∉ settings.category.toList) (hbase : '\n' ∉ settings.baseUrl.toList)
    (hentries : ∀ entry ∈ entries, OneLined entry) :
    ∃ text, file settings d = .ok text ∧
      (Text.lines text).filter
          (fun line => line.toList ≠ [] ∧ ¬ "---".toList <+: line.toList) =
        entries.map (fun entry =>
          "function " ++ settings.category ++ "." ++ entry.name ++ "(" ++
            ", ".intercalate (entry.params.map Param.name) ++ ") end") ∧
      (settings.header = true ∨ entries ≠ [] →
        (Text.lines text).count "" + 1 = (if settings.header then 1 else 0) + entries.length) := by
  have hlines := lines_text hcategory hbase hentries
  refine ⟨text settings entries, by rw [file, hheld], ?_, fun hparts => ?_⟩
  · -- Of the lines of code, group by group.
    calc (Text.lines (text settings entries)).filter (fun line => IsCode line.toList)
        = ((Text.splitLines (text settings entries).toList).filter IsCode).map String.ofList :=
          filter_lines IsCode _
      _ = ((groups settings entries).flatMap (List.filter IsCode)).map String.ofList := by
          by_cases hne : groups settings entries = []
          · -- A file without blocks is one empty line.
            rw [text_toList, blocks_toList, hne]
            rfl
          · rw [hlines hne, filter_intercalate (by decide)]
      _ = entries.map (declarationOf settings.category) := by
          rw [filter_groups, List.map_map]
          simp
  · -- Of the empty lines, of which none is inside a group.
    have hne : groups settings entries ≠ [] := by
      rw [groups]
      rcases hparts with hheader | hsome
      · simp [hheader]
      · simp [hsome]
    have hinside : ∀ group ∈ groups settings entries, [] ∉ group := by
      refine forall_mem_groups (fun hnil => ?_) fun entry _ => not_mem_blockLines _ _ entry
      exact absurd (dashes_headerLines _ [] hnil) (by decide)
    have hcount : (Text.lines (text settings entries)).count "" =
        ([[]].intercalate (groups settings entries)).count [] := by
      rw [← hlines hne, Text.lines]
      exact List.count_map_of_injective _ _ (fun _ _ => String.ofList_injective) []
    rw [hcount, count_intercalate hinside hne, groups_length]

/-- A comment and unreadable parameters that read like declarations stay comments. -/
theorem lines_file_lookalikes :
    ∃ text, file ⟨"Object", "", true⟩ ⟨[("Object",
        [.shorthand "f" "nil" "\n\nfunction Object.g() end\n\nend\n",
          .full ⟨"g", "nil", "", "g"⟩ [⟨"a", "int"⟩, ⟨"b", "int"⟩],
          .degraded ⟨"h", "nil", "", "h"⟩ "x\nfunction Object.g() end\n"])]⟩ = .ok text ∧
      (Text.lines text).filter (fun line => line.toList ≠ [] ∧ ¬ "---".toList <+: line.toList) =
        ["function Object.f() end", "function Object.g(a, b) end", "function Object.h() end"] ∧
      (Text.lines text).count "" = 3 := by
  obtain ⟨text, hfile, hcode, hcount⟩ := @lines_file ⟨[("Object",
      [.shorthand "f" "nil" "\n\nfunction Object.g() end\n\nend\n",
        .full ⟨"g", "nil", "", "g"⟩ [⟨"a", "int"⟩, ⟨"b", "int"⟩],
        .degraded ⟨"h", "nil", "", "h"⟩ "x\nfunction Object.g() end\n"])]⟩
    ⟨"Object", "", true⟩ _ rfl (by decide) (by decide) (by decide)
  refine ⟨text, hfile, hcode.trans ?_, ?_⟩
  -- The declarations that are left, in full.
  · decide +kernel
  · -- Four blocks, with an empty line between each two.
    have := hcount (.inl rfl)
    simpa using this

end Stub
end ApiStubs
