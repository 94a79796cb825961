import ApiStubs.Proofs.Stub.Blocks

/-!
# A stub file determines its entries

Nothing is lost when entries are laid out: two lists of entries that are laid out alike are
the same list. `Stub.WellFormed` says for which entries this is so, and `Stub.file_injective`
that it is.

A file is cut into its blocks at the empty lines, and a block into its lines. The last lines
of a block show whether there is a link, and what the returned value and the name are.
Of the lines before them, the first one that starts as that of a parameter or of unreadable
parameters does (`Stub.IsMarked`) ends the comment.
-/

namespace ApiStubs
namespace Stub

open Text (Tidy)

/-! ### Where the comment ends -/

/-- Whether a line starts as that of a parameter or of unreadable parameters does. -/
def IsMarked (line : List Char) : Prop :=
  "---@param ".toList <+: line ∨ "---TODO: ".toList <+: line

/-- **A well-formed entry.** Its fields stay on their lines, and its comment cannot be taken for
what follows it. -/
structure WellFormed (entry : Entry) : Prop where
  /-- Names, types and links have no line feeds. -/
  oneLined : OneLined entry
  /-- Names of parameters have no spaces. -/
  names : ∀ p ∈ entry.params, ' ' ∉ p.name.toList
  /-- The comment does not end in a line feed. -/
  comment_end : (commentOf entry).toList.getLast? ≠ some '\n'
  /-- No line of the comment starts as a parameter or as unreadable parameters do. -/
  comment_lines : ∀ line ∈ Text.lines (commentOf entry),
    ¬ "@param ".toList <+: line.toList ∧ ¬ "TODO: ".toList <+: line.toList
  /-- The text of unreadable parameters does not end in a line feed. -/
  raw_end : ∀ s raw, entry = .degraded s raw → raw.toList.getLast? ≠ some '\n'

theorem commentLines_eq {text : String} (h : text.toList.getLast? ≠ some '\n') :
    commentLines text = (Text.splitLines text.toList).map ("---".toList ++ ·) := by
  rw [commentLines, Text.dropTrailing_eq_self h]

/-- Texts that do not end in line feeds are known by their comments. -/
theorem commentLines_injective {a b : String} (ha : a.toList.getLast? ≠ some '\n')
    (hb : b.toList.getLast? ≠ some '\n') (h : commentLines a = commentLines b) : a = b := by
  rw [commentLines_eq ha, commentLines_eq hb] at h
  have hlines : Text.splitLines a.toList = Text.splitLines b.toList :=
    List.map_injective_iff.mpr (fun _ _ => List.append_cancel_left) h
  exact String.toList_inj.mp (Text.splitLines_injective hlines)

/-- No line of a well-formed comment is marked. -/
theorem WellFormed.not_isMarked {entry : Entry} (h : WellFormed entry) :
    ∀ line ∈ commentLines (commentOf entry), ¬ IsMarked line := by
  -- A mark is the dashes with a keyword behind them.
  have hparam : "---@param ".toList = "---".toList ++ "@param ".toList := by decide
  have htodo : "---TODO: ".toList = "---".toList ++ "TODO: ".toList := by decide
  rw [commentLines_eq h.comment_end, List.forall_mem_map]
  intro rest hrest
  have hline := h.comment_lines (String.ofList rest) (List.mem_map_of_mem hrest)
  rw [String.toList_ofList (l := rest)] at hline
  rw [IsMarked, hparam, htodo, List.prefix_append_right_inj, List.prefix_append_right_inj]
  exact not_or.mpr hline

/-- The lines that show unreadable parameters start with a mark. -/
theorem todoLines_eq (raw : String) :
    ∃ first others, commentLines ("TODO: " ++ raw) = first :: others ∧
      "---TODO: ".toList <+: first := by
  have hmark : "---TODO: ".toList = "---".toList ++ "TODO: ".toList := by decide
  obtain ⟨first, others, hlines⟩ :=
    -- The mark is at the start of the first line, and there is a first line.
    List.exists_cons_of_ne_nil (Text.splitLines_ne_nil (Text.dropTrailing '\n' raw.toList))
  refine ⟨_, _, commentLines_todo hlines, ?_⟩
  rw [hmark, ← List.append_assoc]
  exact List.prefix_append _ _

/-- Texts that do not end in line feeds are known by the lines that show them. -/
theorem todo_injective {raw raw' : String} (h : raw.toList.getLast? ≠ some '\n')
    (h' : raw'.toList.getLast? ≠ some '\n')
    (hlines : commentLines ("TODO: " ++ raw) = commentLines ("TODO: " ++ raw')) : raw = raw' := by
  -- Behind its keyword, a text ends as it does alone, and the keyword ends in a space.
  have hend : ∀ {text : String}, text.toList.getLast? ≠ some '\n' →
      ("TODO: " ++ text).toList.getLast? ≠ some '\n' := by
    intro text htext
    have hmark : "TODO: ".toList.getLast? = some ' ' := by decide
    rw [String.toList_append, List.getLast?_append, hmark]
    cases hlast : text.toList.getLast? with
    | none => simp
    | some c => simpa [hlast] using htext
  have htexts := commentLines_injective (hend h) (hend h') hlines
  have hchars := congrArg String.toList htexts
  rw [String.toList_append, String.toList_append] at hchars
  exact String.toList_inj.mp (List.append_cancel_left hchars)

theorem isMarked_param (p : Param) : "---@param ".toList <+: (param p).toList := by
  simp only [param, String.toList_append, List.append_assoc]
  exact List.prefix_append _ _

/-- What follows the comment starts with a mark, if there is anything. -/
theorem isMarked_annotationLines (entry : Entry) :
    ∀ line ∈ (annotationLines entry).head?, IsMarked line := by
  intro line hline
  cases entry with
  | shorthand name returnType text => cases hline
  | full s params =>
    cases params with
    | nil => cases hline
    | cons p params =>
      obtain rfl : (param p).toList = line := Option.some.inj hline
      exact .inl (isMarked_param p)
  | degraded s raw =>
    obtain ⟨first, others, hlines, hfirst⟩ := todoLines_eq raw
    rw [annotationLines, hlines] at hline
    obtain rfl : first = line := Option.some.inj hline
    exact .inr hfirst

/-- A list is cut in one way only before the first of its items that has a property. -/
theorem append_inj_of_head {α : Type} {P : α → Prop} {xs xs' ys ys' : List α}
    (hxs : ∀ x ∈ xs, ¬ P x) (hxs' : ∀ x ∈ xs', ¬ P x) (hys : ∀ y ∈ ys.head?, P y)
    (hys' : ∀ y ∈ ys'.head?, P y) (h : xs ++ ys = xs' ++ ys') : xs = xs' ∧ ys = ys' := by
  -- By induction on what stands before, in step with what stands before in the other cut.
  induction xs generalizing xs' with
  | nil =>
    cases xs' with
    | nil => exact ⟨rfl, h⟩
    -- The item that starts the one rest cannot be in front of the other.
    | cons x xs' =>
      rw [List.nil_append] at h
      have hx : P x := hys x (by rw [h]; rfl)
      exact absurd hx (hxs' x List.mem_cons_self)
  | cons x xs ih =>
    cases xs' with
    | nil =>
      rw [List.nil_append] at h
      have hx : P x := hys' x (by rw [← h]; rfl)
      exact absurd hx (hxs x List.mem_cons_self)
    | cons x' xs' =>
      rw [List.cons_append, List.cons_append] at h
      obtain ⟨rfl, htail⟩ := List.cons.inj h
      rw [List.forall_mem_cons] at hxs hxs'
      obtain ⟨rfl, hrest⟩ := ih hxs.2 hxs'.2 htail
      exact ⟨rfl, hrest⟩

/-! ### Decoding lines -/

variable {category baseUrl : String}

/-- A line for a parameter shows both of its fields. -/
theorem param_injective {p q : Param} (hp : ' ' ∉ p.name.toList) (hq : ' ' ∉ q.name.toList)
    (h : (param p).toList = (param q).toList) : p = q := by
  have hline : ∀ r : Param,
      (param r).toList = "---@param ".toList ++ (r.name.toList ++ ' ' :: r.type.toList) := by
    intro r
    simp only [param, String.toList_append, List.append_assoc]
    rfl
  rw [hline, hline] at h
  -- The name ends at the first space.
  have hspace : ∀ {name : List Char}, ' ' ∉ name → ∀ c ∈ name, ¬ c = ' ' :=
    fun hname c hc heq => hname (heq ▸ hc)
  have hhead : ∀ type : List Char, ∀ c ∈ (' ' :: type).head?, c = ' ' :=
    fun type c hc => (Option.some.inj hc).symm
  obtain ⟨hname, htype⟩ := append_inj_of_head (hspace hp) (hspace hq) (hhead _) (hhead _)
    (List.append_cancel_left h)
  obtain ⟨name, type⟩ := p
  obtain ⟨name', type'⟩ := q
  -- What is behind the space in both is the type.
  rw [Param.mk.injEq]
  exact ⟨String.toList_inj.mp hname, String.toList_inj.mp (List.cons.inj htype).2⟩

theorem params_injective {ps qs : List Param} (hps : ∀ p ∈ ps, ' ' ∉ p.name.toList)
    (hqs : ∀ q ∈ qs, ' ' ∉ q.name.toList)
    (h : (ps.map fun p => (param p).toList) = qs.map fun q => (param q).toList) : ps = qs := by
  induction ps generalizing qs with
  | nil => exact (List.map_eq_nil_iff.mp h.symm).symm
  | cons p ps ih =>
    obtain ⟨q, qs, rfl, hq, hrest⟩ := List.map_eq_cons_iff.mp h.symm
    rw [List.forall_mem_cons] at hps hqs
    rw [param_injective hps.1 hqs.1 hq.symm, ih hps.2 hqs.2 hrest.symm]

theorem returns_injective {a b : String} (h : (returns a).toList = (returns b).toList) : a = b := by
  simp only [returns, String.toList_append] at h
  exact String.toList_inj.mp (List.append_cancel_left h)

/-- The line for the returned value is no ruling. -/
theorem returns_ne_rule (type : String) : (returns type).toList ≠ "---".toList := by
  -- The line is longer than a ruling.
  intro h
  have hlength := congrArg List.length h
  have hstart : "---@return ".toList.length = 11 := by decide
  have hrule : "---".toList.length = 3 := by decide
  rw [returns, String.toList_append, List.length_append, hstart, hrule] at hlength
  omega

/-- With the same parameters, a declaration shows the name. -/
theorem declaration_injective {name name' : String} {params : List String}
    (h : (declaration category name params).toList = (declaration category name' params).toList) :
    name = name' := by
  simp only [declaration, String.toList_append, List.append_assoc] at h
  -- What is in front of the name is the same, and with the same names so is what is behind it.
  have hname := List.append_cancel_left (List.append_cancel_left (List.append_cancel_left h))
  exact String.toList_inj.mp (List.append_cancel_right hname)

theorem linkLines_injective {a b : String} (h : linkLines baseUrl a = linkLines baseUrl b) :
    a = b := by
  simp only [linkLines, List.cons.injEq, true_and, and_true] at h
  have hpath := List.append_cancel_left (List.append_cancel_left h)
  exact String.toList_inj.mp (List.append_cancel_right hpath)

/-! ### Decoding blocks -/

/-- Whether an entry has no link. -/
def isShorthand : Entry → Bool
  | .shorthand _ _ _ => true
  | _ => false

/-- The line before the declaration: the returned value or, below a link, a ruling. -/
def beforeDeclaration : Entry → List Char
  | .shorthand _ returnType _ => (returns returnType).toList
  | _ => "---".toList

theorem blockLines_eq_append (category baseUrl : String) (entry : Entry) :
    ∃ before declared,
      blockLines category baseUrl entry = before ++ [beforeDeclaration entry, declared] := by
  -- The link is the last but one of the parts, and its last line is a ruling.
  have hlast : ∀ (xs ys : List (List Char)) (a c : List Char) (path : String),
      xs ++ (ys ++ a :: (linkLines baseUrl path ++ [c])) =
        (xs ++ ys ++ [a, "---".toList, "---***".toList,
          "---[Open Documentation](".toList ++ (baseUrl.toList ++ (path.toList ++ [')']))]) ++
            ["---".toList, c] := by
    intro xs ys a c path
    simp only [linkLines, List.append_assoc, List.cons_append, List.nil_append]
  cases entry with
  | shorthand name returnType text => exact ⟨_, _, rfl⟩
  | full s params => exact ⟨_, _, hlast _ _ _ _ _⟩
  | degraded s raw => exact ⟨_, _, hlast _ _ _ _ _⟩

/-- An entry without a link has other lines than one that has a link. -/
theorem isShorthand_eq_of_blockLines {entry other : Entry}
    (h : blockLines category baseUrl entry = blockLines category baseUrl other) :
    isShorthand entry = isShorthand other := by
  obtain ⟨before, declared, hentry⟩ := blockLines_eq_append category baseUrl entry
  obtain ⟨before', declared', hother⟩ := blockLines_eq_append category baseUrl other
  rw [hentry, hother] at h
  -- The line before the declaration is a ruling below a link, and never one otherwise.
  obtain ⟨-, hlast⟩ := List.append_inj' h (by simp)
  have hline : beforeDeclaration entry = beforeDeclaration other := (List.cons.inj hlast).1
  -- Between entries of the same kind, there is nothing to be shown; the others differ in this line.
  cases entry with
  | shorthand name returnType text =>
    cases other with
    | shorthand name' returnType' text' => rfl
    | full s params => exact absurd hline (returns_ne_rule returnType)
    | degraded s raw => exact absurd hline (returns_ne_rule returnType)
  | full s params =>
    cases other with
    | shorthand name' returnType' text' => exact absurd hline.symm (returns_ne_rule returnType')
    | full s params => rfl
    | degraded s raw => rfl
  | degraded s raw =>
    cases other with
    | shorthand name' returnType' text' => exact absurd hline.symm (returns_ne_rule returnType')
    | full s params => rfl
    | degraded s raw => rfl

/-- Lines of parameters are not those of unreadable parameters. -/
theorem params_ne_todo (params : List Param) (raw : String) :
    (params.map fun p => (param p).toList) ≠ commentLines ("TODO: " ++ raw) := by
  intro h
  obtain ⟨first, others, hlines, htodo⟩ := todoLines_eq raw
  rw [hlines] at h
  obtain ⟨p, params, rfl, hfirst, -⟩ := List.map_eq_cons_iff.mp h
  have hparam : "---@param ".toList <+: first := hfirst ▸ isMarked_param p
  -- Behind the dashes, the two differ in their first character.
  obtain ⟨rest, rfl⟩ := htodo
  have hmark : "---@param ".toList = '-' :: '-' :: '-' :: '@' :: "param ".toList := by decide
  have htodo : "---TODO: ".toList = '-' :: '-' :: '-' :: 'T' :: "ODO: ".toList := by decide
  rw [hmark, htodo] at hparam
  simp only [List.cons_append, List.cons_prefix_cons] at hparam
  exact absurd hparam.2.2.2.1 (by decide)

/-- The lines of an entry with a link. -/
def linkedLines (category baseUrl : String) (s : Signature) (between : List (List Char))
    (names : List String) : List (List Char) :=
  commentLines s.comment ++ (between ++ (returns s.returnType).toList ::
    (linkLines baseUrl s.link ++ [(declaration category s.name names).toList]))

/-- **The lines of an entry with a link** show what stands between the comment and the
returned value and, if the names of the parameters are known, all of its signature. -/
theorem linkedLines_injective {entry other : Entry} {s s' : Signature}
    {names names' : List String} (hentry : WellFormed entry) (hother : WellFormed other)
    (hs : commentOf entry = s.comment) (hs' : commentOf other = s'.comment)
    (h : linkedLines category baseUrl s (annotationLines entry) names =
      linkedLines category baseUrl s' (annotationLines other) names') :
    annotationLines entry = annotationLines other ∧ (names = names' → s = s') := by
  -- The closing lines are always six, so the others are those of the comment and below it.
  rw [linkedLines, linkedLines, ← hs, ← hs', ← List.append_assoc, ← List.append_assoc] at h
  obtain ⟨hfirst, hclosing⟩ := List.append_inj' h (by simp [linkLines_length])
  obtain ⟨hlines, hannotations⟩ := append_inj_of_head hentry.not_isMarked hother.not_isMarked
    (isMarked_annotationLines entry) (isMarked_annotationLines other) hfirst
  obtain ⟨hreturns, hclosing⟩ := List.cons.inj hclosing
  -- The link ends in front of the declaration, as it always has the same number of lines.
  obtain ⟨hlink, hdeclaration⟩ := List.append_inj hclosing (by simp [linkLines_length])
  refine ⟨hannotations, ?_⟩
  rintro rfl
  have hname := declaration_injective (List.cons.inj hdeclaration).1
  have hcomment := commentLines_injective hentry.comment_end hother.comment_end hlines
  rw [hs, hs'] at hcomment
  obtain ⟨name, returnType, comment, link⟩ := s
  obtain ⟨name', returnType', comment', link'⟩ := s'
  rw [Signature.mk.injEq]
  exact ⟨hname, returns_injective hreturns, hcomment, linkLines_injective hlink⟩

/-- **The lines of a block determine its entry.** -/
theorem blockLines_injective {entry other : Entry} (hentry : WellFormed entry)
    (hother : WellFormed other)
    (h : blockLines category baseUrl entry = blockLines category baseUrl other) :
    entry = other := by
  -- First of all, both entries have a link or neither has.
  have hshorthand := isShorthand_eq_of_blockLines h
  cases entry with
  | shorthand name returnType text =>
    cases other with
    | full s params => cases hshorthand
    | degraded s raw => cases hshorthand
    | shorthand name' returnType' text' =>
      simp only [blockLines, annotationLines, closingLines, commentOf, List.nil_append] at h
      obtain ⟨hlines, hclosing⟩ := List.append_inj' h (by simp)
      obtain ⟨hreturns, hdeclaration⟩ := List.cons.inj hclosing
      have htext : text = text' :=
        commentLines_injective hentry.comment_end hother.comment_end hlines
      rw [declaration_injective (List.cons.inj hdeclaration).1, returns_injective hreturns, htext]
  -- Two entries with links differ in what stands between the comment and the returned value.
  | full s params =>
    cases other with
    | shorthand name' returnType' text' => cases hshorthand
    | full s' params' =>
      obtain ⟨hparams, hsignature⟩ := linkedLines_injective hentry hother rfl rfl h
      have hequal : params = params' := params_injective hentry.names hother.names hparams
      rw [hequal, hsignature (by rw [hequal])]
    | degraded s' raw =>
      obtain ⟨hparams, -⟩ := linkedLines_injective hentry hother rfl rfl h
      exact absurd hparams (params_ne_todo params raw)
  | degraded s raw =>
    cases other with
    | shorthand name' returnType' text' => cases hshorthand
    | full s' params =>
      obtain ⟨hparams, -⟩ := linkedLines_injective hentry hother rfl rfl h
      exact absurd hparams.symm (params_ne_todo params raw)
    | degraded s' raw' =>
      obtain ⟨htodo, hsignature⟩ := linkedLines_injective hentry hother rfl rfl h
      rw [todo_injective (hentry.raw_end s raw rfl) (hother.raw_end s' raw' rfl) htodo,
        hsignature rfl]

/-- **A block determines its entry.** -/
theorem block_injective (hcategory : '\n' ∉ category.toList) (hbase : '\n' ∉ baseUrl.toList)
    {entry other : Entry} (hentry : WellFormed entry) (hother : WellFormed other)
    (h : block category baseUrl entry = block category baseUrl other) : entry = other := by
  -- The lines are what the block is cut into, and the two blocks are equal.
  have hlines : blockLines category baseUrl entry = blockLines category baseUrl other := by
    calc blockLines category baseUrl entry
        = Text.splitLines (block category baseUrl entry).toList :=
          (splitLines_block hcategory hbase hentry.oneLined).symm
      _ = Text.splitLines (block category baseUrl other).toList := by rw [h]
      _ = blockLines category baseUrl other :=
          splitLines_block hcategory hbase hother.oneLined
  exact blockLines_injective hentry hother hlines

/-! ### Decoding files -/

variable {settings : Settings} {entries others : List Entry}

/-- Fields that stay on their lines keep their entry together. -/
theorem StaysTogether.of_oneLined {entry : Entry} (h : OneLined entry) : StaysTogether entry := by
  have hfield : ∀ {text : String}, '\n' ∉ text.toList → Tidy text.toList := Text.tidy_of_not_mem
  cases entry with
  | shorthand name returnType text => exact ⟨(hfield h.1).1, hfield h.2⟩
  | full s params =>
    obtain ⟨⟨hname, hreturns, hlink⟩, hparams⟩ := h
    exact ⟨(hfield hname).1, hfield hreturns, (hfield hlink).1,
      fun p hp => ⟨(hfield (hparams p hp).1).1, hfield (hparams p hp).2⟩⟩
  | degraded s raw =>
    obtain ⟨hname, hreturns, hlink⟩ := h
    exact ⟨(hfield hname).1, hfield hreturns, (hfield hlink).1⟩

/-- The paragraphs of a file that has blocks are its blocks, if its entries are well-formed. -/
theorem paragraphs_text (hcategory : '\n' ∉ settings.category.toList)
    (hbase : '\n' ∉ settings.baseUrl.toList) (hentries : ∀ entry ∈ entries, WellFormed entry)
    (hne : blocks settings entries ≠ []) :
    Text.paragraphs (text settings entries) = blocks settings entries := by
  rw [paragraphs_text_iff hcategory hne]
  intro entry hentry
  have hblock := (tidy_block_iff hcategory hbase entry).mpr
    (.of_oneLined (hentries entry hentry).oneLined)
  exact hblock.1

theorem ne_empty_of_mem_blocks {b : String} (h : b ∈ blocks settings entries) : b ≠ "" := by
  rintro rfl
  rw [blocks, List.mem_append] at h
  rcases h with h | h
  · -- The header is a text of its own.
    split at h
    · have hheader := congrArg String.toList (List.mem_singleton.mp h)
      simp [header] at hheader
    · cases h
  · -- A block ends in its declaration, and so in a letter.
    obtain ⟨entry, -, hblock⟩ := List.mem_map.mp h
    have hlast := block_getLast? settings.category settings.baseUrl entry
    rw [hblock] at hlast
    cases hlast

/-- A file that has blocks is not empty. -/
theorem blocks_eq_nil_of_text (hcategory : '\n' ∉ settings.category.toList)
    (hbase : '\n' ∉ settings.baseUrl.toList) (hentries : ∀ entry ∈ entries, WellFormed entry)
    (h : text settings entries = "") : blocks settings entries = [] := by
  -- The file would be one empty paragraph.
  by_contra hne
  have hparagraphs := paragraphs_text hcategory hbase hentries hne
  have hempty : Text.paragraphs "" = [""] := by decide
  rw [h, hempty] at hparagraphs
  have hmem : "" ∈ blocks settings entries := hparagraphs ▸ List.mem_singleton_self ""
  exact ne_empty_of_mem_blocks hmem rfl

/-- **A file determines its blocks.** -/
theorem blocks_eq_of_text (hcategory : '\n' ∉ settings.category.toList)
    (hbase : '\n' ∉ settings.baseUrl.toList) (hentries : ∀ entry ∈ entries, WellFormed entry)
    (hothers : ∀ entry ∈ others, WellFormed entry)
    (h : text settings entries = text settings others) :
    blocks settings entries = blocks settings others := by
  have hnone : ∀ list, blocks settings list = [] → text settings list = "" := by
    intro list hlist
    rw [text, hlist]
    rfl
  -- Cutting an empty file gives one empty paragraph, which is not the block of anything.
  by_cases hentries' : blocks settings entries = []
  · rw [hentries', blocks_eq_nil_of_text hcategory hbase hothers
      (h ▸ hnone entries hentries')]
  by_cases hothers' : blocks settings others = []
  · rw [hothers', blocks_eq_nil_of_text hcategory hbase hentries
      (h ▸ hnone others hothers')]
  calc blocks settings entries
      = Text.paragraphs (text settings entries) :=
        (paragraphs_text hcategory hbase hentries hentries').symm
    _ = Text.paragraphs (text settings others) := by rw [h]
    _ = blocks settings others := paragraphs_text hcategory hbase hothers hothers'

/-- **Blocks determine the entries.** -/
theorem entries_eq_of_blocks (hcategory : '\n' ∉ settings.category.toList)
    (hbase : '\n' ∉ settings.baseUrl.toList) (hentries : ∀ entry ∈ entries, WellFormed entry)
    (hothers : ∀ entry ∈ others, WellFormed entry)
    (h : blocks settings entries = blocks settings others) : entries = others := by
  rw [blocks, blocks] at h
  have hblocks := List.append_cancel_left h
  clear h
  -- By induction on the entries of one file, each of which has a block in the other.
  induction entries generalizing others with
  | nil => exact (List.map_eq_nil_iff.mp hblocks.symm).symm
  | cons entry entries ih =>
    obtain ⟨other, others, rfl, hblock, hrest⟩ := List.map_eq_cons_iff.mp hblocks.symm
    rw [List.forall_mem_cons] at hentries hothers
    rw [block_injective hcategory hbase hentries.1 hothers.1 hblock.symm,
      ih hentries.2 hothers.2 hrest.symm]

/-- **A stub file determines the entries** that were laid out in it, if they are well-formed.
Their number and order, their forms and all of their fields can be told from the text. -/
theorem file_injective (hcategory : '\n' ∉ settings.category.toList)
    (hbase : '\n' ∉ settings.baseUrl.toList) {d d' : Description}
    (hd : d.category? settings.category = some entries)
    (hd' : d'.category? settings.category = some others)
    (hentries : ∀ entry ∈ entries, WellFormed entry)
    (hothers : ∀ entry ∈ others, WellFormed entry)
    (h : file settings d = file settings d') : entries = others := by
  -- Both files are laid out for the category that was asked for, so they are texts.
  rw [file, file, hd, hd'] at h
  have htext : text settings entries = text settings others := Except.ok.inj h
  exact entries_eq_of_blocks hcategory hbase hentries hothers
    (blocks_eq_of_text hcategory hbase hentries hothers htext)

/-- Names may look like declarations, and the text of unreadable parameters like other lines. -/
theorem file_injective_imitations :
    WellFormed (.degraded ⟨"f(x)", "nil", "one\n\nthree", "#f"⟩ "---@return nil\n---") ∧
    file ⟨"Object", "", true⟩ ⟨[("Object",
        [.degraded ⟨"f(x)", "nil", "one\n\nthree", "#f"⟩ "---@return nil\n---"])]⟩ =
      file ⟨"Object", "", true⟩ ⟨[("Global", []), ("Object",
        [.degraded ⟨"f(x)", "nil", "one\n\nthree", "#f"⟩ "---@return nil\n---"])]⟩ ∧
    [Entry.degraded ⟨"f(x)", "nil", "one\n\nthree", "#f"⟩ "---@return nil\n---"] =
      [.degraded ⟨"f(x)", "nil", "one\n\nthree", "#f"⟩ "---@return nil\n---"] := by
  have hentry :
      WellFormed (.degraded ⟨"f(x)", "nil", "one\n\nthree", "#f"⟩ "---@return nil\n---") := by
    refine ⟨⟨by decide, by decide, by decide⟩, List.forall_mem_nil _, by decide, by decide, ?_⟩
    -- All that is left is the end of the text of unreadable parameters.
    rintro s raw ⟨⟩
    decide
  have hentries := List.forall_mem_singleton.mpr hentry
  have hfile : file ⟨"Object", "", true⟩ ⟨[("Object",
        [.degraded ⟨"f(x)", "nil", "one\n\nthree", "#f"⟩ "---@return nil\n---"])]⟩ =
      file ⟨"Object", "", true⟩ ⟨[("Global", []), ("Object",
        [.degraded ⟨"f(x)", "nil", "one\n\nthree", "#f"⟩ "---@return nil\n---"])]⟩ := rfl
  exact ⟨hentry, hfile,
    file_injective (by decide) (by decide) rfl rfl hentries hentries hfile⟩

end Stub
end ApiStubs
