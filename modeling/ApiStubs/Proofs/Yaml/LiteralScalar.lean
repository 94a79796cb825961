import ApiStubs.Proofs.Yaml.Source
import ApiStubs.Yaml.Token.Block
import Mathlib.Data.List.DropRight

/-!
# Literal scalars are scanned back

A literal scalar is a bar, and below it lines that are indented alike. It ends where a line is
indented less (`Block.scan_literal`). Its text are the lines, each with its line feed, without the
empty ones at the end.

The first line must have a first character that is no blank, since it says how far all lines are
indented. The others are arbitrary: empty, indented further, or like something that would be a token
elsewhere. Reading them keeps two texts (`Body.Holds`): that up to the last line that is not empty,
and the one with the empty lines after it, which come in once there is another line.
-/

namespace ApiStubs
namespace Yaml
namespace Block

/-- Characters of one line. -/
def IsLine (chars : List Char) : Prop := ∀ c ∈ chars, isBreak c = false

/-- A first line, which sets the indentation. -/
def IsFirstLine (chars : List Char) : Prop :=
  IsLine chars ∧ ∃ c more, chars = c :: more ∧ isBlank c = false

/-- The characters of lines, each with its line feed. -/
def linesChars (lines : List (List Char)) : List Char := lines.flatMap (· ++ ['\n'])

/-- Lines without the empty ones at the end. -/
def filled (lines : List (List Char)) : List (List Char) := lines.rdropWhile List.isEmpty

/-! ### What has been read -/

namespace Body

/-- **What has been read are some lines**, with their line feeds. -/
structure Holds (b : Body) (lines : List (List Char)) : Prop where
  inLine : b.inLine = false
  clip : b.result .clip = linesChars (filled lines)
  keep : b.result .keep = linesChars lines

/-- Before the first line. -/
theorem holds_start : (start []).Holds [] := ⟨rfl, rfl, rfl⟩

/-- A line, up to its line feed. -/
def addLine (b : Body) : List Char → Body
  | [] => b.addEmpty '\n'
  | c :: more =>
    let opened := b.openLine false c
    { opened with text := more.reverse ++ opened.text }.closeLine '\n'

variable {b : Body} {lines : List (List Char)}

/-- One more line is kept with its line feed; if it is empty, that waits for another line. -/
theorem Holds.addLine (h : b.Holds lines) (chars : List Char) :
    (b.addLine chars).Holds (lines ++ [chars]) := by
  have hlines : linesChars (lines ++ [chars]) = linesChars lines ++ (chars ++ ['\n']) := by
    simp [linesChars]
  have hkeep := h.keep
  cases chars with
  | nil =>
    -- An empty line at the end is dropped from the text until another line follows.
    refine ⟨h.inLine, ?_, ?_⟩
    · rw [filled, List.rdropWhile_concat_pos _ _ _ rfl]
      exact h.clip
    · rw [hlines, ← hkeep]
      simp [Body.addLine, addEmpty, result, breakText]
  | cons c more =>
    -- Nothing is left to wait, so both texts are the same.
    have hclip : (b.addLine (c :: more)).result .clip =
        b.result .keep ++ (c :: more ++ ['\n']) := by
      simp [Body.addLine, openLine, closeLine, result, breakText]
    refine ⟨rfl, ?_, ?_⟩
    · rw [filled, List.rdropWhile_concat_neg _ _ _ (by simp), hlines, ← hkeep, hclip]
    · rw [hlines, ← hkeep, ← hclip]
      rfl

end Body

/-! ### Reading lines -/

variable {indent : Nat} {since : Mark} {blocked : Option Nat} {body : Body}

/-- The characters of a line that has been begun. -/
theorem readLines_inLine (hinLine : body.inLine = true) (mark : Mark) {chars : List Char}
    (hchars : IsLine chars) (rest : List Char) :
    readLines false indent since blocked body mark (chars ++ rest) =
      readLines false indent since blocked { body with text := chars.reverse ++ body.text }
        (mark.passAll chars) rest := by
  -- By induction on the characters, none of which is a break.
  induction chars generalizing body mark with
  | nil => rfl
  | cons c chars ih =>
    obtain ⟨hc, hchars⟩ := List.forall_mem_cons.mp hchars
    rw [List.cons_append, readLines, if_neg (by rw [hc]; decide), if_pos hinLine,
      ih (by exact hinLine) _ hchars]
    simp [Body.addChar]

/-- Spaces before the column of the lines. -/
theorem readLines_spaces (hinLine : body.inLine = false) {n : Nat} {mark : Mark}
    (hcolumn : mark.column + n ≤ indent) (rest : List Char) :
    readLines false indent since blocked body mark (List.replicate n ' ' ++ rest) =
      readLines false indent since blocked body (mark.passAll (List.replicate n ' ')) rest := by
  -- By induction on the spaces, all of them in front of the column of the lines.
  induction n generalizing mark with
  | zero => rfl
  | succ n ih =>
    have hspace : mark.column < indent ∧ ' ' = ' ' := ⟨by omega, rfl⟩
    rw [List.replicate_succ, List.cons_append, readLines, if_neg (by decide),
      if_neg (by rw [hinLine]; decide), if_pos hspace]
    exact ih (by change mark.column + 1 + n ≤ indent; omega)

/-- A whole line, at the column of the lines. -/
theorem readLines_line (hinLine : body.inLine = false) {mark : Mark}
    (hcolumn : mark.column = indent) {chars : List Char} (hchars : IsLine chars)
    (rest : List Char) :
    readLines false indent since blocked body mark (chars ++ '\n' :: rest) =
      readLines false indent since blocked (body.addLine chars)
        ((mark.passAll chars).nextLine '\n' 0) rest := by
  -- A line feed ends the line that has been begun, and is an empty line where none has been.
  have hbreak : ∀ (b : Body) (m : Mark), readLines false indent since blocked b m ('\n' :: rest) =
      readLines false indent since blocked
        (if b.inLine then b.closeLine '\n' else b.addEmpty '\n') (m.nextLine '\n' 0) rest := by
    intro b m
    rw [readLines, if_pos (by decide), breakTail_lineFeed, List.drop_zero]
  cases chars with
  | nil =>
    rw [List.nil_append, hbreak, hinLine]
    rfl
  | cons c more =>
    -- The first character opens the line, since it stands at the column of the lines.
    obtain ⟨hc, hmore⟩ := List.forall_mem_cons.mp hchars
    have hopen : readLines false indent since blocked body mark (c :: (more ++ '\n' :: rest)) =
        readLines false indent since blocked (body.openLine false c) (mark.pass c)
          (more ++ '\n' :: rest) := by
      rw [readLines, if_neg (by rw [hc]; decide), if_neg (by rw [hinLine]; decide),
        if_neg (by omega), if_neg (by omega), if_pos hcolumn]
    rw [List.cons_append, hopen, readLines_inLine rfl _ hmore, hbreak]
    rfl

/-- A whole line, and the spaces before the next one. -/
theorem readLines_lineTo (hinLine : body.inLine = false) {mark : Mark}
    (hcolumn : mark.column = indent) {chars : List Char} (hchars : IsLine chars) {column : Nat}
    (hle : column ≤ indent) (rest : List Char) :
    readLines false indent since blocked body mark (chars ++ (lineTo column ++ rest)) =
      readLines false indent since blocked (body.addLine chars)
        (((mark.passAll chars).nextLine '\n' 0).passAll (List.replicate column ' ')) rest := by
  -- After its line feed, no line has been begun, whether the last one was empty or not.
  have hadded : (body.addLine chars).inLine = false := by
    cases chars with
    | nil => exact hinLine
    | cons c more => rfl
  have hspaces : ((mark.passAll chars).nextLine '\n' 0).column + column ≤ indent := by
    change 0 + column ≤ indent
    omega
  rw [lineTo, List.cons_append, readLines_line hinLine hcolumn hchars,
    readLines_spaces hadded hspaces]

/-- A line that is indented less is none of the lines, and neither is the end of the text. -/
theorem readLines_stop (hinLine : body.inLine = false) {mark : Mark} {rest : List Char}
    (hrest : rest = [] ∨ atClass (! isGap ·) rest = true ∧ mark.column < indent) :
    readLines false indent since blocked body mark rest = .ok (body, ⟨mark, rest, blocked⟩) := by
  rcases hrest with rfl | ⟨hrest, hcolumn⟩
  · -- The text ends.
    rw [readLines]
  · -- The next character is visible and on the left of the column, where no line can begin.
    cases rest with
    | nil => cases hrest
    | cons c rest =>
      have hgap : (c ≠ ' ' ∧ c ≠ '\t') ∧ isBreak c = false := by
        simpa [atClass, isGap, isBlank] using hrest
      rw [readLines, if_neg (by rw [hgap.2]; decide), if_neg (by rw [hinLine]; decide),
        if_neg (fun h => hgap.1.1 h.2), if_neg (fun h => hgap.1.2 h.2), if_neg (by omega)]

variable (since blocked) in
/-- **All lines are read**, from the column of the first one on. -/
theorem readLines_lines {done : List (List Char)} (hbody : body.Holds done) {mark : Mark}
    (hcolumn : mark.column = indent) {first : List Char} {others : List (List Char)}
    (hfirst : IsLine first) (hothers : ∀ line ∈ others, IsLine line) {column : Nat}
    {rest : List Char} (hle : column ≤ indent)
    (hrest : rest = [] ∨ atClass (! isGap ·) rest = true ∧ column < indent) :
    ∃ (b : Body) (last : Mark), mark.line ≤ last.line ∧ b.Holds (done ++ first :: others) ∧
      readLines false indent since blocked body mark
          (first ++ (others.flatMap (lineTo indent ++ ·) ++ (lineTo column ++ rest))) =
        .ok (b, ⟨(last.nextLine '\n' 0).passAll (List.replicate column ' '), rest, blocked⟩) := by
  -- By induction on the lines after the first one: behind each there is another one, or the end.
  induction others generalizing body done mark first with
  | nil =>
    have hadded := hbody.addLine first
    refine ⟨_, mark.passAll first, by rw [Mark.passAll_line], hadded, ?_⟩
    rw [List.flatMap_nil, List.nil_append, readLines_lineTo hbody.inLine hcolumn hfirst hle,
      readLines_stop hadded.inLine (by rw [Mark.nextLine_spaces_column]; exact hrest)]
  | cons next others ih =>
    obtain ⟨hnext, hothers⟩ := List.forall_mem_cons.mp hothers
    -- One line further down, the mark is behind where it was.
    have hlater : mark.line ≤
        (((mark.passAll first).nextLine '\n' 0).passAll (List.replicate indent ' ')).line := by
      rw [Mark.passAll_line]
      exact Nat.le_succ_of_le (Nat.le_of_eq (Mark.passAll_line _ _).symm)
    obtain ⟨b, last, hline, hb, hread⟩ :=
      ih (hbody.addLine first) (Mark.nextLine_spaces_column (mark.passAll first) _) hnext hothers
    refine ⟨b, last, Nat.le_trans hlater hline, by rwa [List.append_assoc] at hb, ?_⟩
    rw [← hread, List.flatMap_cons, List.append_assoc, List.append_assoc,
      readLines_lineTo hbody.inLine hcolumn hfirst (Nat.le_refl _)]

/-! ### Scanning -/

variable (since blocked) in
/-- The first line sets the indentation. -/
theorem findIndent_spaces (breaks : List Char) (widest n : Nat) (mark : Mark) {c : Char}
    (hblank : isBlank c = false) (hbreak : isBreak c = false) (after : List Char) :
    findIndent since blocked breaks widest mark (List.replicate n ' ' ++ c :: after) =
      .ok ((breaks, max widest (mark.column + n)),
        ⟨mark.passAll (List.replicate n ' '), c :: after, blocked⟩) := by
  -- By induction on the spaces in front of the first line.
  induction n generalizing mark with
  | zero =>
    rw [isBlank, Bool.or_eq_false_iff, beq_eq_false_iff_ne, beq_eq_false_iff_ne] at hblank
    rw [List.replicate_zero, List.nil_append, findIndent, if_neg hblank.1, if_neg hblank.2,
      if_neg (by rw [hbreak]; decide)]
    rfl
  | succ n ih =>
    rw [List.replicate_succ, List.cons_append, findIndent, if_pos rfl, ih]
    change Except.ok ((breaks, max widest (mark.column + 1 + n)), _) = _
    rw [Nat.add_right_comm, Nat.add_assoc]
    rfl

/-- **A literal scalar is scanned as its lines.** What stands behind it is passed up to the next
token. -/
theorem scan_literal {parent : Option Nat} (cursor : Cursor) (hreadable : cursor.blocked = none)
    (hindent : 0 < indent) (hparent : ∀ p ∈ parent, p < indent) {first : List Char}
    {others : List (List Char)} (hfirst : IsFirstLine first)
    (hothers : ∀ line ∈ others, IsLine line) {column : Nat} {rest : List Char}
    (hle : column ≤ indent)
    (hrest : rest = [] ∨ atClass (! isGap ·) rest = true ∧ column < indent)
    (hchars : cursor.rest =
      '|' :: ((first :: others).flatMap (lineTo indent ++ ·) ++ (lineTo column ++ rest))) :
    ∃ last : Mark, cursor.mark.line ≤ last.line ∧
      scan false parent cursor = .ok (linesChars (filled (first :: others)),
        ⟨(last.nextLine '\n' 0).passAll (List.replicate column ' '), rest, none⟩) := by
  obtain ⟨hline, c, more, rfl, hblank⟩ := hfirst
  let after : List Char :=
    more ++ (others.flatMap (lineTo indent ++ ·) ++ (lineTo column ++ rest))
  -- Behind the bar, nothing else is on its line.
  let header : Cursor :=
    ⟨cursor.mark.pass '|', '\n' :: (List.replicate indent ' ' ++ c :: after), none⟩
  have hskip : cursor.skip 1 = header := by
    rw [Cursor.skip, hchars, hreadable]
    simp [header, after, lineTo]
  have hheader : readHeader cursor.mark header = .ok (⟨.clip, none⟩, header) := rfl
  have hskipped : header.skipRestOfLine = header := rfl
  have hbroken : header.skipBreak =
      ⟨header.mark.nextLine '\n' 0, List.replicate indent ' ' ++ c :: after, none⟩ := by
    simp [Cursor.skipBreak, header, isBreak, breakTail_lineFeed]
  have hfind := findIndent_spaces cursor.mark none [] 0 indent
    (header.mark.nextLine '\n' 0) hblank (hline c List.mem_cons_self) after
  obtain ⟨b, last, hlast, hb, hread⟩ := readLines_lines cursor.mark none
    Body.holds_start (Mark.nextLine_spaces_column header.mark indent) hline hothers hle hrest
  -- The lines are indented further than what is around them, so the indentation is theirs.
  have hwidest : max (max 0 ((header.mark.nextLine '\n' 0).column + indent))
      (max (parent.elim 0 (· + 1)) 1) = indent := by
    cases parent with
    | none => change max (max 0 (0 + indent)) (max 0 1) = indent; omega
    | some p =>
      have hlt : p < indent := hparent p rfl
      change max (max 0 (0 + indent)) (max (p + 1) 1) = indent
      omega
  refine ⟨last, ?_, ?_⟩
  · refine Nat.le_trans ?_ hlast
    rw [Mark.passAll_line]
    exact Nat.le_succ _
  · -- The steps of the scanner in turn: header, end of line, indentation and lines.
    have hneed : ∀ count, header.need count = .ok () := fun count => need_none count _
    have hend : atLineEnd header.rest = true := rfl
    have hmore : header.rest.isEmpty = false := rfl
    unfold scan
    simp only [hskip, hheader, hskipped, hneed, hend, hmore, hbroken, hfind, bind, Except.bind,
      hwidest, Bool.not_true, Bool.not_false, Bool.false_eq_true, if_true, if_false]
    change readLines false indent cursor.mark none _ _ (c :: after) = _ at hread
    simp only [hread, Cursor.need, need_none, hb.clip, List.nil_append]

end Block
end Yaml
end ApiStubs
