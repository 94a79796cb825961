import ApiStubs.Proofs.Yaml.Source
import ApiStubs.Yaml.Token.Plain

/-!
# Words are scanned back

A plain scalar of one word (`Plain.IsWord`) holds no gap, no colon and no flow indicator. So it is
passed as a whole (`Plain.scanFrom_word`), and so are words with spaces between them
(`Plain.IsPhrase`, `Plain.scanFrom_phrase`). The scalar ends where one of these comes next:

* `Plain.scanFrom_colon` — a colon with a gap behind it;
* `Plain.scanFrom_flowIndicator` — a flow indicator, inside of flow collections;
* `Plain.scanFrom_lineEnd` — a line feed, outside of them, if the next line is indented too little.
  The scalar passes the line feed and the indentation, but these are no part of it.

Words of letters and underscores are such words (`Plain.isWord_of_isLetter`).
-/

namespace ApiStubs
namespace Yaml
namespace Plain

/-! ### Characters of words -/

/-- Whether a character goes on with a plain scalar wherever that stands. -/
def isInner (c : Char) : Bool := ! isGap c && ! isFlowIndicator c && c != ':'

/-- Whether a plain scalar starts with some characters wherever it stands, and nothing else that
only a line may start with does. -/
def startsWord : List Char → Bool
  | '-' :: c :: _ => c != '-'
  | c :: _ => ! isIndicator c && c != '.'
  | [] => false

/-- **A word**: visible characters that are a plain scalar. -/
def IsWord (chars : List Char) : Prop :=
  startsWord chars = true ∧ ∀ c ∈ chars, IsPrintable c ∧ isInner c = true

-- The list is gone through here: other ways to decide this try all characters there are.
instance (chars : List Char) : Decidable (IsWord chars) :=
  have : Decidable (∀ c ∈ chars, IsPrintable c ∧ isInner c = true) := List.decidableBAll _ _
  inferInstanceAs (Decidable (_ ∧ _))

/-- What can stand behind a space in a plain scalar: visible characters that are no comment. -/
def IsLaterWord (chars : List Char) : Prop :=
  chars.head?.any (· != '#') = true ∧ ∀ c ∈ chars, IsPrintable c ∧ isInner c = true

instance (chars : List Char) : Decidable (IsLaterWord chars) :=
  have : Decidable (∀ c ∈ chars, IsPrintable c ∧ isInner c = true) := List.decidableBAll _ _
  inferInstanceAs (Decidable (_ ∧ _))

/-- **A phrase**: a word, and others with spaces between them. -/
inductive IsPhrase : List Char → Prop
  | word {chars : List Char} (h : IsWord chars) : IsPhrase chars
  | space {chars later : List Char} (h : IsPhrase chars) (n : Nat) (hlater : IsLaterWord later) :
    IsPhrase (chars ++ (List.replicate (n + 1) ' ' ++ later))

/-- A letter or an underscore. -/
def isLetter (c : Char) : Bool := c.isAlpha || c == '_'

/-- No letter is equal to a character that is none. -/
theorem ne_of_isLetter {c : Char} (h : isLetter c = true) {d : Char} (hd : isLetter d = false) :
    c ≠ d := by
  rintro rfl
  rw [h] at hd
  cases hd

variable {c : Char} {chars : List Char}

/-- All letters and the underscore are between these two. -/
theorem toNat_of_isLetter (h : isLetter c = true) :
    'A'.toNat ≤ c.toNat ∧ c.toNat ≤ 'z'.toNat := by
  -- Each kind of letter is a range of codes, and all of these ranges lie in the one from `A` to
  -- `z`.
  have hbetween : ∀ low high : Char, low.val ≤ c.val ∧ c.val ≤ high.val →
      'A'.toNat ≤ low.toNat → high.toNat ≤ 'z'.toNat →
        'A'.toNat ≤ c.toNat ∧ c.toNat ≤ 'z'.toNat :=
    fun low high h hlow hhigh => ⟨Nat.le_trans hlow (UInt32.le_iff_toNat_le.mp h.1),
      Nat.le_trans (UInt32.le_iff_toNat_le.mp h.2) hhigh⟩
  rcases Bool.or_eq_true_iff.mp h with halpha | hunderscore
  · rcases Bool.or_eq_true_iff.mp halpha with hupper | hlower
    · exact hbetween 'A' 'Z' (of_decide_eq_true hupper) (by decide) (by decide)
    · obtain ⟨hlow, hhigh⟩ := Bool.and_eq_true_iff.mp hlower
      exact hbetween 'a' 'z' ⟨of_decide_eq_true hlow, of_decide_eq_true hhigh⟩ (by decide)
        (by decide)
  · rw [eq_of_beq hunderscore]
    decide

theorem isPrintable_of_isLetter (h : isLetter c = true) : IsPrintable c :=
  have hrange := toNat_of_isLetter h
  ⟨Nat.le_trans (by decide) hrange.1, Nat.le_trans hrange.2 (by decide)⟩

theorem isDigit_of_isLetter (h : isLetter c = true) : c.isDigit = false := by
  -- Digits come before all of the letters.
  refine Bool.eq_false_iff.mpr fun hdigit => ?_
  have hle : 'A'.toNat ≤ '9'.toNat :=
    Nat.le_trans (toNat_of_isLetter h).1 (Char.isDigit_iff_toNat.mp hdigit).2
  exact absurd hle (by decide)

theorem isInner_of_isLetter (h : isLetter c = true) : isInner c = true := by
  simp [isInner, isGap, isBlank, isBreak, isFlowIndicator, ne_of_isLetter h, isLetter]

theorem isIndicator_of_isLetter (h : isLetter c = true) : isIndicator c = false := by
  simp [isIndicator, isFlowIndicator, ne_of_isLetter h, isLetter]

/-- **Letters make a word.** -/
theorem isWord_of_isLetter (h : ∀ c ∈ chars, isLetter c = true) (hne : chars ≠ []) :
    IsWord chars := by
  refine ⟨?_, fun c hc => ⟨isPrintable_of_isLetter (h c hc), isInner_of_isLetter (h c hc)⟩⟩
  -- The first letter is no indicator, and neither a dash nor a point, so that no special case
  -- applies.
  obtain ⟨c, more, rfl⟩ := List.exists_cons_of_ne_nil hne
  have hc := h c List.mem_cons_self
  unfold startsWord
  split
  · next heq => exact absurd (List.cons_eq_cons.mp heq).1 (ne_of_isLetter hc (by decide))
  · next heq =>
    obtain ⟨rfl, -⟩ := List.cons_eq_cons.mp heq
    simp [isIndicator_of_isLetter hc, ne_of_isLetter hc, isLetter]
  · next heq => cases heq

/-! ### Starts of words -/

theorem isGap_of_isInner (h : isInner c = true) : isGap c = false := by
  simp only [isInner, Bool.and_eq_true, Bool.not_eq_true'] at h
  exact h.1.1

/-- What is known of the first character of a word. -/
theorem IsWord.exists_cons (h : IsWord chars) :
    ∃ c more, chars = c :: more ∧ IsPrintable c ∧ isInner c = true ∧ c ≠ '.' ∧
      (isIndicator c = false ∨ c = '-' ∧ ∃ d others, more = d :: others ∧ isInner d = true ∧
        d ≠ '-') := by
  obtain ⟨hstarts, hchars⟩ := h
  unfold startsWord at hstarts
  split at hstarts
  -- A dash at the start needs another character behind it, which is no dash.
  · next d others =>
    have hfirst := hchars '-' List.mem_cons_self
    have hsecond := hchars d (List.mem_cons_of_mem _ List.mem_cons_self)
    exact ⟨'-', _, rfl, hfirst.1, hfirst.2, by decide,
      .inr ⟨rfl, d, others, rfl, hsecond.2, by simpa using hstarts⟩⟩
  · next c more _ =>
    have hfirst := hchars c List.mem_cons_self
    simp only [Bool.and_eq_true, Bool.not_eq_true', bne_iff_ne] at hstarts
    exact ⟨c, more, rfl, hfirst.1, hfirst.2, hstarts.2, .inl hstarts.1⟩
  · cases hstarts

/-- With a word no document indicator starts. -/
theorem IsWord.atDocumentIndicator_append (h : IsWord chars) (rest : List Char) :
    atDocumentIndicator (chars ++ rest) = false := by
  obtain ⟨c, more, rfl, -, -, hdot, hindicator⟩ := h.exists_cons
  unfold atDocumentIndicator
  -- A document indicator is three dashes or three points.
  split
  · next heq =>
    obtain ⟨rfl, hmore⟩ := List.cons_eq_cons.mp heq
    rcases hindicator with hindicator | ⟨-, d, others, rfl, -, hd⟩
    · cases hindicator
    · exact absurd (List.cons_eq_cons.mp hmore).1 hd
  · next heq => exact absurd (List.cons_eq_cons.mp heq).1 hdot
  · rfl

/-! ### Starts of phrases -/

/-- A phrase starts with a word. -/
theorem IsPhrase.exists_word (h : IsPhrase chars) :
    ∃ word more, chars = word ++ more ∧ IsWord word := by
  -- By induction on the phrase, whose first word is that of the phrase in front of its last space.
  induction h with
  | @word chars h => exact ⟨chars, [], (List.append_nil chars).symm, h⟩
  | @space chars later _ n _ ih =>
    obtain ⟨word, more, rfl, hword⟩ := ih
    exact ⟨word, more ++ (List.replicate (n + 1) ' ' ++ later), List.append_assoc _ _ _, hword⟩

theorem IsPhrase.printable (h : IsPhrase chars) : ∀ c ∈ chars, IsPrintable c := by
  induction h with
  | word h => exact fun c hc => (h.2 c hc).1
  | space _ n hlater ih =>
    rw [List.forall_mem_append, List.forall_mem_append]
    -- What is between the words are spaces.
    refine ⟨ih, fun c hc => ?_, fun c hc => (hlater.2 c hc).1⟩
    rw [List.eq_of_mem_replicate hc]
    decide

theorem IsPhrase.atDocumentIndicator_append (h : IsPhrase chars) (rest : List Char) :
    atDocumentIndicator (chars ++ rest) = false := by
  obtain ⟨word, more, rfl, hword⟩ := h.exists_word
  rw [List.append_assoc]
  exact hword.atDocumentIndicator_append _

/-! ### Words -/

section Scan

variable {s : Setting}

/-- A character of a word is one more character of the scalar. -/
theorem pieceAt_of_isInner (hblocked : s.blocked = none) (mark : Mark) (after : List Char)
    (h : isInner c = true) : pieceAt s .none mark c after = .ok .char := by
  have hgap := isGap_of_isInner h
  rw [isGap, Bool.or_eq_false_iff] at hgap
  obtain ⟨hblank, hbreak⟩ := hgap
  simp only [isInner, Bool.and_eq_true, Bool.not_eq_true', bne_iff_ne] at h
  -- No test of the scanner applies to the character: it is no gap, no flow indicator and no colon.
  obtain ⟨⟨-, hflow⟩, hcolon⟩ := h
  simp [pieceAt, hblank, hbreak, hblocked, wordAt, hflow, hcolon, Gap.isOpen, Gap.none, bind,
    Except.bind]

/-- **A word is passed as a whole.** -/
theorem scanFrom_word (hblocked : s.blocked = none) (taken : List Char) (mark : Mark)
    (hchars : ∀ c ∈ chars, isInner c = true) (rest : List Char) :
    scanFrom s taken .none mark (chars ++ rest) =
      scanFrom s (chars.reverse ++ taken) .none (mark.passAll chars) rest := by
  -- By induction on the characters, each of which goes from the text to what has been taken.
  induction chars generalizing taken mark with
  | nil => rfl
  | cons c chars ih =>
    rw [List.forall_mem_cons] at hchars
    rw [List.cons_append, scanFrom, pieceAt_of_isInner hblocked mark _ hchars.1]
    change scanFrom s (c :: taken) .none (mark.pass c) (chars ++ rest) = _
    rw [ih _ _ hchars.2, List.reverse_cons, List.append_assoc]
    rfl

/-- Spaces are kept until it is known what is behind them. -/
theorem scanFrom_spaces (hblocked : s.blocked = none) (taken blanks : List Char) (mark : Mark)
    (n : Nat) (rest : List Char) :
    scanFrom s taken ⟨blanks, false, none, []⟩ mark (List.replicate n ' ' ++ rest) =
      scanFrom s taken ⟨List.replicate n ' ' ++ blanks, false, none, []⟩
        (mark.passAll (List.replicate n ' ')) rest := by
  -- By induction on the spaces; none of them is taken until a word follows.
  induction n generalizing blanks mark with
  | zero => rfl
  | succ n ih =>
    have hblank : pieceAt s ⟨blanks, false, none, []⟩ mark ' ' (List.replicate n ' ' ++ rest) =
        .ok .blank := by
      simp [pieceAt, isBlank, hblocked, bind, Except.bind]
    have hadd : (⟨blanks, false, none, []⟩ : Gap).addBlank ' ' = ⟨' ' :: blanks, false, none, []⟩ :=
      rfl
    rw [List.replicate_succ, List.cons_append, scanFrom, hblank]
    simp only [hadd]
    rw [ih, List.append_cons, ← List.replicate_succ']
    rfl

/-- Behind spaces, a character of a word goes on with the scalar, if it is not too far left. -/
theorem pieceAt_of_isOpen (hblocked : s.blocked = none) {gap : Gap} (hgap : gap.isOpen = true)
    {mark : Mark} (hline : mark.column ≠ 0) (hcolumn : s.inFlow = true ∨ s.indent ≤ mark.column)
    (after : List Char) (h : isInner c = true) (hcomment : c ≠ '#') :
    pieceAt s gap mark c after = .ok .char := by
  obtain ⟨hblank, hbreak⟩ := Bool.or_eq_false_iff.mp (isGap_of_isInner h)
  -- It is in a flow collection or on a column that the scalar may use, so it is not cut off there.
  have hgoes : ¬ (s.inFlow = false ∧ mark.column < s.indent) := by
    rintro ⟨hinFlow, hleft⟩
    rcases hcolumn with hflow | hindent
    · rw [hflow] at hinFlow
      cases hinFlow
    · exact absurd hleft (Nat.not_lt_of_le hindent)
  simp only [isInner, Bool.and_eq_true, Bool.not_eq_true', bne_iff_ne] at h
  obtain ⟨⟨-, hflow⟩, hcolon⟩ := h
  simp [pieceAt, hblank, hbreak, hgap, hgoes, hline, hcomment, hblocked, wordAt, hflow, hcolon,
    bind, Except.bind]

/-- **A later word goes on with the scalar.** -/
theorem scanFrom_laterWord (hblocked : s.blocked = none) (taken : List Char) (mark : Mark)
    (hcolumn : s.inFlow = true ∨ s.indent ≤ mark.column + 1) (n : Nat) (h : IsLaterWord chars)
    (rest : List Char) :
    scanFrom s taken .none mark (List.replicate (n + 1) ' ' ++ chars ++ rest) =
      scanFrom s ((List.replicate (n + 1) ' ' ++ chars).reverse ++ taken) .none
        (mark.passAll (List.replicate (n + 1) ' ' ++ chars)) rest := by
  -- The first character of the word is what decides that the spaces belong to the scalar.
  obtain ⟨c, more, rfl, hcomment, hchars⟩ : ∃ c more, chars = c :: more ∧ c ≠ '#' ∧
      ∀ d ∈ chars, IsPrintable d ∧ isInner d = true := by
    obtain ⟨hstarts, hchars⟩ := h
    cases chars with
    | nil => cases hstarts
    | cons c more => exact ⟨c, more, rfl, by simpa using hstarts, hchars⟩
  rw [List.forall_mem_cons] at hchars
  let spaces : List Char := List.replicate (n + 1) ' '
  let gap : Gap := ⟨spaces, false, none, []⟩
  -- Behind the spaces, the column is further right than it was, and not the first one.
  have hfar : (mark.passAll spaces).column = mark.column + (n + 1) := by
    rw [Mark.passAll_column, List.length_replicate]
  have hchar : pieceAt s gap (mark.passAll spaces) c (more ++ rest) = .ok .char :=
    pieceAt_of_isOpen hblocked rfl (by omega) (hcolumn.imp id fun hindent => by omega) _
      hchars.1.2 hcomment
  calc scanFrom s taken .none mark (spaces ++ c :: more ++ rest)
      = scanFrom s taken gap (mark.passAll spaces) (c :: (more ++ rest)) := by
        rw [List.append_assoc, Gap.none, scanFrom_spaces hblocked, List.append_nil]
        rfl
    -- The first character is taken, with the spaces that have been kept.
    _ = scanFrom s (c :: (spaces ++ taken)) .none ((mark.passAll spaces).pass c)
          (more ++ rest) := by
        rw [scanFrom, hchar]
        rfl
    -- The others are passed as those of any word are.
    _ = scanFrom s (more.reverse ++ c :: (spaces ++ taken)) .none
          (((mark.passAll spaces).pass c).passAll more) rest :=
        scanFrom_word hblocked _ _ (fun d hd => (hchars.2 d hd).2) rest
    _ = scanFrom s ((spaces ++ c :: more).reverse ++ taken) .none
          (mark.passAll (spaces ++ c :: more)) rest := by
        rw [Mark.passAll_append, Mark.passAll_cons, List.reverse_append, List.reverse_cons,
          List.reverse_replicate, List.append_assoc, List.append_assoc]
        rfl

/-- **A phrase is passed as a whole.** -/
theorem scanFrom_phrase (hblocked : s.blocked = none) (taken : List Char) (mark : Mark)
    (hcolumn : s.inFlow = true ∨ s.indent ≤ mark.column + 1) (h : IsPhrase chars)
    (rest : List Char) :
    scanFrom s taken .none mark (chars ++ rest) =
      scanFrom s (chars.reverse ++ taken) .none (mark.passAll chars) rest := by
  -- By induction on the phrase, a word at a time.
  induction h generalizing rest with
  | word h => exact scanFrom_word hblocked taken mark (fun c hc => (h.2 c hc).2) rest
  | @space chars later _ n hlater ih =>
    -- The later words stand further right than the first one.
    have hlaterColumn : s.inFlow = true ∨ s.indent ≤ (mark.passAll chars).column + 1 := by
      rw [Mark.passAll_column]
      exact hcolumn.imp id fun hindent => by omega
    let behind : List Char := List.replicate (n + 1) ' ' ++ later
    calc scanFrom s taken .none mark (chars ++ behind ++ rest)
        = scanFrom s (chars.reverse ++ taken) .none (mark.passAll chars) (behind ++ rest) := by
          rw [List.append_assoc, ih]
      _ = scanFrom s (behind.reverse ++ (chars.reverse ++ taken)) .none
            ((mark.passAll chars).passAll behind) rest :=
          scanFrom_laterWord hblocked _ _ hlaterColumn n hlater rest
      _ = scanFrom s ((chars ++ behind).reverse ++ taken) .none
            (mark.passAll (chars ++ behind)) rest := by
          rw [Mark.passAll_append mark chars behind, @List.reverse_append _ chars behind,
            List.append_assoc]

/-- A colon with a gap behind it ends a scalar. -/
theorem scanFrom_colon (hblocked : s.blocked = none) (taken : List Char) (mark : Mark)
    {rest : List Char} (hrest : atGap rest = true) :
    scanFrom s taken .none mark (':' :: rest) =
      .ok ⟨taken.reverse, false, ⟨mark, ':' :: rest, none⟩⟩ := by
  -- A gap is no flow indicator and no question mark, in front of which the colon would be a fault.
  have hflow : atClass (fun d => isFlowIndicator d || d == '?') rest = false := by
    cases rest with
    | nil => rfl
    | cons d rest =>
      simp only [atGap, isGap, isBlank, isBreak, Bool.or_eq_true, beq_iff_eq] at hrest
      rcases hrest with (rfl | rfl) | (((rfl | rfl) | rfl) | rfl) | rfl <;> rfl
  have hstop : pieceAt s .none mark ':' rest = .ok .stop := by
    simp [pieceAt, isBlank, isBreak, hblocked, wordAt, hrest, hflow, Gap.isOpen, Gap.none, bind,
      Except.bind]
  rw [scanFrom, hstop, hblocked]
  rfl

/-- Inside of flow collections, a flow indicator ends a scalar. -/
theorem scanFrom_flowIndicator (hblocked : s.blocked = none) (hinFlow : s.inFlow = true)
    (taken : List Char) (mark : Mark) {rest : List Char}
    (hrest : atClass isFlowIndicator rest = true) :
    scanFrom s taken .none mark rest = .ok ⟨taken.reverse, false, ⟨mark, rest, none⟩⟩ := by
  cases rest with
  | nil => cases hrest
  | cons c rest =>
    have hc : isFlowIndicator c = true := hrest
    -- No flow indicator is a blank, a break or a colon, so it is looked at as what it is.
    have hgap : isBlank c = false ∧ isBreak c = false ∧ (c == ':') = false := by
      simp only [isFlowIndicator, List.contains_eq_mem, List.mem_cons, List.not_mem_nil, or_false,
        decide_eq_true_eq] at hc
      rcases hc with rfl | rfl | rfl | rfl | rfl <;> decide
    have hstop : pieceAt s .none mark c rest = .ok .stop := by
      simp [pieceAt, hgap, hblocked, wordAt, hinFlow, hc, Gap.isOpen, Gap.none, bind, Except.bind]
    rw [scanFrom, hstop, hblocked]
    rfl

/-- Behind a line break, spaces are indentation. -/
theorem scanFrom_indentation (hblocked : s.blocked = none) (taken : List Char) {gap : Gap}
    (hgap : gap.broken = true) (mark : Mark) (n : Nat) (rest : List Char) :
    scanFrom s taken gap mark (List.replicate n ' ' ++ rest) =
      scanFrom s taken gap (mark.passAll (List.replicate n ' ')) rest := by
  -- By induction on the spaces; the gap has a line break in it and keeps none of them.
  induction n generalizing mark with
  | zero => rfl
  | succ n ih =>
    have hblank : pieceAt s gap mark ' ' (List.replicate n ' ' ++ rest) = .ok .blank := by
      simp [pieceAt, isBlank, hblocked, bind, Except.bind]
    have hadd : gap.addBlank ' ' = gap := by
      rw [Gap.addBlank, if_pos hgap]
    rw [List.replicate_succ, List.cons_append, scanFrom, hblank]
    simp only [hadd]
    exact ih (mark.pass ' ')

/-- Outside of them, a line feed ends a scalar, if the next line is indented too little or the text
ends there. What is behind the line feed has been passed up to the next character. -/
theorem scanFrom_lineEnd (hblocked : s.blocked = none) (hinFlow : s.inFlow = false)
    (taken : List Char) (mark : Mark) (column : Nat) {rest : List Char}
    (hrest : rest = [] ∨ atClass (! isGap ·) rest = true ∧ column < s.indent) :
    scanFrom s taken .none mark ('\n' :: (List.replicate column ' ' ++ rest)) =
      .ok ⟨taken.reverse, true,
        ⟨(mark.nextLine '\n' 0).passAll (List.replicate column ' '), rest, none⟩⟩ := by
  -- The line feed opens the gap, and the spaces behind it are the indentation of what is next.
  have hbreak : pieceAt s .none mark '\n' (List.replicate column ' ' ++ rest) =
      .ok (.lineBreak 0) := by
    simp [pieceAt, isBlank, isBreak, hblocked, breakTail_lineFeed, bind, Except.bind]
  rw [scanFrom, hbreak]
  simp only [List.drop_zero]
  rw [scanFrom_indentation hblocked taken rfl]
  rcases hrest with rfl | ⟨hrest, hcolumn⟩
  · -- At the end of the text, nothing can go on with the scalar.
    rw [scanFrom, hblocked]
    rfl
  · -- Otherwise there is a character, which stands too far left to go on with it.
    cases rest with
    | nil => cases hrest
    | cons c rest =>
      have hgap : isBlank c = false ∧ isBreak c = false := by
        simpa [atClass, isGap] using hrest
      have hlater : ((mark.nextLine '\n' 0).passAll (List.replicate column ' ')).column <
          s.indent := by
        rwa [Mark.nextLine_spaces_column]
      have hstop : pieceAt s (Gap.none.addBreak '\n')
          ((mark.nextLine '\n' 0).passAll (List.replicate column ' ')) c rest = .ok .stop := by
        simp only [pieceAt, hgap, hinFlow, hlater]
        rfl
      rw [scanFrom, hstop, hblocked]
      rfl

end Scan

theorem scan_eq (inFlow : Bool) (indent : Nat) (cursor : Cursor)
    (hblocked : cursor.blocked = none) :
    scan inFlow indent cursor =
      scanFrom ⟨inFlow, indent, cursor.mark, none⟩ [] .none cursor.mark cursor.rest := by
  have hneed : cursor.need 4 = .ok () := by rw [Cursor.need, hblocked, need_none]
  rw [scan, hneed, hblocked]
  rfl

/-- A scalar that starts with a word goes on with what follows that. -/
theorem scan_word (inFlow : Bool) (indent : Nat) (cursor : Cursor)
    (hblocked : cursor.blocked = none) (h : IsWord chars) {rest : List Char}
    (hrest : cursor.rest = chars ++ rest) :
    scan inFlow indent cursor =
      scanFrom ⟨inFlow, indent, cursor.mark, none⟩ chars.reverse .none (cursor.mark.passAll chars)
        rest := by
  rw [scan_eq _ _ _ hblocked, hrest, scanFrom_word rfl _ _ (fun c hc => (h.2 c hc).2),
    List.append_nil]

/-- So does one that starts with a phrase, unless the later words of this are too far left. -/
theorem scan_phrase (inFlow : Bool) (indent : Nat) (cursor : Cursor)
    (hblocked : cursor.blocked = none) (h : IsPhrase chars)
    (hcolumn : inFlow = true ∨ indent ≤ cursor.mark.column + 1) {rest : List Char}
    (hrest : cursor.rest = chars ++ rest) :
    scan inFlow indent cursor =
      scanFrom ⟨inFlow, indent, cursor.mark, none⟩ chars.reverse .none (cursor.mark.passAll chars)
        rest := by
  rw [scan_eq _ _ _ hblocked, hrest, scanFrom_phrase rfl [] cursor.mark hcolumn h, List.append_nil]

end Plain
end Yaml
end ApiStubs
