import ApiStubs.Proofs.Yaml.Source
import ApiStubs.Writing
import ApiStubs.Yaml.Token.Quoted

/-!
# Quoted texts are scanned back

`Writing.quoted` puts a text between double quotes so that every character either stands
for itself or is spelt by its code. The scanner for quoted scalars gives the text back:

* `Quoted.scan_quoted` — the text, with the place exactly behind the closing quote;
* `Quoted.scanFrom_quoted` — the same inside the quotes, with blanks still pending.

The one thing that the scanner keeps besides the text is the `Gap` since the last word.
Nothing that `Writing.quoted` writes breaks a line, so that gap only ever holds blanks
(`Gap.ofBlanks`), and pending blanks and the text before them can be taken together.
-/

namespace ApiStubs
namespace Yaml

namespace Gap

/-- Blanks on one line, the last one first. -/
def ofBlanks (blanks : List Char) : Gap := ⟨blanks, false, Option.none, []⟩

@[simp] theorem text_ofBlanks (blanks : List Char) : (ofBlanks blanks).text = blanks := rfl

end Gap

namespace Quoted

open ApiStubs.Writing (hexDigits quotedChar isBare quoted)

/-! ### Codes of characters -/

theorem hexDigit_digitChar : ∀ n < 16, Text.hexDigit? (Nat.digitChar n) = some n := by
  decide

theorem hexDigits_length (count n : Nat) : (hexDigits count n).length = count := by
  induction count generalizing n with
  | zero => rfl
  | succ count ih => rw [hexDigits, List.length_append, ih]; rfl

/-- The digits that are written for a number spell its last `count` digits. -/
theorem hexNumber_hexDigits (count n : Nat) :
    hexNumber? (hexDigits count n) = some (n % Nat.pow 16 count) := by
  -- By induction on the digits, of which the last one is the number modulo 16.
  induction count generalizing n with
  | zero => simp [hexDigits, hexNumber?, Nat.mod_one]
  | succ count ih =>
    have hdigit := hexDigit_digitChar (n % 16) (Nat.mod_lt n (by decide))
    have hfirst := ih (n / 16)
    unfold hexNumber? at hfirst ⊢
    rw [hexDigits, List.foldlM_append, hfirst]
    simp only [List.foldlM_cons, List.foldlM_nil, hdigit, Option.map_some, bind, pure,
      Option.bind_some]
    have hpow : Nat.pow 16 (count + 1) = 16 * Nat.pow 16 count := Nat.mul_comm _ 16
    rw [hpow, Nat.mod_mul]
    congr 1
    omega

theorem charOf_toNat (c : Char) : Text.charOf? c.toNat = some c := by
  have hvalid : c.toNat.isValidChar := c.valid
  rw [Text.charOf?, dif_pos hvalid]
  rfl

theorem toNat_lt_pow (c : Char) : c.toNat < Nat.pow 16 8 := by
  have hpow : Nat.pow 16 8 = 4294967296 := rfl
  have hvalid : c.toNat.isValidChar := c.valid
  -- Code points end long before eight hexadecimal digits do.
  rcases hvalid with h | ⟨-, h⟩ <;> omega

/-! ### Pieces -/

/-- A bare character is visible ASCII and has no meaning of its own inside quotes. -/
theorem bounds_of_isBare {c : Char} (h : isBare c = true) :
    0x20 ≤ c.toNat ∧ c.toNat ≤ 0x7E ∧ c ≠ '"' ∧ c ≠ '\\' := by
  simp only [isBare, Bool.and_eq_true, decide_eq_true_eq, bne_iff_ne] at h
  exact ⟨h.1.1.1, h.1.1.2, h.1.2, h.2⟩

/-- An ASCII character that is visible breaks no line. -/
theorem isBreak_eq_false {c : Char} (hlow : 0x20 ≤ c.toNat) (hhigh : c.toNat ≤ 0x7E) :
    isBreak c = false := by
  -- All breaks are outside of the visible range.
  have hne : ∀ d : Char, d.toNat < 0x20 ∨ 0x7E < d.toNat → (c == d) = false := by
    intro d hd
    rw [beq_eq_false_iff_ne]
    rintro rfl
    omega
  simp [isBreak, hne]

theorem pieceAt_word {c : Char} {mark : Mark} (since : Mark) (inGap : Bool) (after : List Char)
    (hblank : isBlank c = false) (hbreak : isBreak c = false) (hcolumn : 0 < mark.column) :
    pieceAt true since mark none inGap c after = wordAt true since mark none c after := by
  -- A document indicator would have to start at the first column.
  have hstart : ¬ (mark.column = 0 ∧ atDocumentIndicator (c :: after) = true) := by omega
  simp only [pieceAt, hblank, hbreak, need_none, Bool.false_eq_true, if_false, if_neg hstart]
  rfl

/-- The code that stands for a character is read back as that character. -/
theorem codeAt_hexDigits (since mark : Mark) (c : Char) (rest : List Char) :
    codeAt 8 since mark none (hexDigits 8 c.toNat ++ rest) = .ok (.char c 9) := by
  have htake : (hexDigits 8 c.toNat ++ rest).take 8 = hexDigits 8 c.toNat :=
    List.take_left' (hexDigits_length 8 c.toNat)
  have hnumber : hexNumber? (hexDigits 8 c.toNat) = some c.toNat := by
    rw [hexNumber_hexDigits, Nat.mod_eq_of_lt (toNat_lt_pow c)]
  -- There are as many digits as are asked for, and their number is the code of the character.
  have hlength : ¬ (hexDigits 8 c.toNat).length < 8 := by rw [hexDigits_length]; omega
  simp only [codeAt, need_none, htake, if_neg hlength, hnumber, charOf_toNat]
  rfl

/-- A quoted character other than a space is one piece, and no more than that. -/
theorem pieceAt_quotedChar {c : Char} (hspace : c ≠ ' ') {mark : Mark} (since : Mark)
    (inGap : Bool) (rest : List Char) (hcolumn : 0 < mark.column) :
    ∃ first more, quotedChar c = first :: more ∧
      pieceAt true since mark none inGap first (more ++ rest) = .ok (.char c more.length) := by
  -- A bare character stands for itself; another one is a backslash, a `U` and eight digits.
  by_cases hbare : isBare c = true
  · obtain ⟨hlow, hhigh, hquote, hescape⟩ := bounds_of_isBare hbare
    have htab : c ≠ '\t' := by rintro rfl; revert hlow; decide
    refine ⟨c, [], by rw [quotedChar, if_pos hbare], ?_⟩
    rw [pieceAt_word since inGap _ (by simp [isBlank, hspace, htab])
      (isBreak_eq_false hlow hhigh) hcolumn]
    simp [wordAt, hquote, hescape]
  · refine ⟨'\\', 'U' :: hexDigits 8 c.toNat, by rw [quotedChar, if_neg hbare], ?_⟩
    rw [pieceAt_word since inGap _ (by decide) (by decide) hcolumn]
    change codeAt 8 since (mark.passAll ['\\', 'U']) none (hexDigits 8 c.toNat ++ rest) = _
    rw [codeAt_hexDigits, List.length_cons, hexDigits_length]

/-! ### Visible characters -/

theorem isPrintable_digitChar : ∀ n < 16, IsPrintable (Nat.digitChar n) := by
  decide

theorem isPrintable_hexDigits (count n : Nat) : ∀ c ∈ hexDigits count n, IsPrintable c := by
  induction count generalizing n with
  | zero => exact fun c hc => nomatch hc
  | succ count ih =>
    rw [hexDigits, List.forall_mem_append, List.forall_mem_singleton]
    exact ⟨ih (n / 16), isPrintable_digitChar _ (Nat.mod_lt n (by decide))⟩

theorem isPrintable_quoted (text : String) :
    ∀ c ∈ (Writing.quoted text).toList, IsPrintable c := by
  rw [Writing.quoted, String.toList_ofList, List.cons_append, List.forall_mem_cons,
    List.forall_mem_append, List.forall_mem_singleton]
  refine ⟨by decide, fun c hc => ?_, by decide⟩
  obtain ⟨d, -, hc⟩ := List.mem_flatMap.mp hc
  -- A bare character is printable itself; another one is written as its code.
  by_cases hbare : isBare d = true
  · rw [quotedChar, if_pos hbare, List.mem_singleton] at hc
    obtain ⟨hlow, hhigh, -⟩ := bounds_of_isBare hbare
    exact hc ▸ ⟨hlow, hhigh⟩
  · rw [quotedChar, if_neg hbare, List.mem_cons, List.mem_cons] at hc
    rcases hc with rfl | rfl | hc
    · decide
    · decide
    · exact isPrintable_hexDigits 8 d.toNat c hc

/-! ### Whole texts -/

/-- What is quoted is scanned up to the closing quote. Pending blanks come before it, and
what has been taken before those. -/
theorem scanFrom_quoted (since : Mark) (text taken blanks rest : List Char) (mark : Mark)
    (hcolumn : 0 < mark.column) :
    scanFrom true since none taken (.ofBlanks blanks) mark
        (text.flatMap quotedChar ++ '"' :: rest) =
      .ok ((blanks ++ taken).reverse ++ text,
        ⟨mark.passAll (text.flatMap quotedChar ++ ['"']), rest, none⟩) := by
  -- By induction on the text; the pending blanks are those that have been passed since the last
  -- word.
  induction text generalizing taken blanks mark with
  | nil =>
    -- No character is left, so the closing quote is next.
    have hclose : pieceAt true since mark none (Gap.ofBlanks blanks).isOpen '"' rest =
        .ok .close := by
      rw [pieceAt_word since _ _ (by decide) (by decide) hcolumn]
      rfl
    rw [List.flatMap_nil, List.nil_append, scanFrom, hclose]
    simp
  | cons c text ih =>
    rw [List.flatMap_cons, List.append_assoc, List.append_assoc, Mark.passAll_append]
    by_cases hspace : c = ' '
    · -- A space is pending until the next word or the closing quote.
      subst hspace
      have hnext := ih taken (' ' :: blanks) (mark.pass ' ') (Nat.succ_pos _)
      rw [show quotedChar ' ' = [' '] from rfl, List.singleton_append, scanFrom]
      change scanFrom true since none taken (.ofBlanks (' ' :: blanks)) (mark.pass ' ') _ = _
      rw [hnext]
      simp
    · -- Any other character is taken at once, with the blanks that were pending.
      obtain ⟨first, more, hchars, hpiece⟩ := pieceAt_quotedChar hspace since
        (Gap.ofBlanks blanks).isOpen (text.flatMap quotedChar ++ '"' :: rest) hcolumn
      have hnext := ih (c :: (blanks ++ taken)) [] (mark.passAll (quotedChar c))
        (by rw [Mark.passAll_column]; omega)
      rw [hchars, List.cons_append, scanFrom, hpiece]
      simp only [List.take_left, List.drop_left, ← hchars, Gap.text_ofBlanks]
      change scanFrom true since none _ (.ofBlanks []) _ _ = _
      rw [hnext]
      simp

/-- **Quoted texts are scanned back.** A scalar between double quotes gives the text that
was quoted, wherever on a line it stands and whatever follows it. -/
theorem scan_quoted (text : String) (c : Cursor) (rest : List Char)
    (hblocked : c.blocked = none) (hrest : c.rest = (quoted text).toList ++ rest) :
    scan true c =
      .ok (text.toList, ⟨c.mark.passAll (quoted text).toList, rest, none⟩) := by
  have hchars : (quoted text).toList = '"' :: (text.toList.flatMap quotedChar ++ ['"']) := by
    rw [quoted, String.toList_ofList, List.cons_append]
  -- Behind the opening quote, no blanks are pending and nothing has been taken.
  have hinside : c.skip 1 =
      ⟨c.mark.pass '"', text.toList.flatMap quotedChar ++ '"' :: rest, none⟩ := by
    rw [Cursor.skip, hrest, hchars, hblocked]
    simp
  rw [scan, hinside, hblocked, hchars]
  change scanFrom true c.mark none [] (.ofBlanks []) (c.mark.pass '"') _ = _
  rw [scanFrom_quoted _ _ _ _ _ _ (Nat.succ_pos _)]
  rfl

end Quoted
end Yaml
end ApiStubs
