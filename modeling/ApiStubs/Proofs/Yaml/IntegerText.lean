import ApiStubs.Proofs.Yaml.PlainScalar
import ApiStubs.Yaml.Scalar

/-!
# Spellings of integers

An integer can be spelt in four bases, with zeros in front of its digits and letters of either case
in three of them, and with a sign:

* `Number.SpellsNat` — the spellings of a number without a sign;
* `Number.SpellsInt` — those of an integer, among them the ones of zero behind a minus sign.

All of them are words (`Number.SpellsInt.isWord`), and all of them mean the integer
(`Number.SpellsInt.int?_eq`). One of 64 bits (`Number.FitsIn`) is its value
(`Scalar.resolve_of_fits`); one that is longer is none, up to 128 bits (`Scalar.resolve_of_wide`).
The text that shows an integer is one of its spellings (`Number.spellsInt_toString`), so no two
integers are shown by one text (`Number.toString_injective`).
-/

namespace ApiStubs
namespace Yaml

namespace Plain

variable {c : Char}

theorem ne_of_isDigit (h : c.isDigit = true) {d : Char} (hd : d.isDigit = false) : c ≠ d := by
  rintro rfl
  rw [h] at hd
  cases hd

theorem isPrintable_of_isDigit (h : c.isDigit = true) : IsPrintable c := by
  obtain ⟨hlow, hhigh⟩ := Char.isDigit_iff_toNat.mp h
  exact ⟨Nat.le_trans (by decide) hlow, Nat.le_trans hhigh (by decide)⟩

theorem isInner_of_isDigit (h : c.isDigit = true) : isInner c = true := by
  simp [isInner, isGap, isBlank, isBreak, isFlowIndicator, ne_of_isDigit h]

theorem startsWord_of_isDigit (h : c.isDigit = true) (more : List Char) :
    startsWord (c :: more) = true := by
  unfold startsWord
  split
  · next heq => exact absurd (List.cons_eq_cons.mp heq).1 (ne_of_isDigit h (by decide))
  · next heq =>
    obtain ⟨rfl, -⟩ := List.cons_eq_cons.mp heq
    simp [isIndicator, isFlowIndicator, ne_of_isDigit h]
  · next heq => cases heq

/-- No digit is a letter or a tilde. -/
theorem isAlpha_of_isDigit (h : c.isDigit = true) : c.isAlpha = false ∧ c ≠ '~' := by
  refine ⟨Bool.eq_false_iff.mpr fun halpha => ?_, ne_of_isDigit h (by decide)⟩
  -- The digits are told from letters by `isDigit_of_isLetter`.
  have hletter : isLetter c = true := by rw [isLetter, halpha, Bool.true_or]
  rw [isDigit_of_isLetter hletter] at h
  cases h

end Plain

namespace Number

/-! ### Digits in a base -/

/-- All that is known of a digit of either case. There are few characters that can be one. -/
theorem digit_spec {c : Char} {d : Nat} (hd : d < 16) (h : c.toLower = Nat.digitChar d) :
    Text.hexDigit? c = some d ∧ (c.isDigit || Plain.isLetter c) = true := by
  -- There are few enough of them to be tried one by one.
  have hfew : ∀ n < 128, ∀ d < 16, (Char.ofNat n).toLower = Nat.digitChar d →
      Text.hexDigit? (Char.ofNat n) = some d ∧
        ((Char.ofNat n).isDigit || Plain.isLetter (Char.ofNat n)) = true := by
    decide +kernel
  -- A capital letter is one of them, and any other character is the digit itself.
  have hlt : c.toNat < 128 := by
    unfold Char.toLower at h
    split at h
    · next hupper => exact Nat.lt_of_le_of_lt hupper.2 (by decide)
    · rw [h]
      exact (by decide : ∀ d < 16, (Nat.digitChar d).toNat < 128) d hd
  have hspec := hfew c.toNat hlt d hd
  rw [Char.ofNat_toNat] at hspec
  exact hspec h

theorem digit?_eq {c : Char} {base d : Nat} (hbase : base ≤ 16) (hd : d < base)
    (h : c.toLower = Nat.digitChar d) : Text.digit? base c = some d := by
  rw [Text.digit?, (digit_spec (Nat.lt_of_lt_of_le hd hbase) h).1, Option.filter_some,
    if_pos (decide_eq_true hd)]

variable {base m : Nat} {digits : List Char}

/-- Digits of either case add their number to what has been read. -/
theorem foldlM_digits (hlow : 1 < base) (hhigh : base ≤ 16)
    (h : digits.map Char.toLower = Nat.toDigits base m) :
    digits.foldlM (fun n c => (Text.digit? base c).map (base * n + ·)) 0 = some m := by
  -- By induction on the number, as its digits are: the last one is the remainder.
  induction m using Nat.strongRecOn generalizing digits with
  | ind m ih =>
    by_cases hm : m < base
    · rw [Nat.toDigits_of_lt_base hm] at h
      obtain ⟨c, rfl, hc⟩ := List.map_eq_singleton_iff.mp h
      rw [List.foldlM_cons, digit?_eq hhigh hm hc, Nat.mul_zero]
      show some (0 + m) = some m
      rw [Nat.zero_add]
    · -- The last digit is read after the number of the others.
      have hle : base ≤ m := Nat.le_of_not_lt hm
      rw [Nat.toDigits_of_base_le hlow hle] at h
      obtain ⟨others, last, rfl, hothers, hlast⟩ := List.map_eq_append_iff.mp h
      obtain ⟨c, rfl, hc⟩ := List.map_eq_singleton_iff.mp hlast
      have hdiv : m / base < m := Nat.div_lt_self (by omega) hlow
      rw [List.foldlM_append, ih _ hdiv hothers, Option.bind_eq_bind, Option.bind_some,
        List.foldlM_cons, digit?_eq hhigh (Nat.mod_lt m (by omega)) hc]
      show some (base * (m / base) + m % base) = some m
      rw [Nat.div_add_mod]

/-- The digits of a number are below the base. -/
theorem exists_digit_of_mem (hlow : 1 < base) {c : Char} (h : c ∈ Nat.toDigits base m) :
    ∃ d < base, c = Nat.digitChar d := by
  -- By induction on the number: a digit is the last one, or one of those before it.
  induction m using Nat.strongRecOn with
  | ind m ih =>
    by_cases hm : m < base
    · rw [Nat.toDigits_of_lt_base hm, List.mem_singleton] at h
      exact ⟨m, hm, h⟩
    · rw [Nat.toDigits_of_base_le hlow (Nat.le_of_not_lt hm), List.mem_append,
        List.mem_singleton] at h
      rcases h with h | h
      · exact ih _ (Nat.div_lt_self (by omega) hlow) h
      · exact ⟨m % base, Nat.mod_lt m (by omega), h⟩

/-- Zeros in front do not change the number. -/
theorem natOf?_zeros (hlow : 1 < base) (hhigh : base ≤ 16)
    (h : digits.map Char.toLower = Nat.toDigits base m) (zeros : Nat) :
    Text.natOf? base (List.replicate zeros '0' ++ digits) = some m := by
  have hdigits : digits ≠ [] := by
    rintro rfl
    exact Nat.toDigits_ne_nil h.symm
  -- A zero adds nothing to what has been read, which is zero as well.
  have hzero : Text.digit? base '0' = some 0 := digit?_eq hhigh (Nat.lt_of_succ_lt hlow) rfl
  rw [Text.natOf?, if_neg (by simp [hdigits]), List.foldlM_append]
  induction zeros with
  | zero => exact foldlM_digits hlow hhigh h
  | succ zeros ih =>
    rw [List.replicate_succ, List.foldlM_cons, hzero]
    exact ih

/-! ### Decimal numerals -/

/-- The digits of a positive number do not start with a zero. -/
theorem head?_toDigits {n : Nat} (h : 0 < n) : (Nat.toDigits 10 n).head? ≠ some '0' := by
  -- By induction on the number: without its last digit it starts with the same one.
  induction n using Nat.strongRecOn with
  | ind n ih =>
    by_cases hn : n < 10
    · rw [Nat.toDigits_of_lt_base hn, List.head?_cons, Ne, Option.some_inj, Nat.digitChar_eq_zero]
      omega
    · have hdiv := ih (n / 10) (by omega) (by omega)
      rw [Nat.toDigits_of_base_le (by decide) (by omega), List.head?_append]
      cases hhead : (Nat.toDigits 10 (n / 10)).head? with
      | none => simp at hhead
      | some c => rwa [hhead] at hdiv

theorem isDigit_of_mem_toDigits (n : Nat) : ∀ c ∈ Nat.toDigits 10 n, c.isDigit = true :=
  fun _ hc => Nat.isDigit_of_mem_toDigits (by decide) (by decide) hc

theorem hasLeadingZero_toDigits (n : Nat) : hasLeadingZero (Nat.toDigits 10 n) = false := by
  by_cases hn : n < 10
  · rw [Nat.toDigits_of_lt_base hn]
    rfl
  · have hhead := head?_toDigits (by omega : 0 < n)
    simp [hasLeadingZero, hhead]

/-- A numeral is read as its number. -/
theorem magnitude?_toDigits (n : Nat) : magnitude? (Nat.toDigits 10 n) = some n := by
  have hdigits := isDigit_of_mem_toDigits n
  have hsecond : ∀ c d more, Nat.toDigits 10 n = c :: d :: more → d.isDigit = true := by
    intro c d more heq
    exact hdigits d (heq ▸ by simp)
  -- There are no letters whose case could matter.
  have hsmall : (Nat.toDigits 10 n).map Char.toLower = Nat.toDigits 10 n := by
    refine (List.map_congr_left fun c hc => ?_).trans (List.map_id _)
    obtain ⟨d, hd, rfl⟩ := exists_digit_of_mem (by decide) hc
    exact (by decide : ∀ d < 10, (Nat.digitChar d).toLower = Nat.digitChar d) d hd
  unfold magnitude?
  -- The letter of a base would be the second digit.
  split
  · next heq => exact absurd (hsecond _ _ _ heq) (by decide)
  · next heq => exact absurd (hsecond _ _ _ heq) (by decide)
  · next heq => exact absurd (hsecond _ _ _ heq) (by decide)
  · rw [hasLeadingZero_toDigits, if_neg (by decide)]
    exact natOf?_zeros (by decide) (by decide) hsmall 0

/-! ### Spellings -/

/-- The bases of numerals, by the letter behind a zero. -/
def bases : List (Char × Nat) := [('x', 16), ('o', 8), ('b', 2)]

/-- **The spellings of a number**: in decimal digits, or in another base, with any zeros in front
and letters of either case. -/
inductive SpellsNat : List Char → Nat → Prop
  | decimal (m : Nat) : SpellsNat (Nat.toDigits 10 m) m
  | inBase {letter : Char} {base : Nat} (hbase : (letter, base) ∈ bases) (zeros : Nat)
      {digits : List Char} {m : Nat} (h : digits.map Char.toLower = Nat.toDigits base m) :
      SpellsNat ('0' :: letter :: (List.replicate zeros '0' ++ digits)) m

/-- **The spellings of an integer**: those of its absolute value, with a sign in front. A plus sign
can be left out. -/
inductive SpellsInt : List Char → Int → Prop
  | unsigned {chars : List Char} {m : Nat} (h : SpellsNat chars m) : SpellsInt chars m
  | plus {chars : List Char} {m : Nat} (h : SpellsNat chars m) : SpellsInt ('+' :: chars) m
  | minus {chars : List Char} {m : Nat} (h : SpellsNat chars m) : SpellsInt ('-' :: chars) (-m)

variable {chars : List Char} {n : Int}

theorem bases_spec {letter : Char} (h : (letter, base) ∈ bases) : 1 < base ∧ base ≤ 16 := by
  revert h
  simp only [bases, List.mem_cons, List.not_mem_nil, or_false, Prod.mk.injEq]
  -- There are three bases.
  rintro (⟨-, rfl⟩ | ⟨-, rfl⟩ | ⟨-, rfl⟩) <;> decide

/-- A number is read from its spellings. -/
theorem SpellsNat.magnitude?_eq (h : SpellsNat chars m) : magnitude? chars = some m := by
  cases h with
  | decimal m => exact magnitude?_toDigits m
  | inBase hbase zeros h =>
    obtain ⟨hlow, hhigh⟩ := bases_spec hbase
    have hread := natOf?_zeros hlow hhigh h zeros
    -- With its letter at hand, the reader takes the branch of this base.
    revert hbase
    simp only [bases, List.mem_cons, List.not_mem_nil, or_false, Prod.mk.injEq]
    rintro (⟨rfl, rfl⟩ | ⟨rfl, rfl⟩ | ⟨rfl, rfl⟩) <;> exact hread

/-- A spelling without a sign starts with a decimal digit, and letters and decimal digits follow. -/
theorem SpellsNat.exists_cons (h : SpellsNat chars m) :
    ∃ c more, chars = c :: more ∧ c.isDigit = true ∧
      ∀ d ∈ more, (d.isDigit || Plain.isLetter d) = true := by
  cases h with
  | decimal m =>
    have hdigits := isDigit_of_mem_toDigits m
    obtain ⟨c, more, hchars⟩ := List.exists_cons_of_ne_nil (Nat.toDigits_ne_nil (n := m) (b := 10))
    rw [hchars, List.forall_mem_cons] at hdigits
    refine ⟨c, more, hchars, hdigits.1, fun d hd => ?_⟩
    rw [hdigits.2 d hd]
    rfl
  | @inBase letter base hbase zeros digits m h =>
    obtain ⟨hlow, hhigh⟩ := bases_spec hbase
    have hletter : Plain.isLetter letter = true :=
      (by decide : ∀ b ∈ bases, Plain.isLetter b.1 = true) _ hbase
    refine ⟨'0', _, rfl, rfl, ?_⟩
    rw [List.forall_mem_cons, List.forall_mem_append]
    refine ⟨by rw [hletter, Bool.or_true], fun d hd => ?_, fun d hd => ?_⟩
    · -- The zeros in front are digits themselves.
      rw [List.eq_of_mem_replicate hd]
      rfl
    · -- A digit of either case, below the base.
      have hmem : d.toLower ∈ Nat.toDigits base m := h ▸ List.mem_map_of_mem hd
      obtain ⟨value, hvalue, hd⟩ := exists_digit_of_mem hlow hmem
      exact (digit_spec (Nat.lt_of_lt_of_le hvalue hhigh) hd).2

/-- An integer is read from its spellings. -/
theorem SpellsInt.int?_eq (h : SpellsInt chars n) : int? chars = some n := by
  cases h with
  | unsigned h =>
    have hmagnitude := h.magnitude?_eq
    -- No decimal digit is a sign.
    obtain ⟨c, more, rfl, hc, -⟩ := h.exists_cons
    have hminus : c ≠ '-' := Plain.ne_of_isDigit hc (by decide)
    have hplus : c ≠ '+' := Plain.ne_of_isDigit hc (by decide)
    simp [int?, hminus, hplus, hmagnitude]
  -- Behind a sign the reader takes what is left as it stands.
  | plus h | minus h =>
    rw [int?, h.magnitude?_eq]
    rfl

/-- No characters spell two integers. -/
theorem SpellsInt.unique {m : Int} (h : SpellsInt chars n) (h' : SpellsInt chars m) : n = m := by
  have hread := h.int?_eq
  rw [h'.int?_eq] at hread
  exact (Option.some.inj hread).symm

/-- The first character of a spelling. -/
theorem SpellsInt.exists_cons (h : SpellsInt chars n) :
    ∃ c more, chars = c :: more ∧ (c.isDigit = true ∨ c = '+' ∨ c = '-') := by
  cases h with
  | unsigned h =>
    obtain ⟨c, more, hchars, hc, -⟩ := h.exists_cons
    exact ⟨c, more, hchars, .inl hc⟩
  | plus _ => exact ⟨'+', _, rfl, .inr (.inl rfl)⟩
  | minus _ => exact ⟨'-', _, rfl, .inr (.inr rfl)⟩

/-- A numeral without a sign, or one behind a minus sign. -/
theorem toList_toString (n : Int) :
    (∃ m : Nat, n = m ∧ (toString n).toList = Nat.toDigits 10 m) ∨
      ∃ m : Nat, n = -m ∧ (toString n).toList = '-' :: Nat.toDigits 10 m := by
  cases n with
  | ofNat m => exact .inl ⟨m, rfl, Nat.toList_repr⟩
  | negSucc m =>
    refine .inr ⟨m + 1, rfl, ?_⟩
    change ("-" ++ Nat.repr (m + 1)).toList = _
    rw [String.toList_append, Nat.toList_repr]
    rfl

/-- What shows an integer spells it. -/
theorem spellsInt_toString (n : Int) : SpellsInt (toString n).toList n := by
  -- An absolute value is shown in decimal digits, with a minus sign or nothing in front of it.
  rcases toList_toString n with ⟨m, rfl, htext⟩ | ⟨m, rfl, htext⟩
  · rw [htext]
    exact .unsigned (.decimal m)
  · rw [htext]
    exact .minus (.decimal m)

/-- No two integers are shown by one text. -/
theorem toString_injective {m : Int} (h : toString n = toString m) : n = m := by
  have htext := spellsInt_toString n
  rw [h] at htext
  exact htext.unique (spellsInt_toString m)

/-- **A spelling is a word.** -/
theorem SpellsInt.isWord (h : SpellsInt chars n) : Plain.IsWord chars := by
  -- Apart from a sign, there are only digits and letters in a spelling.
  have hinner : ∀ {chars : List Char} {m : Nat}, SpellsNat chars m →
      ∀ d ∈ chars, IsPrintable d ∧ Plain.isInner d = true := by
    intro chars m h d hd
    obtain ⟨c, more, rfl, hc, hmore⟩ := h.exists_cons
    have hd : (d.isDigit || Plain.isLetter d) = true := by
      rcases List.mem_cons.mp hd with rfl | hd
      · rw [hc, Bool.true_or]
      · exact hmore d hd
    rcases Bool.or_eq_true_iff.mp hd with hd | hd
    · exact ⟨Plain.isPrintable_of_isDigit hd, Plain.isInner_of_isDigit hd⟩
    · exact ⟨Plain.isPrintable_of_isLetter hd, Plain.isInner_of_isLetter hd⟩
  cases h with
  | unsigned h =>
    refine ⟨?_, hinner h⟩
    obtain ⟨c, more, rfl, hc, -⟩ := h.exists_cons
    exact Plain.startsWord_of_isDigit hc more
  | plus h => exact ⟨rfl, List.forall_mem_cons.mpr ⟨by decide, hinner h⟩⟩
  | minus h =>
    refine ⟨?_, List.forall_mem_cons.mpr ⟨by decide, hinner h⟩⟩
    obtain ⟨c, more, rfl, hc, -⟩ := h.exists_cons
    simp [Plain.startsWord, Plain.ne_of_isDigit hc]

/-- Whether an integer can be written with so many bits, one of which may be for a sign. -/
def FitsIn (bits : Nat) (n : Int) : Prop :=
  -(Nat.pow 2 (bits - 1) : Int) ≤ n ∧ n < (Nat.pow 2 bits : Int)

instance (bits : Nat) (n : Int) : Decidable (FitsIn bits n) :=
  inferInstanceAs (Decidable (_ ∧ _))

end Number

namespace Scalar

open Number (FitsIn SpellsInt)

variable {chars : List Char} {n : Int}

/-- All words that mean null or a boolean start with a letter or a tilde. -/
theorem resolve_of_head {c : Char} (halpha : c.isAlpha = false) (htilde : c ≠ '~')
    (more : List Char) :
    nullWords.contains (String.ofList (c :: more)) = false ∧
      bool? (String.ofList (c :: more)) = none := by
  -- All lists of such words are searched in the same way.
  have hwords : ∀ words : List String,
      (∀ word ∈ words, word.toList.head?.any (fun d => d.isAlpha || d == '~') = true) →
        words.contains (String.ofList (c :: more)) = false := by
    intro words hwords
    rw [List.contains_eq_mem, decide_eq_false_iff_not]
    intro hmem
    have hhead := hwords _ hmem
    simp [halpha, htilde] at hhead
  refine ⟨hwords _ (by decide), ?_⟩
  rw [bool?, hwords _ (by decide), hwords _ (by decide)]
  rfl

theorem fits_iff (bits : Nat) : fits bits n = true ↔ FitsIn (bits + 1) n := by
  rw [fits, Bool.and_eq_true, decide_eq_true_eq, decide_eq_true_eq, FitsIn, Nat.add_sub_cancel]

/-- A spelling of an integer means what the integer is. -/
theorem resolve_of_spells (h : SpellsInt chars n) {result : Except ScalarFault Value}
    (hresult : intValue? chars = some result) : resolve chars = result := by
  -- Neither a digit nor a sign can start a word that means something else.
  obtain ⟨c, more, rfl, hc⟩ := h.exists_cons
  have hhead : c.isAlpha = false ∧ c ≠ '~' := by
    rcases hc with hc | rfl | rfl
    · exact Plain.isAlpha_of_isDigit hc
    · decide
    · decide
  obtain ⟨hnull, hbool⟩ := resolve_of_head hhead.1 hhead.2 more
  simp only [resolve, List.isEmpty_cons, hnull, hbool, hresult, Bool.or_self, Bool.false_eq_true,
    if_false]

/-- **An integer of 64 bits** is the value of all its spellings. -/
theorem resolve_of_fits (h : SpellsInt chars n) (hfits : FitsIn 64 n) :
    resolve chars = .ok (.int n) := by
  have hshort : fits 63 n = true := (fits_iff 63).mpr hfits
  refine resolve_of_spells h ?_
  rw [intValue?, h.int?_eq]
  simp only [hshort, if_true]

/-- **A longer integer** is refused, however it is spelt. -/
theorem resolve_of_wide (h : SpellsInt chars n) (hfits : FitsIn 128 n) (hwide : ¬ FitsIn 64 n) :
    resolve chars = .error (.wideInteger n) := by
  have hlong : fits 63 n = false := by
    rw [Bool.eq_false_iff, ne_eq, fits_iff]
    exact hwide
  have hbounded : fits 127 n = true := (fits_iff 127).mpr hfits
  refine resolve_of_spells h ?_
  rw [intValue?, h.int?_eq]
  simp only [hlong, hbounded, if_true, Bool.false_eq_true, if_false]

end Scalar
end Yaml
end ApiStubs
