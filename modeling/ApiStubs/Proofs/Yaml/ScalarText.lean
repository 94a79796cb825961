import ApiStubs.Proofs.Yaml.IntegerText

/-!
# Scalars that are spelt as they are shown

Plain scalars mean other values than strings only if they are spelt like them. So the text of a
scalar value is read back as this value, if it is a word at all:

* `Value.IsAtom` — null, booleans, integers of 64 bits, and names, which are words of letters and
  underscores that mean nothing else;
* `Value.IsAtom.isWord` — their texts are words;
* `Value.IsAtom.resolve` — and these words mean the values.

Names can be keys if they are short enough, and all others can be keys anyway (`Value.IsKey`).

Which of the spellings a text can be is mostly said by its first character.
-/

namespace ApiStubs

namespace Text

/-- A letter is no decimal digit, even if it is one in another base. -/
theorem digit?_of_not_isDigit {c : Char} (h : c.isDigit = false) : digit? 10 c = none := by
  have hrange : ¬ ('0' ≤ c ∧ c ≤ '9') := by
    intro hrange
    have hdigit := Char.isDigit_iff_toNat.mpr hrange
    rw [h] at hdigit
    cases hdigit
  rw [digit?, Option.filter_eq_none_iff]
  -- As a digit in base 16, it is a letter, and those are 10 and above.
  intro n hn
  rw [hexDigit?, if_neg hrange] at hn
  split at hn
  · cases hn
    simp
  · split at hn
    · cases hn
      simp
    · cases hn

/-- What starts with something else spells no number. -/
theorem natOf?_of_head {c : Char} (h : c.isDigit = false) (more : List Char) :
    natOf? 10 (c :: more) = none := by
  rw [natOf?, if_neg (by simp), List.foldlM_cons, digit?_of_not_isDigit h]
  rfl

end Text

namespace Yaml

namespace Number

/-- What starts with no digit and no sign spells no integer. -/
theorem int?_of_head {c : Char} (h : c.isDigit = false) (hminus : c ≠ '-') (hplus : c ≠ '+')
    (more : List Char) : int? (c :: more) = none := by
  -- Not starting with a digit, it is neither in a base of its own nor decimal.
  have hmagnitude : magnitude? (c :: more) = none := by
    have hzero : c ≠ '0' := by
      rintro rfl
      cases h
    simp [magnitude?, hasLeadingZero, hzero, Text.natOf?_of_head h]
  simp [int?, hminus, hplus, hmagnitude]

/-- What starts with no digit, sign or point spells no number at all. -/
theorem float?_of_head {c : Char} (h : c.isDigit = false) (hminus : c ≠ '-') (hplus : c ≠ '+')
    (hpoint : c ≠ '.') (more : List Char) : float? (c :: more) = none := by
  -- The words for infinity and for no number all start with a point.
  have hwords : ∀ words : List (List Char), (∀ word ∈ words, word.head? = some '.') →
      c :: more ∉ words := by
    intro words hwords hmem
    have hhead := hwords _ hmem
    rw [List.head?_cons, Option.some_inj] at hhead
    exact hpoint hhead
  -- The mantissa, if there is any, starts with the same character.
  have hmantissa : ∀ p : Char → Bool, Decimal.mantissa? ((c :: more).takeWhile p) = none := by
    intro p
    rw [List.takeWhile_cons]
    split
    · simp [Decimal.mantissa?, h, hpoint]
    · rfl
  have hnotation : Decimal.notation? (c :: more) = none := by
    simp [Decimal.notation?, hmantissa]
  -- Without a sign, it is a word for infinity or a decimal notation, and it is neither.
  have hunsigned : ∀ negative, unsignedFloat? negative (c :: more) = none := by
    intro negative
    simp [unsignedFloat?, hwords infinityWords (by decide), decimal?, hnotation]
  simp [float?, hminus, hplus, hwords nanWords (by decide), hunsigned]

end Number

namespace Scalar

/-- **A name means itself.** -/
theorem resolve_name {s : String} (hletters : ∀ c ∈ s.toList, Plain.isLetter c = true)
    (hnull : s ∉ nullWords) (hbool : bool? s = none) (hne : s ≠ "") :
    resolve s.toList = .ok (.string s) := by
  -- All that could take the name for something else looks at its first character, which is a
  -- letter.
  obtain ⟨c, more, htext⟩ := List.exists_cons_of_ne_nil (by simpa using hne : s.toList ≠ [])
  have hc : Plain.isLetter c = true := hletters c (htext ▸ List.mem_cons_self)
  have hdigit : c.isDigit = false := Plain.isDigit_of_isLetter hc
  have hne : ∀ d, Plain.isLetter d = false → c ≠ d := fun d => Plain.ne_of_isLetter hc
  have hint : intValue? s.toList = none := by
    rw [htext, intValue?, Number.int?_of_head hdigit (hne _ (by decide)) (hne _ (by decide))]
  have hfloat : Number.float? s.toList = none := by
    rw [htext]
    exact Number.float?_of_head hdigit (hne _ (by decide)) (hne _ (by decide)) (hne _ (by decide)) _
  have hzero : Number.hasLeadingZero (unsigned s.toList) = false := by
    rw [htext]
    simp [unsigned, Number.hasLeadingZero, hne, Plain.isLetter]
  have hempty : s.toList.isEmpty = false := by
    rw [htext]
    rfl
  have hcontains : nullWords.contains s = false := by
    simpa using hnull
  simp only [resolve, String.ofList_toList, hempty, hcontains, hbool, hint, hzero, hfloat,
    Bool.or_self, Bool.false_eq_true, if_false]

end Scalar

/-! ### Values -/

namespace Value

/-- A word of letters and underscores that means nothing else. -/
def IsName (s : String) : Prop :=
  s ≠ "" ∧ (∀ c ∈ s.toList, Plain.isLetter c = true) ∧ s ∉ Scalar.nullWords ∧ Scalar.bool? s = none

instance : DecidablePred IsName := fun s =>
  have : Decidable (∀ c ∈ s.toList, Plain.isLetter c = true) := List.decidableBAll _ _
  inferInstanceAs (Decidable (_ ∧ _))

/-- **Scalars with a plain text**: null, booleans, integers of 64 bits, and names. -/
inductive IsAtom : Value → Prop
  | null : IsAtom .null
  | bool (b : Bool) : IsAtom (.bool b)
  | int {n : Int} (hlow : -(Nat.pow 2 63 : Int) ≤ n) (hhigh : n < (Nat.pow 2 64 : Int)) :
    IsAtom (.int n)
  | name {s : String} (h : IsName s) : IsAtom (.string s)

variable {v : Value}

/-- Their texts are words. -/
theorem IsAtom.isWord (h : IsAtom v) : Plain.IsWord v.text.toList := by
  cases h with
  | null => decide
  | bool b => cases b <;> decide
  | int hlow hhigh => exact (Number.spellsInt_toString _).isWord
  | name h => exact Plain.isWord_of_isLetter h.2.1 (by simpa [text] using h.1)

/-- Their texts mean them. -/
theorem IsAtom.resolve (h : IsAtom v) : Scalar.value none v.text.toList .plain = .ok v := by
  cases h with
  | null => rfl
  | bool b => cases b <;> rfl
  | int hlow hhigh => exact Scalar.resolve_of_fits (Number.spellsInt_toString _) ⟨hlow, hhigh⟩
  | name h => exact Scalar.resolve_name h.2.1 h.2.2.1 h.2.2.2 h.1

/-- Scalars are the same as keys only if they are equal. -/
theorem IsAtom.same_eq_false {w : Value} (h : IsAtom v) (hw : IsAtom w) (hne : v ≠ w) :
    v.same w = false := by
  -- Kind by kind, since values of two kinds are never the same.
  cases h <;> cases hw <;> simp_all [same]

/-- **Scalars that can be keys** without a question mark: all but names that are too long. -/
def IsKey (v : Value) : Prop := IsAtom v ∧ ∀ s, v = .string s → s.length ≤ 1000

/-- A short name can be a key. -/
theorem IsName.isKey {s : String} (h : IsName s) (hshort : s.length ≤ 1000) :
    IsKey (.string s) := by
  refine ⟨.name h, ?_⟩
  intro t heq
  rw [← Value.string.inj heq]
  exact hshort

/-- All other texts are short anyway. -/
theorem IsKey.length_le (h : IsKey v) : v.text.toList.length ≤ 1000 := by
  obtain ⟨hatom, hname⟩ := h
  cases hatom with
  | null => decide
  | bool b => cases b <;> decide
  | @int n hlow hhigh =>
    -- An integer of 64 bits has at most 20 digits, and perhaps a sign.
    have hdigits : ∀ m : Nat, m < 10 ^ 20 → (Nat.toDigits 10 m).length ≤ 20 :=
      fun m hm => (Nat.length_toDigits_le_iff (by decide) (by decide)).mpr hm
    have hpow : Nat.pow 2 63 = 9223372036854775808 ∧ Nat.pow 2 64 = 18446744073709551616 :=
      ⟨rfl, rfl⟩
    rw [text]
    rcases Number.toList_toString n with ⟨m, rfl, htext⟩ | ⟨m, rfl, htext⟩
    · have hlength := hdigits m (by omega)
      rw [htext]
      omega
    · have hlength := hdigits m (by omega)
      rw [htext, List.length_cons]
      omega
  | name _ =>
    rw [text, String.length_toList]
    exact hname _ rfl

end Value
end Yaml
end ApiStubs
