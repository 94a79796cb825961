import ApiStubs.Yaml.Source

/-!
# Texts that can be read

A text without control characters is read as it stands, however its bytes fall into
chunks (`Source.ofString_of_allowed`). On one line, a place is the sum of what has been
passed (`Mark.passAll_append`, `Mark.passAll_column`), and the line stays the same
(`Mark.passAll_line`).
-/

namespace ApiStubs
namespace Yaml

namespace Mark

@[simp] theorem passAll_nil (m : Mark) : m.passAll [] = m := rfl

@[simp] theorem passAll_cons (m : Mark) (c : Char) (cs : List Char) :
    m.passAll (c :: cs) = (m.pass c).passAll cs := rfl

/-- Where all characters are one byte long, bytes are counted like characters. -/
theorem passAll_offset (m : Mark) {cs : List Char} (h : ∀ c ∈ cs, c.utf8Size = 1) :
    (m.passAll cs).offset = m.offset + cs.length := by
  -- By induction on the characters, for any mark to start from.
  induction cs generalizing m with
  | nil => rfl
  | cons c cs ih =>
    rw [List.forall_mem_cons] at h
    rw [passAll_cons, ih _ h.2, List.length_cons]
    change m.offset + c.utf8Size + cs.length = _
    rw [h.1]
    omega

theorem passAll_append (m : Mark) (cs ds : List Char) :
    m.passAll (cs ++ ds) = (m.passAll cs).passAll ds :=
  List.foldl_append

@[simp] theorem passAll_column (m : Mark) (cs : List Char) :
    (m.passAll cs).column = m.column + cs.length := by
  induction cs generalizing m with
  | nil => rfl
  | cons c cs ih =>
    rw [passAll_cons, ih, List.length_cons]
    change m.column + 1 + cs.length = _
    omega

@[simp] theorem passAll_line (m : Mark) (cs : List Char) : (m.passAll cs).line = m.line := by
  induction cs generalizing m with
  | nil => rfl
  | cons c cs ih =>
    rw [passAll_cons, ih]
    rfl

/-- Spaces at the start of a line are counted by its columns. -/
theorem nextLine_spaces_column (m : Mark) (n : Nat) :
    ((m.nextLine '\n' 0).passAll (List.replicate n ' ')).column = n := by
  rw [passAll_column, List.length_replicate]
  exact Nat.zero_add n

end Mark

/-- A line feed is a line break of one character. -/
theorem breakTail_lineFeed (rest : List Char) : breakTail '\n' rest = 0 := by
  unfold breakTail
  split <;> rfl

/-- A line feed, and the spaces before a column. -/
def lineTo (column : Nat) : List Char := '\n' :: List.replicate column ' '

/-! ### Visible characters -/

/-- Whether a character is visible ASCII or a space. -/
def IsPrintable (c : Char) : Prop := 0x20 ≤ c.toNat ∧ c.toNat ≤ 0x7E

instance (c : Char) : Decidable (IsPrintable c) := inferInstanceAs (Decidable (_ ∧ _))

theorem isAllowed_of_isPrintable {c : Char} (h : IsPrintable c) : isAllowed c = true := by
  simp [isAllowed, h.1, h.2]

theorem utf8Size_of_isPrintable {c : Char} (h : IsPrintable c) : c.utf8Size = 1 := by
  rw [Char.utf8Size_eq_one_iff, UInt32.le_iff_toNat_le]
  exact Nat.le_trans h.2 (by decide)

namespace Source

/-- Characters that are allowed are all read, wherever a chunk ends among them. -/
theorem gather_of_allowed (offset room : Nat) (done held : List Char) {cs : List Char}
    (h : ∀ c ∈ cs, isAllowed c = true) :
    gather offset room done held cs = ⟨(held ++ done).reverse ++ cs, none⟩ := by
  -- By induction on the characters, for any chunk that has been begun and any that have been read.
  induction cs generalizing offset room done held with
  | nil => simp [gather]
  | cons c cs ih =>
    have hc : isAllowed c = true := h c List.mem_cons_self
    have hcs : ∀ d ∈ cs, isAllowed d = true := fun d hd => h d (List.mem_cons_of_mem c hd)
    simp only [gather, hc, if_true]
    -- The chunk is full with this character, or it has room for more.
    split
    · rw [ih _ _ _ _ hcs]
      simp
    · rw [ih _ _ _ _ hcs]
      simp

/-- A text of allowed characters is read as it stands. -/
theorem ofString_of_allowed {text : String} (h : ∀ c ∈ text.toList, isAllowed c = true) :
    ofString text = ⟨text.toList, none⟩ := by
  rw [ofString, gather_of_allowed _ _ _ _ h]
  rfl

end Source
end Yaml
end ApiStubs
