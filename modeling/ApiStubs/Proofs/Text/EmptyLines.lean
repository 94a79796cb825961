import Mathlib.Data.List.Infix

/-!
# Empty lines

Two line feeds in a row end a line and then an empty one. `Text.paragraphs` cuts a text at
every such pair, from left to right, so that of three line feeds the first two are taken.

* `Text.HasEmptyLine text` — two line feeds in a row stand somewhere in the text;
* `Text.Tidy text` — they do not, nor is a line feed at the end, so that what follows on a
  line of its own leaves no empty line before it.

Texts joined by pairs of line feeds are cut apart again if and only if none of them has an
empty line, provided that none ends in a line feed (`Text.splitParagraphs_intercalate_iff`).
Texts joined by single line feeds make a tidy text if and only if each of them is tidy,
provided that none starts with a line feed (`Text.tidy_intercalate_iff`).
-/

namespace ApiStubs
namespace Text

/-! ### Two line feeds in a row -/

/-- Whether two line feeds in a row stand somewhere in a text. -/
def HasEmptyLine (text : List Char) : Prop := ['\n', '\n'] <:+: text

instance (text : List Char) : Decidable (HasEmptyLine text) :=
  inferInstanceAs (Decidable (_ <:+: _))

/-- Whether a text has no empty line, and does not end in a line feed. -/
def Tidy (text : List Char) : Prop := ¬ HasEmptyLine text ∧ text.getLast? ≠ some '\n'

instance (text : List Char) : Decidable (Tidy text) := inferInstanceAs (Decidable (_ ∧ _))

variable {a b : List Char}

theorem hasEmptyLine_cons (c : Char) (text : List Char) :
    HasEmptyLine (c :: text) ↔ (c = '\n' ∧ text.head? = some '\n') ∨ HasEmptyLine text := by
  rw [HasEmptyLine, List.infix_cons_iff, List.cons_prefix_cons,
    List.singleton_prefix_iff_head?_eq_some, eq_comm (b := c)]
  rfl

theorem not_hasEmptyLine_nil : ¬ HasEmptyLine [] := by
  decide

/-- An empty line of two joined texts lies in one of them, or between them. -/
theorem hasEmptyLine_append :
    HasEmptyLine (a ++ b) ↔
      HasEmptyLine a ∨ HasEmptyLine b ∨ (a.getLast? = some '\n' ∧ b.head? = some '\n') := by
  -- By induction on the first text, of which a character meets the second one if it is the last.
  induction a with
  | nil => simp [not_hasEmptyLine_nil]
  | cons c a ih =>
    rw [List.cons_append, hasEmptyLine_cons, hasEmptyLine_cons, ih]
    cases a with
    | nil =>
      simp only [List.nil_append, List.head?_nil, List.getLast?_nil, List.getLast?_singleton,
        not_hasEmptyLine_nil, reduceCtorEq, Option.some.injEq]
      tauto
    | cons d a =>
      simp only [List.cons_append, List.head?_cons, List.getLast?_cons_cons, Option.some.injEq]
      tauto

/-- After a tidy text, only what follows matters. -/
theorem hasEmptyLine_append_of_tidy (ha : Tidy a) : HasEmptyLine (a ++ b) ↔ HasEmptyLine b := by
  obtain ⟨hempty, hlast⟩ := ha
  rw [hasEmptyLine_append]
  tauto

/-- Before a text that starts with no line feed, only that it has no empty line matters. -/
theorem hasEmptyLine_append_of_head (hb : b.head? ≠ some '\n') :
    HasEmptyLine (a ++ b) ↔ HasEmptyLine a ∨ HasEmptyLine b := by
  rw [hasEmptyLine_append]
  tauto

theorem tidy_nil : Tidy [] := by
  decide

theorem tidy_append_of_tidy (ha : Tidy a) : Tidy (a ++ b) ↔ Tidy b := by
  rw [Tidy, hasEmptyLine_append_of_tidy ha, List.getLast?_append, Tidy]
  -- If nothing follows, the end is that of the tidy text.
  cases hb : b.getLast? with
  | none => simp [ha.2]
  | some c => simp

/-- A text of one line is tidy. -/
theorem tidy_of_not_mem (h : '\n' ∉ a) : Tidy a :=
  ⟨fun hempty => h (hempty.subset List.mem_cons_self),
    fun hlast => h (List.mem_of_getLast? hlast)⟩

/-- A text has a last character after the first one, or no other. -/
theorem tidy_cons_iff (c : Char) :
    Tidy (c :: a) ↔ ¬ (c = '\n' ∧ (a = [] ∨ a.head? = some '\n')) ∧ Tidy a := by
  rw [Tidy, hasEmptyLine_cons]
  cases a with
  | nil => simp [Tidy, not_hasEmptyLine_nil]
  | cons d a =>
    rw [List.getLast?_cons_cons, Tidy]
    simp only [reduceCtorEq, false_or]
    tauto

/-- What stands before a character within a line only must have no empty line. -/
theorem tidy_append_cons {c : Char} (hc : c ≠ '\n') :
    Tidy (a ++ c :: b) ↔ ¬ HasEmptyLine a ∧ Tidy b := by
  have hhead : (c :: b).head? ≠ some '\n' := by simpa using hc
  have hcons : Tidy (c :: b) ↔ Tidy b := by
    rw [tidy_cons_iff]
    tauto
  -- The two line feeds cannot lie on both sides of a character that is none.
  rw [← hcons, Tidy, hasEmptyLine_append_of_head hhead, List.getLast?_append, Tidy]
  obtain ⟨d, hlast⟩ : ∃ d, (c :: b).getLast? = some d :=
    ⟨_, List.getLast?_eq_some_getLast (List.cons_ne_nil c b)⟩
  rw [hlast, Option.some_or]
  tauto

/-! ### Texts that are joined -/

/-- A joined text ends as the last one does. -/
theorem exists_intercalate_concat {α : Type} (separator last : List α) (texts : List (List α)) :
    ∃ before, separator.intercalate (texts ++ [last]) = before ++ last := by
  -- By induction on the texts in front, each of which comes with a separator.
  induction texts with
  | nil => exact ⟨[], by simp⟩
  | cons first texts ih =>
    obtain ⟨before, hbefore⟩ := ih
    refine ⟨first ++ separator ++ before, ?_⟩
    rw [List.cons_append, List.intercalate_cons_of_ne_nil (by simp), hbefore]
    simp only [List.append_assoc]

/-- Names with commas between them have an empty line only where one of them has. -/
theorem hasEmptyLine_intercalate_comma (names : List (List Char)) :
    HasEmptyLine ([',', ' '].intercalate names) ↔ ∃ name ∈ names, HasEmptyLine name := by
  induction names with
  | nil => simp [not_hasEmptyLine_nil]
  | cons first names ih =>
    cases names with
    | nil => simp
    | cons second names =>
      -- A comma is no line feed, and the space behind it keeps line feeds of two names apart.
      have hseparator : ([',', ' '] ++ [',', ' '].intercalate (second :: names)).head? ≠
          some '\n' := by simp
      rw [List.intercalate_cons_cons, List.append_assoc, hasEmptyLine_append_of_head hseparator,
        hasEmptyLine_append_of_tidy (by decide), ih]
      simp only [List.mem_cons, exists_eq_or_imp]

/-- Whether a text starts on its first line. -/
def StartsVisibly (text : List Char) : Prop := ∃ c more, text = c :: more ∧ c ≠ '\n'

theorem StartsVisibly.append (h : StartsVisibly a) (b : List Char) : StartsVisibly (a ++ b) := by
  obtain ⟨c, more, rfl, hc⟩ := h
  exact ⟨c, more ++ b, rfl, hc⟩

/-- **Lines and tidiness.** Texts one below the other are tidy together if each of them is,
and only then, as long as none starts with a line feed. -/
theorem tidy_intercalate_iff {texts : List (List Char)} (h : ∀ text ∈ texts, StartsVisibly text) :
    Tidy (['\n'].intercalate texts) ↔ ∀ text ∈ texts, Tidy text := by
  induction texts with
  | nil => simp [tidy_nil]
  | cons first texts ih =>
    rw [List.forall_mem_cons] at h ⊢
    rw [← ih h.2]
    cases texts with
    | nil => simp [tidy_nil]
    | cons second texts =>
      -- The line feed before the second text is the only one there.
      obtain ⟨c, more, rfl, hc⟩ := h.2 second List.mem_cons_self
      obtain ⟨rest, hrest⟩ : ∃ rest, ['\n'].intercalate ((c :: more) :: texts) = c :: rest := by
        rw [List.intercalate_cons_cons_left]
        exact ⟨_, rfl⟩
      have hhead : (c :: rest).head? ≠ some '\n' := by simpa using hc
      rw [List.intercalate_cons_cons, hrest, Tidy, Tidy, Tidy, List.append_assoc,
        List.singleton_append, hasEmptyLine_append, hasEmptyLine_cons '\n',
        List.getLast?_append, List.getLast?_cons_cons]
      -- There is a last character, and it is the same with the separator in front.
      obtain ⟨d, hlast⟩ : ∃ d, (c :: rest).getLast? = some d :=
        ⟨_, List.getLast?_eq_some_getLast (List.cons_ne_nil c rest)⟩
      rw [hlast, Option.some_or, List.head?_cons]
      tauto

/-! ### Cutting at empty lines -/

/-- Cuts at every two line feeds in a row, from left to right. The result is never empty. -/
def splitParagraphs : List Char → List (List Char)
  | [] => [[]]
  | '\n' :: '\n' :: rest => [] :: splitParagraphs rest
  | c :: rest => (splitParagraphs rest).modifyHead (c :: ·)

/-- The paragraphs of a string. -/
def paragraphs (text : String) : List String :=
  (splitParagraphs text.toList).map String.ofList

theorem splitParagraphs_cons {c : Char} {rest : List Char}
    (h : ¬ (c = '\n' ∧ rest.head? = some '\n')) :
    splitParagraphs (c :: rest) = (splitParagraphs rest).modifyHead (c :: ·) := by
  rw [splitParagraphs]
  rintro rest' rfl rfl
  exact h ⟨rfl, rfl⟩

/-- The first paragraph starts the text. -/
theorem splitParagraphs_prefix (text : List Char) :
    ∃ first others, splitParagraphs text = first :: others ∧ first <+: text := by
  -- Cut after cut, a first paragraph is empty, or grows at its front.
  fun_induction splitParagraphs text with
  | case1 => exact ⟨[], [], rfl, List.prefix_rfl⟩
  | case2 rest ih => exact ⟨[], _, rfl, List.nil_prefix⟩
  | case3 c rest h ih =>
    obtain ⟨first, others, heq, hprefix⟩ := ih
    rw [heq]
    exact ⟨c :: first, others, rfl, List.cons_prefix_cons.mpr ⟨rfl, hprefix⟩⟩

/-- **Paragraphs have no empty lines.** -/
theorem not_hasEmptyLine_of_mem (text : List Char) :
    ∀ piece ∈ splitParagraphs text, ¬ HasEmptyLine piece := by
  -- By induction along the cuts: only a paragraph that gets one more character needs an argument.
  fun_induction splitParagraphs text with
  | case1 => simp [not_hasEmptyLine_nil]
  | case2 rest ih => exact List.forall_mem_cons.mpr ⟨not_hasEmptyLine_nil, ih⟩
  | case3 c rest hpair ih =>
    obtain ⟨first, others, heq, hprefix⟩ := splitParagraphs_prefix rest
    rw [heq, List.forall_mem_cons] at ih
    rw [heq, List.modifyHead_cons, List.forall_mem_cons]
    refine ⟨?_, ih.2⟩
    rw [hasEmptyLine_cons]
    rintro (⟨rfl, hhead⟩ | hempty)
    · -- The second of two line feeds would start the rest of the text.
      obtain ⟨more, rfl⟩ : ∃ more, first = '\n' :: more := by
        cases first with
        | nil => cases hhead
        | cons d more => cases hhead; exact ⟨more, rfl⟩
      obtain ⟨after, rfl⟩ := hprefix
      exact hpair _ rfl rfl
    · exact ih.1 hempty

/-- A tidy text before an empty line is the first paragraph. -/
theorem splitParagraphs_append (h : Tidy a) (rest : List Char) :
    splitParagraphs (a ++ '\n' :: '\n' :: rest) = a :: splitParagraphs rest := by
  -- By induction on the text in front, whose characters are passed without a cut.
  induction a with
  | nil => rw [List.nil_append, splitParagraphs]
  | cons c a ih =>
    rw [tidy_cons_iff] at h
    -- The pair that is cut at cannot begin in the text, nor with its last character.
    have hpair : ¬ (c = '\n' ∧ (a ++ '\n' :: '\n' :: rest).head? = some '\n') := by
      cases a with
      | nil => simpa using h.1
      | cons d a => simpa using h.1
    rw [List.cons_append, splitParagraphs_cons hpair, ih h.2, List.modifyHead_cons]

/-- A text without empty lines is one paragraph. -/
theorem splitParagraphs_eq_singleton (h : ¬ HasEmptyLine a) : splitParagraphs a = [a] := by
  induction a with
  | nil => rfl
  | cons c a ih =>
    rw [hasEmptyLine_cons, not_or] at h
    rw [splitParagraphs_cons h.1, ih h.2, List.modifyHead_cons]

/-- **Cutting apart what was joined.** Texts that do not end in line feeds come back if and
only if none of them has an empty line. -/
theorem splitParagraphs_intercalate_iff {texts : List (List Char)} (hne : texts ≠ [])
    (h : ∀ text ∈ texts, text.getLast? ≠ some '\n') :
    splitParagraphs (['\n', '\n'].intercalate texts) = texts ↔
      ∀ text ∈ texts, ¬ HasEmptyLine text := by
  constructor
  -- Paragraphs have no empty line, and these texts are the paragraphs.
  · intro heq text htext
    rw [← heq] at htext
    exact not_hasEmptyLine_of_mem _ text htext
  · intro hempty
    -- Each text but the last is tidy, so it is cut off as the first paragraph.
    induction texts with
    | nil => exact absurd rfl hne
    | cons first texts ih =>
      rw [List.forall_mem_cons] at h hempty
      cases texts with
      | nil => rw [List.intercalate_singleton, splitParagraphs_eq_singleton hempty.1]
      | cons second texts =>
        rw [List.intercalate_cons_cons, List.append_assoc, List.cons_append, List.singleton_append,
          splitParagraphs_append ⟨hempty.1, h.1⟩, ih (List.cons_ne_nil _ _) h.2 hempty.2]

end Text
end ApiStubs
