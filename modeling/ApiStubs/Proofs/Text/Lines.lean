import ApiStubs.Text.Lines
import Mathlib.Data.List.DropRight

/-!
# Lines and the texts that they make

Cutting a text into lines and joining lines undo each other:

* `Text.intercalate_splitLines` — the lines of a text, joined, are the text;
* `Text.splitLines_intercalate` — lines that are joined are cut apart again;
* `Text.intercalate_flatten` — lines can be joined in groups first.

`Text.dropTrailing` takes one character from the end of a text, and no other:

* `Text.exists_eq_dropTrailing_append` — what it takes are repetitions of the character;
* `Text.getLast?_dropTrailing` — what it leaves ends otherwise;
* `Text.dropTrailing_eq_iff` — it leaves the same of two texts if they differ in these only.
-/

namespace ApiStubs
namespace Text

/-- Lines are cut as lists are split. -/
theorem splitLines_eq_splitOn (text : List Char) : splitLines text = text.splitOn '\n' := by
  -- Both go by the first character, and a line feed is where they start a line.
  induction text with
  | nil => rfl
  | cons c text ih =>
    rw [splitLines, List.splitOn_cons_eq_if_modifyHead, ih]
    by_cases hc : c = '\n'
    · simp [hc]
    · rw [if_neg hc, if_neg (by simpa using hc)]
      cases hlines : text.splitOn '\n' with
      | nil => exact absurd hlines (List.splitOn_ne_nil _ _)
      | cons first others => rfl

theorem intercalate_splitLines (text : List Char) :
    ['\n'].intercalate (splitLines text) = text := by
  rw [splitLines_eq_splitOn, List.intercalate_splitOn]

theorem splitLines_intercalate {lines : List (List Char)} (h : ∀ line ∈ lines, '\n' ∉ line)
    (hne : lines ≠ []) : splitLines (['\n'].intercalate lines) = lines := by
  rw [splitLines_eq_splitOn, List.splitOn_intercalate '\n' h hne]

theorem splitLines_injective {a b : List Char} (h : splitLines a = splitLines b) : a = b := by
  calc a = ['\n'].intercalate (splitLines a) := (intercalate_splitLines a).symm
    _ = ['\n'].intercalate (splitLines b) := by rw [h]
    _ = b := intercalate_splitLines b

/-- What stands before a text on its first line is the start of that. -/
theorem splitLines_append {a : List Char} (h : '\n' ∉ a) (b : List Char) :
    splitLines (a ++ b) = (splitLines b).modifyHead (a ++ ·) := by
  -- There is a first line of `b` for the characters of `a` to stand before.
  obtain ⟨first, others, hlines⟩ := List.exists_cons_of_ne_nil (splitLines_ne_nil b)
  induction a with
  | nil => rw [List.nil_append, hlines]; rfl
  | cons c a ih =>
    rw [List.mem_cons, not_or] at h
    rw [List.cons_append, splitLines, if_neg (Ne.symm h.1), ih h.2, hlines]
    rfl

/-- At a line feed, the lines before it end and those after it begin. -/
theorem splitLines_append_lineFeed (a b : List Char) :
    splitLines (a ++ '\n' :: b) = splitLines a ++ splitLines b := by
  simp only [splitLines_eq_splitOn, List.splitOn_append_cons_self]

/-- A line holds no line feed. -/
theorem not_mem_of_mem_splitLines (text : List Char) : ∀ line ∈ splitLines text, '\n' ∉ line := by
  -- By induction on the text; a character goes into the first of the lines that are there already.
  induction text with
  | nil => simp [splitLines]
  | cons c text ih =>
    rw [splitLines]
    by_cases hc : c = '\n'
    · rw [if_pos hc, List.forall_mem_cons]
      exact ⟨List.not_mem_nil, ih⟩
    · rw [if_neg hc]
      cases hlines : splitLines text with
      | nil => simpa using Ne.symm hc
      | cons first others =>
        rw [hlines, List.forall_mem_cons] at ih
        refine List.forall_mem_cons.mpr ⟨fun hmem => ?_, ih.2⟩
        rcases List.mem_cons.mp hmem with heq | hmem
        · exact hc heq.symm
        · exact ih.1 hmem

/-- Lines below lines are joined as texts are. -/
theorem intercalate_append {before after : List (List Char)} (hbefore : before ≠ [])
    (hafter : after ≠ []) :
    ['\n'].intercalate (before ++ after) =
      ['\n'].intercalate before ++ ['\n'] ++ ['\n'].intercalate after := by
  -- By induction on the lines before, the last of which is where the two parts meet.
  induction before with
  | nil => exact absurd rfl hbefore
  | cons first before ih =>
    cases before with
    | nil =>
      rw [List.singleton_append, List.intercalate_cons_of_ne_nil hafter,
        List.intercalate_singleton]
    | cons second before =>
      rw [List.cons_append, List.cons_append, List.intercalate_cons_cons, ← List.cons_append,
        ih (List.cons_ne_nil _ _), List.intercalate_cons_cons]
      simp only [List.append_assoc]

/-- Groups of lines are joined to the same text at once and one by one. -/
theorem intercalate_flatten {groups : List (List (List Char))} (h : ∀ group ∈ groups, group ≠ []) :
    ['\n'].intercalate groups.flatten =
      ['\n'].intercalate (groups.map ['\n'].intercalate) := by
  induction groups with
  | nil => rfl
  | cons first groups ih =>
    rw [List.forall_mem_cons] at h
    cases groups with
    | nil => simp
    | cons second groups =>
      -- There are lines in the groups that are left, so a line feed joins them to the first group.
      have hrest : (second :: groups).flatten ≠ [] := by
        rw [List.flatten_cons]
        exact List.append_ne_nil_of_left_ne_nil (h.2 second List.mem_cons_self) _
      rw [List.flatten_cons, intercalate_append h.1 hrest, ih h.2]
      simp only [List.map_cons, List.intercalate_cons_cons]

/-- What all characters of some texts are like, and those between them, all characters are
like of the text that they are joined to. The same holds of lines. -/
theorem forall_mem_intercalate {α : Type} {P : α → Prop} {separator : List α}
    {texts : List (List α)} (hseparator : ∀ c ∈ separator, P c)
    (h : ∀ text ∈ texts, ∀ c ∈ text, P c) : ∀ c ∈ separator.intercalate texts, P c := by
  induction texts with
  | nil => exact List.forall_mem_nil P
  | cons first texts ih =>
    rw [List.forall_mem_cons] at h
    cases texts with
    | nil =>
      rw [List.intercalate_singleton]
      exact h.1
    | cons second texts =>
      rw [List.intercalate_cons_cons, List.forall_mem_append, List.forall_mem_append]
      exact ⟨⟨h.1, hseparator⟩, ih h.2⟩

/-- What is in none of some texts, nor between them, is not in what they are joined to. -/
theorem not_mem_intercalate {c : Char} {separator : List Char} {texts : List (List Char)}
    (hseparator : c ∉ separator) (h : ∀ text ∈ texts, c ∉ text) :
    c ∉ separator.intercalate texts := by
  -- Not to be in a text is to be other than all of its characters.
  have hothers : ∀ d ∈ separator.intercalate texts, d ≠ c :=
    forall_mem_intercalate (List.forall_mem_ne'.mpr hseparator)
      fun text htext => List.forall_mem_ne'.mpr (h text htext)
  exact List.forall_mem_ne'.mp hothers

/-! ### One character at the end -/

theorem dropTrailing_eq_rdropWhile (c : Char) (text : List Char) :
    dropTrailing c text = text.rdropWhile (· == c) := rfl

/-- Nothing is taken from a text that ends otherwise. -/
theorem dropTrailing_eq_self {c : Char} {text : List Char} (h : text.getLast? ≠ some c) :
    dropTrailing c text = text := by
  rw [dropTrailing_eq_rdropWhile, List.rdropWhile_eq_self_iff]
  intro hne hlast
  apply h
  rw [List.getLast?_eq_some_getLast hne, beq_iff_eq.mp hlast]

/-- What is taken from the end does not reach beyond another character. -/
theorem dropTrailing_append {c d : Char} (h : d ≠ c) (a b : List Char) :
    dropTrailing c (a ++ d :: b) = a ++ d :: dropTrailing c b := by
  have hd : (d == c) = false := beq_eq_false_iff_ne.mpr h
  rw [dropTrailing, dropTrailing, List.reverse_append, List.reverse_cons, List.append_assoc,
    List.dropWhile_append]
  split
  · -- There is nothing but this character behind the other, so all of it is taken.
    rename_i hempty
    rw [List.isEmpty_iff] at hempty
    simp [hempty, hd]
  · simp

/-- What is taken from the end of two texts in a row is taken from the second one, if that has
another character. -/
theorem dropTrailing_append_of_mem {c d : Char} {b : List Char} (hd : d ∈ b) (h : d ≠ c)
    (a : List Char) : dropTrailing c (a ++ b) = a ++ dropTrailing c b := by
  obtain ⟨before, after, rfl⟩ := List.append_of_mem hd
  rw [← List.append_assoc, dropTrailing_append h, dropTrailing_append h, List.append_assoc]

/-- What is taken from the end are repetitions of the character. -/
theorem exists_eq_dropTrailing_append (c : Char) (text : List Char) :
    ∃ n, text = dropTrailing c text ++ List.replicate n c := by
  -- By the library, a text is what is dropped from its end and what is left.
  have hall : ∀ d ∈ text.rtakeWhile (· == c), d = c :=
    fun d hd => beq_iff_eq.mp (List.mem_rtakeWhile_imp (p := (· == c)) hd)
  refine ⟨(text.rtakeWhile (· == c)).length, ?_⟩
  rw [← List.eq_replicate_of_mem hall, dropTrailing_eq_rdropWhile,
    List.rdropWhile_append_rtakeWhile]

/-- All repetitions of the character are taken. -/
theorem dropTrailing_append_replicate (c : Char) (text : List Char) (n : Nat) :
    dropTrailing c (text ++ List.replicate n c) = dropTrailing c text := by
  have hall : ∀ d ∈ List.replicate n c, (d == c) = true := by
    intro d hd
    rw [List.eq_of_mem_replicate hd, beq_self_eq_true]
  rw [dropTrailing, List.reverse_append, List.reverse_replicate, List.dropWhile_append_of_pos hall,
    dropTrailing]

/-- What is left does not end in the character. -/
theorem getLast?_dropTrailing (c : Char) (text : List Char) :
    (dropTrailing c text).getLast? ≠ some c := by
  rw [dropTrailing_eq_rdropWhile]
  intro hlast
  obtain ⟨hne, hc⟩ := List.mem_getLast?_eq_getLast hlast
  apply List.rdropWhile_last_not _ _ hne
  rw [← hc, beq_self_eq_true]

/-- The same is left of texts that only differ in repetitions of the character at the end. -/
theorem dropTrailing_eq_iff {c : Char} {a b : List Char} :
    dropTrailing c a = dropTrailing c b ↔
      ∃ kept m n, a = kept ++ List.replicate m c ∧ b = kept ++ List.replicate n c := by
  constructor
  -- From equal rests, the texts differ in what was dropped from each.
  · intro h
    obtain ⟨m, ha⟩ := exists_eq_dropTrailing_append c a
    obtain ⟨n, hb⟩ := exists_eq_dropTrailing_append c b
    refine ⟨dropTrailing c a, m, n, ha, ?_⟩
    rw [h]
    exact hb
  · rintro ⟨kept, m, n, rfl, rfl⟩
    rw [dropTrailing_append_replicate, dropTrailing_append_replicate]

end Text
end ApiStubs
