import ApiStubs.Proofs.Text.Lines

/-!
# Lines of a Lua source

Lua ends a line at a line feed and at a carriage return. Where the two stand next to each other, in
either order, they end one line together. `Text.sourceLines` cuts a text in this way. A break at the
end of the text ends its last line, and no empty line follows it.

A text whose lines are known, in the sense of `Text.splitLines`, is cut at the ends of these lines
and at the carriage returns within each of them:

* `Text.splitSource_intercalate` — so its source lines are those of its lines.

This matters where each line is to start with a mark. A carriage return within a line starts a
source line that has none, unless the mark happens to follow:

* `Text.Resumes mark text` — it does, or the line ends there;
* `Text.forall_mem_splitSource_iff` — all source lines of a line start with a mark if and only if
  the line starts with it and resumes with it.
-/

namespace ApiStubs
namespace Text

/-! ### Cutting -/

/-- The characters that end a line of a Lua source. -/
def IsBreak (c : Char) : Prop := c = '\n' ∨ c = '\r'

instance : DecidablePred IsBreak := fun _ => inferInstanceAs (Decidable (_ ∨ _))

/-- Puts a character before the first line, which is a new one if there is none. -/
def extendFirst (c : Char) : List (List Char) → List (List Char)
  | [] => [[c]]
  | line :: others => (c :: line) :: others

/-- Cuts at every line feed and carriage return, and once at one of each next to each other. -/
def splitSource : List Char → List (List Char)
  | [] => []
  | '\r' :: '\n' :: rest => [] :: splitSource rest
  | '\n' :: '\r' :: rest => [] :: splitSource rest
  | c :: rest => if IsBreak c then [] :: splitSource rest else extendFirst c (splitSource rest)

/-- The lines of a string, as Lua counts them. -/
def sourceLines (text : String) : List String :=
  (splitSource text.toList).map String.ofList

/-- All four ways to end a line, one of them twice in a row. -/
example : sourceLines "a\nb\rc\r\nd\n\re\r\r\n" = ["a", "b", "c", "d", "e", ""] := by decide

variable {c : Char} {line rest : List Char}

theorem splitSource_lineFeed (h : rest.head? ≠ some '\r') :
    splitSource ('\n' :: rest) = [] :: splitSource rest := by
  rw [splitSource, if_pos (.inl rfl)]
  -- Neither of the two breaks of two characters starts here.
  · intro more hreturn
    cases hreturn
  · rintro more - rfl
    exact h rfl

theorem splitSource_return (h : rest.head? ≠ some '\n') :
    splitSource ('\r' :: rest) = [] :: splitSource rest := by
  rw [splitSource, if_pos (.inr rfl)]
  · rintro more - rfl
    exact h rfl
  · intro more hfeed
    cases hfeed

theorem splitSource_cons (h : ¬ IsBreak c) :
    splitSource (c :: rest) = extendFirst c (splitSource rest) := by
  rw [splitSource, if_neg h]
  · rintro more rfl
    exact absurd (.inr rfl) h
  · rintro more rfl
    exact absurd (.inl rfl) h

/-- On a line without line feeds, a carriage return is the only break. -/
theorem isBreak_iff_return (h : '\n' ∉ c :: line) : IsBreak c ↔ c = '\r' :=
  or_iff_right fun hfeed => h (hfeed ▸ List.mem_cons_self)

/-- A line without line feeds is cut at its carriage returns. -/
theorem splitSource_return_of_not_mem (h : '\n' ∉ rest) :
    splitSource ('\r' :: rest) = [] :: splitSource rest :=
  splitSource_return fun heq => h (List.mem_of_head? heq)

theorem splitSource_ne_nil (h : line ≠ []) : splitSource line ≠ [] := by
  -- Only a text without characters has no line.
  fun_cases splitSource line with
  | case1 => exact absurd rfl h
  | case2 => exact List.cons_ne_nil _ _
  | case3 => exact List.cons_ne_nil _ _
  | case4 => exact List.cons_ne_nil _ _
  | case5 c rest =>
    unfold extendFirst
    split <;> exact List.cons_ne_nil _ _

/-! ### Lines that are joined -/

theorem extendFirst_append {lines : List (List Char)} (h : lines ≠ []) (others : List (List Char)) :
    extendFirst c (lines ++ others) = extendFirst c lines ++ others := by
  obtain ⟨first, more, rfl⟩ := List.exists_cons_of_ne_nil h
  rfl

/-- A line feed ends a line, whether a carriage return stands before it or not. -/
theorem splitSource_append (hne : line ≠ []) (h : '\n' ∉ line) (hrest : rest.head? ≠ some '\r') :
    splitSource (line ++ '\n' :: rest) = splitSource line ++ splitSource rest := by
  -- By induction on the line, of which only the last character meets the line feed.
  induction line with
  | nil => exact absurd rfl hne
  | cons c line ih =>
    have hinner := mt (isBreak_iff_return h).mp
    have hline : '\n' ∉ line := fun hmem => h (List.mem_cons_of_mem c hmem)
    cases line with
    | nil =>
      rw [List.singleton_append]
      by_cases hc : c = '\r'
      · -- The carriage return ends the line already, and the line feed is part of that break.
        subst hc
        rfl
      · rw [splitSource_cons (hinner hc), splitSource_cons (hinner hc), splitSource_lineFeed hrest]
        rfl
    | cons d line =>
      have hd : (d :: line ++ '\n' :: rest).head? ≠ some '\n' :=
        fun heq => hline (List.mem_of_head? heq)
      rw [List.cons_append]
      by_cases hc : c = '\r'
      · -- The break is not at the end of the line, so it is the same with the line feed or without.
        subst hc
        rw [splitSource_return hd, splitSource_return_of_not_mem hline,
          ih (List.cons_ne_nil _ _) hline]
        rfl
      · rw [splitSource_cons (hinner hc), splitSource_cons (hinner hc),
          ih (List.cons_ne_nil _ _) hline,
          extendFirst_append (splitSource_ne_nil (List.cons_ne_nil _ _))]

/-- **Source lines of lines.** Lines without line feeds that are joined by these are cut one by one,
if each starts with a character that ends no line. -/
theorem splitSource_intercalate {lines : List (List Char)} (h : ∀ line ∈ lines, '\n' ∉ line)
    (hstart : ∀ line ∈ lines, ∃ c more, line = c :: more ∧ ¬ IsBreak c) :
    splitSource (['\n'].intercalate lines) = lines.flatMap splitSource := by
  induction lines with
  | nil => rfl
  | cons first lines ih =>
    rw [List.forall_mem_cons] at h hstart
    cases lines with
    | nil => rw [List.intercalate_singleton, List.flatMap_singleton]
    | cons second lines =>
      have hfirst : first ≠ [] := by
        obtain ⟨c, more, rfl, -⟩ := hstart.1
        exact List.cons_ne_nil _ _
      -- No carriage return can follow the line feed, as the second line starts with none.
      have hrest : (['\n'].intercalate (second :: lines)).head? ≠ some '\r' := by
        obtain ⟨c, more, rfl, hc⟩ := hstart.2 second List.mem_cons_self
        rw [List.intercalate_cons_cons_left]
        intro hreturn
        exact hc (.inr (Option.some.inj hreturn))
      rw [List.intercalate_cons_cons, List.append_assoc, List.singleton_append,
        splitSource_append hfirst h.1 hrest, ih h.2 hstart.2]
      rfl

/-- A line without breaks is one source line. -/
theorem splitSource_eq_singleton (hne : line ≠ []) (h : ∀ c ∈ line, ¬ IsBreak c) :
    splitSource line = [line] := by
  induction line with
  | nil => exact absurd rfl hne
  | cons c line ih =>
    rw [List.forall_mem_cons] at h
    cases line with
    | nil =>
      rw [splitSource_cons h.1]
      rfl
    | cons d line =>
      rw [splitSource_cons h.1, ih (List.cons_ne_nil _ _) h.2]
      rfl

/-! ### Marks at the start of lines -/

/-- **A mark after every carriage return.** Where a carriage return ends a line early, the mark
starts the next one. Where the line or the text ends there, there is nothing to be marked. -/
def Resumes (mark text : List Char) : Prop :=
  ∀ rest, '\r' :: rest <:+ text → rest = [] ∨ rest.head? = some '\n' ∨ mark <+: rest

variable {mark text a b : List Char}

theorem resumes_cons :
    Resumes mark (c :: text) ↔
      (c = '\r' → text = [] ∨ text.head? = some '\n' ∨ mark <+: text) ∧ Resumes mark text := by
  -- The rest behind the first carriage return is the whole text, or one of a later one.
  simp only [Resumes, List.suffix_cons_iff, List.cons.injEq, or_imp, forall_and]
  refine and_congr_left fun _ => ⟨?_, ?_⟩
  · rintro h rfl
    exact h text ⟨rfl, rfl⟩
  · rintro h rest ⟨rfl, rfl⟩
    exact h rfl

theorem resumes_of_not_mem (h : '\r' ∉ text) : Resumes mark text :=
  fun _ hsuffix => absurd (hsuffix.subset List.mem_cons_self) h

instance decidableResumes (mark : List Char) : DecidablePred (Resumes mark)
  | [] => .isTrue (resumes_of_not_mem List.not_mem_nil)
  | _ :: text =>
    let _ := decidableResumes mark text
    decidable_of_iff _ resumes_cons.symm

/-- What stands before a text does not matter if it has no carriage returns. -/
theorem resumes_append_of_not_mem (h : '\r' ∉ a) : Resumes mark (a ++ b) ↔ Resumes mark b := by
  -- By induction on what stands before, of which no character is a carriage return.
  induction a with
  | nil => rfl
  | cons d a ih =>
    rw [List.mem_cons, not_or] at h
    rw [List.cons_append, resumes_cons, ih h.2]
    exact and_iff_right fun hd => absurd hd.symm h.1

/-- A mark does not reach beyond a character that it does not have. -/
theorem prefix_append_cons_iff (h : c ∉ mark) : mark <+: a ++ c :: b ↔ mark <+: a := by
  refine ⟨fun hprefix => ?_, fun hprefix => hprefix.trans (List.prefix_append _ _)⟩
  -- Of two starts of one text, one is the start of the other.
  rcases List.prefix_or_prefix_of_prefix hprefix (List.prefix_append a (c :: b)) with ha | ha
  · exact ha
  · obtain ⟨more, rfl⟩ := ha
    rw [List.prefix_append_right_inj] at hprefix
    cases more with
    | nil => exact ⟨[], by simp only [List.append_nil]⟩
    | cons d more =>
      obtain rfl := (List.cons_prefix_cons.mp hprefix).1
      exact absurd (List.mem_append_right a List.mem_cons_self) h

/-- A text resumes line by line. -/
theorem resumes_append_lineFeed (h : '\n' ∉ mark) :
    Resumes mark (a ++ '\n' :: b) ↔ Resumes mark a ∧ Resumes mark b := by
  -- By induction on the first text, whose end is the only place where the second one can be seen.
  induction a with
  | nil =>
    rw [List.nil_append, resumes_cons]
    simp [resumes_of_not_mem]
  | cons d a ih =>
    rw [List.cons_append, resumes_cons, resumes_cons, ih, and_assoc]
    refine and_congr_left fun _ => imp_congr_right fun _ => ?_
    -- Where the first text ends, the line feed follows the carriage return.
    cases a with
    | nil => simp
    | cons e a =>
      rw [prefix_append_cons_iff h]
      simp

theorem resumes_intercalate (h : '\n' ∉ mark) {lines : List (List Char)} :
    Resumes mark (['\n'].intercalate lines) ↔ ∀ line ∈ lines, Resumes mark line := by
  induction lines with
  | nil => simp [resumes_of_not_mem]
  | cons first lines ih =>
    cases lines with
    | nil => simp
    | cons second lines =>
      rw [List.intercalate_cons_cons, List.append_assoc, List.singleton_append,
        resumes_append_lineFeed h, ih, ← List.forall_mem_cons]

/-- Line feeds at the end do not matter. -/
theorem resumes_dropTrailing (h : '\n' ∉ mark) :
    Resumes mark (dropTrailing '\n' text) ↔ Resumes mark text := by
  obtain ⟨n, htext⟩ := exists_eq_dropTrailing_append '\n' text
  conv_rhs => rw [htext]
  -- The first of the line feeds ends the last line, and the others are lines without text.
  cases n with
  | zero => rw [List.replicate_zero, List.append_nil]
  | succ n =>
    have hfeeds : '\r' ∉ List.replicate n '\n' := by
      simp
    rw [List.replicate_succ, resumes_append_lineFeed h]
    exact (and_iff_left (resumes_of_not_mem hfeeds)).symm

/-! ### Marks at the start of source lines -/

/-- A line has a first source line. What has no carriage return starts both or neither. -/
theorem exists_splitSource_cons (h : '\n' ∉ c :: line) :
    ∃ first others, splitSource (c :: line) = first :: others ∧
      ∀ mark, '\r' ∉ mark → (mark <+: first ↔ mark <+: c :: line) := by
  -- A carriage return at the start leaves an empty line before it, which no mark starts.
  have hreturn : ∀ rest mark : List Char, '\r' ∉ mark → (mark <+: [] ↔ mark <+: '\r' :: rest) :=
    fun rest mark hmark => (prefix_append_cons_iff hmark (a := [])).symm
  -- By induction on the line; up to the first carriage return, the source line grows with it.
  induction line generalizing c with
  | nil =>
    by_cases hc : c = '\r'
    · subst hc
      exact ⟨[], [], rfl, hreturn []⟩
    · have hcut : splitSource [c] = [[c]] := splitSource_cons (mt (isBreak_iff_return h).mp hc)
      exact ⟨[c], [], hcut, fun _ _ => Iff.rfl⟩
  | cons d line ih =>
    have hline : '\n' ∉ d :: line := fun hmem => h (List.mem_cons_of_mem c hmem)
    by_cases hc : c = '\r'
    · subst hc
      exact ⟨[], _, splitSource_return_of_not_mem hline, hreturn (d :: line)⟩
    · obtain ⟨first, others, heq, hfirst⟩ := ih hline
      have hcut : splitSource (c :: d :: line) = (c :: first) :: others := by
        rw [splitSource_cons (mt (isBreak_iff_return h).mp hc), heq]
        rfl
      refine ⟨c :: first, others, hcut, fun mark hmark => ?_⟩
      -- Every line starts with a mark of no characters; of others, the first is the one put in front.
      cases mark with
      | nil => exact iff_of_true List.nil_prefix List.nil_prefix
      | cons e mark =>
        rw [List.mem_cons, not_or] at hmark
        rw [List.cons_prefix_cons, List.cons_prefix_cons, hfirst mark hmark.2]

/-- The source lines of a line after the first one start where it resumes. -/
theorem forall_mem_tail_splitSource_iff (h : '\n' ∉ line) (hmark : '\r' ∉ mark) :
    (∀ piece ∈ (splitSource line).tail, mark <+: piece) ↔ Resumes mark line := by
  induction line with
  | nil => simp [splitSource, resumes_of_not_mem]
  | cons c line ih =>
    have hline : '\n' ∉ line := fun hmem => h (List.mem_cons_of_mem c hmem)
    rw [resumes_cons, ← ih hline]
    by_cases hc : c = '\r'
    · -- All source lines of the rest are after the first one, which ends here.
      subst hc
      rw [splitSource_return_of_not_mem hline, List.tail_cons]
      cases line with
      | nil => simp [splitSource]
      | cons d line =>
        obtain ⟨first, others, heq, hfirst⟩ := exists_splitSource_cons hline
        have hd : d ≠ '\n' := fun hfeed => hline (hfeed ▸ List.mem_cons_self)
        rw [heq, List.forall_mem_cons, List.tail_cons, hfirst mark hmark]
        simp [hd]
    · have htail : (extendFirst c (splitSource line)).tail = (splitSource line).tail := by
        cases splitSource line <;> rfl
      rw [splitSource_cons (mt (isBreak_iff_return h).mp hc), htail]
      exact (and_iff_right fun hreturn => absurd hreturn hc).symm

/-- **Marked source lines.** If a line starts with a mark, so do all of its source lines if and only
if it resumes with the mark. -/
theorem forall_mem_splitSource_iff (h : '\n' ∉ line) (hmark : '\r' ∉ mark)
    (hstart : mark <+: line) :
    (∀ piece ∈ splitSource line, mark <+: piece) ↔ Resumes mark line := by
  rw [← forall_mem_tail_splitSource_iff h hmark]
  cases line with
  | nil => simp [splitSource]
  | cons c line =>
    -- The first source line starts with the mark as the line does, which leaves the others.
    obtain ⟨first, others, heq, hfirst⟩ := exists_splitSource_cons h
    rw [heq, List.forall_mem_cons, List.tail_cons, hfirst mark hmark]
    exact and_iff_right hstart

end Text
end ApiStubs
