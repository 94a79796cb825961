import ApiStubs.Proofs.Yaml.FlowTokens
import Mathlib.Data.List.TakeWhile

/-!
# Places outside of flow collections

Outside of flow collections, columns say where collections start and end. A collection is
opened by its first token, but closed only by the token of a lesser column that comes after
it, or by the end of the text. So what the scanner has added at some place is not all that
the text before it stands for:

* `Scanner.Stands column indents kinds chars` — the scanner is at a token at this column, at
  which a key may begin, with these collections open and these tokens added;
* `Scanner.Settled column indents kinds rest` — it is behind a part of the text, and so it will
  be with these collections and tokens once those from `column` on have been closed.

The way from the latter to the former is a gap, in which what is closed by the next token gets
its tokens (`Scanner.stands_of_gap`): a line feed and the spaces before the next token
(`Scanner.Settled.nextLine`), or one space on the same line (`Scanner.stands_of_space`).

What is opened by a token is open already for the next one at its column (`Scanner.Opens`).
-/

namespace ApiStubs
namespace Yaml

open SimpleKey (IsFree)

namespace Scanner

/-! ### What comes next -/

theorem exists_cons_of_atClass {p : Char → Bool} {chars : List Char} (h : atClass p chars) :
    ∃ c after, chars = c :: after := by
  cases chars with
  | nil => cases h
  | cons c after => exact ⟨c, after, rfl⟩

theorem atClass_append {p : Char → Bool} {chars : List Char} (h : atClass p chars)
    (rest : List Char) : atClass p (chars ++ rest) := by
  obtain ⟨c, after, rfl⟩ := exists_cons_of_atClass h
  exact h

theorem atClass_intercalate {p : Char → Bool} {first : List Char} (sep : List Char)
    (h : atClass p first) (others : List (List Char)) :
    atClass p (sep.intercalate (first :: others)) := by
  -- The first of the texts decides, whether others follow or not.
  cases others with
  | nil => rwa [List.intercalate_singleton]
  | cons next others =>
    rw [List.intercalate_cons_cons, List.append_assoc]
    exact atClass_append h _

/-! ### Gaps with a line feed -/

/-- A line feed in a gap allows a key, and what follows is on a later line. -/
theorem passGap_lineFeed (keyAllowed : Bool) (mark : Mark) (n : Nat) {chars rest : List Char}
    (hrest : rest = '\n' :: (List.replicate n ' ' ++ chars)) (hchars : atClass endsGap chars) :
    ∃ later : Mark, later.line = mark.line + 1 ∧ later.column = n ∧
      passGap false keyAllowed false mark rest = (true, later, chars) := by
  obtain ⟨c, after, rfl⟩ := exists_cons_of_atClass hchars
  refine ⟨(mark.nextLine '\n' 0).passAll (List.replicate n ' '), ?_, ?_, ?_⟩
  · rw [Mark.passAll_line]
    rfl
  · exact Mark.nextLine_spaces_column mark n
  · -- Behind the line feed, the gap goes on with spaces, and then it ends.
    rw [hrest, passGap, if_pos (by decide), breakTail_lineFeed, Bool.not_false, Bool.or_true,
      List.drop_zero, passGap_spaces]
    exact passGap_endsGap _ _ _ _ hchars

/-! ### Columns -/

theorem inFlow_of_nil {s : Scanner} (h : s.outerKeys = []) : s.inFlow = false := by
  rw [Scanner.inFlow, h]
  rfl

/-- A column lies deeper than the innermost collection, and so than all of them. -/
def Deeper (column : Nat) (indents : List Nat) : Prop := ∀ indent ∈ indents.head?, indent < column

theorem Deeper.mono {column column' : Nat} {indents : List Nat} (h : Deeper column indents)
    (hle : column ≤ column') : Deeper column' indents :=
  fun indent hindent => Nat.lt_of_lt_of_le (h indent hindent) hle

theorem deeper_nil (column : Nat) : Deeper column [] := fun _ h => nomatch h

theorem deeper_cons {column indent : Nat} {outer : List Nat} (h : indent < column) :
    Deeper column (indent :: outer) := by
  rintro _ ⟨⟩
  exact h

/-- Whether a collection at the column `indent` ends before a token at a column, or with the
text. -/
def ends (column : Option Nat) (indent : Nat) : Bool := column.all (· < indent)

theorem unrollFrom_spec (column : Option Nat) (s : Scanner) (indents : List Nat) :
    ∃ tokens count, unrollFrom column s indents =
        { s with tokens, count, indents := indents.dropWhile (ends column) } ∧
      (tokens.map (·.kind)).reverse =
        s.kinds ++ List.replicate (indents.takeWhile (ends column)).length .blockEnd := by
  -- By induction on the collections that are open, the innermost one first.
  induction indents generalizing s with
  | nil => exact ⟨s.tokens, s.count, rfl, (List.append_nil _).symm⟩
  | cons indent outer ih =>
    rw [unrollFrom, List.dropWhile_cons, List.takeWhile_cons]
    cases hends : ends column indent with
    | true =>
      -- This collection ends, and so may the ones around it.
      obtain ⟨tokens, count, heq, hkinds⟩ := ih (s.push .blockEnd s.mark)
      refine ⟨tokens, count, by rw [ends] at hends; rw [if_pos hends, heq]; rfl, ?_⟩
      rw [hkinds, if_pos rfl, List.length_cons, List.replicate_succ]
      simp [Scanner.kinds, push]
    | false =>
      -- This collection goes on, and so do all the ones around it.
      refine ⟨s.tokens, s.count, ?_, (List.append_nil _).symm⟩
      rw [ends] at hends
      rw [if_neg (by rw [hends]; decide)]
      rfl

/-- Closing collections adds one token for each of them. -/
theorem unroll_spec {s : Scanner} (houter : s.outerKeys = []) (column : Option Nat) :
    ∃ tokens count, s.unroll column =
        { s with tokens, count, indents := s.indents.dropWhile (ends column) } ∧
      (tokens.map (·.kind)).reverse =
        s.kinds ++ List.replicate (s.indents.takeWhile (ends column)).length .blockEnd := by
  rw [unroll, if_neg (by rw [inFlow_of_nil houter]; decide)]
  exact unrollFrom_spec column s s.indents

/-- A token that belongs to the innermost collection ends none, nor does one inside of a flow
collection. -/
theorem unroll_of_within {s : Scanner} {column : Nat}
    (h : s.inFlow = true ∨ Deeper (column + 1) s.indents) : s.unroll (some column) = s := by
  rw [unroll]
  split
  · rfl
  · next hinFlow =>
    replace h := h.resolve_left hinFlow
    -- If the token belongs to the innermost collection, the look at it is the last one.
    cases hindents : s.indents with
    | nil => rw [unrollFrom, ← hindents]
    | cons indent outer =>
      have hlt : indent < column + 1 := h indent (by rw [hindents]; rfl)
      have hstays : (some column).all (· < indent) = false := decide_eq_false (by omega)
      rw [unrollFrom, hstays, if_neg Bool.false_ne_true, ← hindents]

/-- What is closed before a token, where those collections are known to which it belongs. -/
theorem closed_append {column : Nat} {opened indents : List Nat}
    (hopened : ∀ indent ∈ opened, column < indent) (hindents : Deeper (column + 1) indents) :
    (opened ++ indents).takeWhile (ends (some column)) = opened ∧
      (opened ++ indents).dropWhile (ends (some column)) = indents := by
  -- The inner ones end, and the first one that does not is where closing stops.
  have hends : ∀ indent ∈ opened, ends (some column) indent = true := by
    simpa [ends] using hopened
  rw [List.takeWhile_append_of_pos hends, List.dropWhile_append_of_pos hends]
  cases indents with
  | nil => exact ⟨List.append_nil _, rfl⟩
  | cons indent outer =>
    have hlt : indent < column + 1 := hindents indent rfl
    have hstays : ends (some column) indent = false := decide_eq_false (by omega)
    simp [hstays]

/-- How the collection to which a token belongs comes to be open, and the tokens that are added
for that: the token opens it, or it has been open. -/
inductive Opens (start : TokenKind) (column : Nat) : List Nat → List Nat → List TokenKind → Prop
  | first {outer : List Nat} (h : Deeper column outer) :
    Opens start column outer (column :: outer) [start]
  | again {outer : List Nat} : Opens start column (column :: outer) (column :: outer) []

namespace Opens

variable {start : TokenKind} {column : Nat} {before after : List Nat} {starts : List TokenKind}

/-- At most one token is added. -/
-- None or one is the same from both ends.
theorem reverse_eq (h : Opens start column before after starts) : starts.reverse = starts := by
  cases h <;> rfl

theorem exists_outer (h : Opens start column before after starts) :
    ∃ outer, after = column :: outer := by
  cases h <;> exact ⟨_, rfl⟩

theorem deeper_before (h : Opens start column before after starts) :
    Deeper (column + 1) before := by
  cases h with
  | first hdeep => exact hdeep.mono (Nat.le_succ _)
  | again => exact deeper_cons (Nat.lt_succ_self _)

theorem deeper_after (h : Opens start column before after starts) {inner : Nat}
    (hlt : column < inner) : Deeper inner after := by
  obtain ⟨outer, rfl⟩ := h.exists_outer
  exact deeper_cons hlt

end Opens

/-- Behind some tokens that have been scanned already, a collection comes to be open. -/
theorem roll_of_opens {s : Scanner} {number column : Nat} {mark : Mark} {start : TokenKind}
    {indents : List Nat} {starts : List TokenKind} (later : List Token) {earlier : List Token}
    (houter : s.outerKeys = []) (hcolumn : mark.column = column)
    (hopens : Opens start column s.indents indents starts) (htokens : s.tokens = later ++ earlier)
    (hlater : s.count - number = later.length) :
    ∃ tokens count, s.roll number start mark = { s with tokens, count, indents } ∧
      tokens.map (·.kind) = later.map (·.kind) ++ starts ++ earlier.map (·.kind) := by
  subst hcolumn
  -- Whether the token is deeper decides if the mapping or sequence starts here.
  have hinFlow : s.inFlow = false := inFlow_of_nil houter
  generalize hbefore : s.indents = before at hopens
  cases hopens with
  | first hdeep =>
    have hdeeper : s.isDeeper mark.column = true := by
      rw [isDeeper, hbefore]
      cases before with
      | nil => rfl
      | cons indent outer => exact decide_eq_true (hdeep indent rfl)
    -- The last token comes first in the list, so the new one goes behind the later ones.
    refine ⟨later ++ ⟨start, mark⟩ :: earlier, s.count + 1, ?_, by simp⟩
    rw [roll, hinFlow, hdeeper, if_neg (by decide), insert, hlater, htokens, List.take_left,
      List.drop_left, hbefore]
  | again =>
    -- At the same column, the collection has been open.
    have hdeeper : s.isDeeper mark.column = false := by
      rw [isDeeper, hbefore]
      exact decide_eq_false (Nat.lt_irrefl _)
    refine ⟨s.tokens, s.count, ?_, by rw [htokens]; simp⟩
    rw [roll, hinFlow, hdeeper, if_pos (by decide), ← hbefore]

@[simp] theorem roll_key (s : Scanner) (number : Nat) (kind : TokenKind) (mark : Mark) :
    (s.roll number kind mark).key = s.key := by
  unfold roll
  split <;> rfl

@[simp] theorem roll_outerKeys (s : Scanner) (number : Nat) (kind : TokenKind) (mark : Mark) :
    (s.roll number kind mark).outerKeys = s.outerKeys := by
  unfold roll
  split <;> rfl

/-! ### Places -/

/-- **The scanner is at a token** outside of all flow collections, where a key may begin. -/
structure Stands (s : Scanner) (column : Nat) (indents : List Nat) (kinds : List TokenKind)
    (chars : List Char) : Prop where
  ready : s.Ready
  /-- No gap is ahead, and nothing has to be closed. -/
  arrived : s.toNextToken = .ok s
  outerKeys : s.outerKeys = []
  keyAllowed : s.keyAllowed = true
  key : s.key = none
  column : s.mark.column = column
  indents : s.indents = indents
  kinds : s.kinds = kinds
  rest : s.cursor.rest = chars

/-- **The scanner is behind a part of the text.** Once the collections from `column` on are
closed that are still open, it has these collections and tokens. -/
structure Settled (s : Scanner) (column : Nat) (indents : List Nat) (kinds : List TokenKind)
    (rest : List Char) : Prop where
  ready : s.Ready
  outerKeys : s.outerKeys = []
  ahead : s.Ahead rest
  opened : ∃ opened, s.indents = opened ++ indents ∧ (∀ indent ∈ opened, column ≤ indent) ∧
    s.kinds ++ List.replicate opened.length .blockEnd = kinds

/-- Where nothing is yet to be closed, the scanner has what it will have. -/
theorem Settled.of_closed {s : Scanner} {rest : List Char} (hready : s.Ready)
    (houter : s.outerKeys = []) (hahead : s.Ahead rest) (column : Nat) :
    s.Settled column s.indents s.kinds rest where
  ready := hready
  outerKeys := houter
  ahead := hahead
  opened := ⟨[], (List.nil_append _).symm, by simp, List.append_nil _⟩

theorem Settled.mono {s : Scanner} {column column' : Nat} {indents : List Nat}
    {kinds : List TokenKind} {rest : List Char} (h : s.Settled column indents kinds rest)
    (hle : column' ≤ column) : s.Settled column' indents kinds rest where
  ready := h.ready
  outerKeys := h.outerKeys
  ahead := h.ahead
  opened := by
    -- What is to be closed from one column on is also to be closed from one further left on.
    obtain ⟨opened, hindents, hopened, hkinds⟩ := h.opened
    exact ⟨opened, hindents, fun indent hindent => Nat.le_trans hle (hopened indent hindent),
      hkinds⟩

/-- The innermost collection can be among those that are yet to be closed. -/
theorem Settled.close {s : Scanner} {column : Nat} {indents : List Nat} {kinds : List TokenKind}
    {rest : List Char} (h : s.Settled (column + 1) (column :: indents) kinds rest) :
    s.Settled column indents (kinds ++ [.blockEnd]) rest where
  ready := h.ready
  outerKeys := h.outerKeys
  ahead := h.ahead
  opened := by
    obtain ⟨opened, hindents, hopened, hkinds⟩ := h.opened
    -- Inner collections come first, and all of them end before this one.
    refine ⟨opened ++ [column], by rw [hindents, List.append_assoc]; rfl, ?_, ?_⟩
    · rw [List.forall_mem_append, List.forall_mem_singleton]
      exact ⟨fun indent hindent => Nat.le_of_succ_le (hopened indent hindent), Nat.le_refl _⟩
    · rw [← hkinds, List.length_append, List.append_assoc, List.length_singleton,
        List.replicate_succ']

/-! ### Arriving -/

/-- A possible key that has not gone stale stays, even one that is required. -/
theorem refreshKeys_of_recent {s : Scanner} {k : SimpleKey} {line : Nat} (hkey : s.key = some k)
    (hrecent : k.isStale s.mark = false) (hblock : IsFree line s.blockKey) :
    s.refreshKeys = .ok s.fresh := by
  -- The key is not stale, so it is left where it is.
  have hfilter : s.key.filter (! ·.isStale s.mark) = s.key := by
    rw [hkey, Option.filter_some, if_pos (by rw [hrecent]; rfl)]
  simp only [refreshKeys, SimpleKey.refresh_of_isFree _ hblock, fresh, hfilter]
  simp only [hkey, SimpleKey.refresh, hrecent]
  rfl

/-- Arriving at a token is no step of its own. -/
theorem Leads.of_arrival {s t : Scanner} (hs : s.toNextToken = .ok t) (ht : t.toNextToken = .ok t)
    (hlength : t.cursor.rest.length ≤ s.cursor.rest.length) : s.Leads t := by
  -- Both scan the same token: to arrive at it once more changes nothing.
  have hstep : s.step = t.step := by rw [step, step, scanToken, scanToken, hs, ht]
  refine ⟨0, by omega, fun limit tokens h => ?_⟩
  rw [Tokens.scanFrom] at h
  rw [Nat.add_zero, Tokens.scanFrom, hstep]
  cases hnext : t.step with
  | error fault =>
    rw [hnext] at h
    cases h
  | ok next => rwa [hnext] at h

theorem fresh_fresh (s : Scanner) : s.fresh.fresh = s.fresh := by
  simp [fresh, mark, Option.filter_filter]

/-- At a token there is no gap. If no key is stale either, and nothing has to be closed, the
scanner stays where it is. -/
theorem toNextToken_of_arrived {s : Scanner} {chars : List Char}
    (hreadable : s.cursor.blocked = none) (hrest : s.cursor.rest = chars)
    (hchars : atClass endsGap chars) (hrefresh : s.refreshKeys = .ok s)
    (hwithin : s.inFlow = true ∨ Deeper (s.mark.column + 1) s.indents) : s.toNextToken = .ok s := by
  obtain ⟨c, after, rfl⟩ := exists_cons_of_atClass hchars
  -- The next character ends a gap, so no character is passed.
  have hgap := passGap_endsGap s.inFlow s.keyAllowed s.cursor.mark after hchars
  rw [← hrest] at hgap
  rw [toNextToken, Cursor.need_of_readable hreadable]
  simp only [bind, Except.bind, hgap, hreadable, Cursor.need, need_none]
  rw [← hreadable]
  change s.refreshKeys.bind _ = _
  rw [hrefresh]
  exact congrArg Except.ok (unroll_of_within hwithin)

/-- **Arriving at a token.** Behind a gap after which a key may begin, the collections have been
closed to which the token does not belong. -/
theorem stands_of_gap {s : Scanner} {mark : Mark} (opened : List Nat) {indents : List Nat}
    {chars : List Char} (hs : s.Ready) (houter : s.outerKeys = [])
    (hgap : passGap false s.keyAllowed false s.mark s.cursor.rest = (true, mark, chars))
    (hline : s.mark.line ≤ mark.line) (hlength : chars.length ≤ s.cursor.rest.length)
    (hchars : atClass endsGap chars) (hkey : s.key = none ∨ s.mark.line < mark.line)
    (hsplit : s.indents = opened ++ indents) (hopened : ∀ indent ∈ opened, mark.column < indent)
    (hindents : Deeper (mark.column + 1) indents) :
    ∃ t, s.Leads t ∧ t.Stands mark.column indents
      (s.kinds ++ List.replicate opened.length .blockEnd) chars := by
  have hgap' : passGap s.inFlow s.keyAllowed false s.mark s.cursor.rest = (true, mark, chars) := by
    rw [inFlow_of_nil houter]
    exact hgap
  -- The scanner first comes to the end of the gap, where it drops the keys that are stale.
  have harrive := toNextToken_of_gap hs.readable hgap' (refreshKeys_of_isFree hs.key hs.blockKey)
  obtain ⟨htake, hdrop⟩ := closed_append hopened hindents
  have hsplit' : (s.arriveAt true mark chars).indents = opened ++ indents := hsplit
  -- There, it closes the inner collections, which are those on the right of the token.
  obtain ⟨tokens, count, hunroll, hkinds⟩ :=
    unroll_spec (s := s.arriveAt true mark chars) houter (some mark.column)
  rw [hsplit', hdrop] at hunroll
  rw [hsplit', htake] at hkinds
  rw [hunroll] at harrive
  have hready := hs.arriveAt true chars hline
  let t : Scanner := { s.arriveAt true mark chars with tokens, count, indents }
  -- A key that was possible before is stale on a later line.
  have hnone : t.key = none := by
    rcases hkey with hkey | hlater
    · change Option.filter _ s.key = none
      rw [hkey]
      rfl
    · exact hs.key.filter_later hlater
  -- All else is as it was before, so the scanner is ready there, too.
  have htready : t.Ready := ⟨rfl, hready.key, hready.blockKey, hready.outerKeys⟩
  have hfresh : t.fresh = t := congrArg (fun u : Scanner => { u with tokens, count, indents })
    (fresh_fresh { s with cursor := ⟨mark, chars, none⟩, keyAllowed := true })
  have hthere : t.toNextToken = .ok t :=
    toNextToken_of_arrived rfl rfl hchars
      ((refreshKeys_of_isFree htready.key htready.blockKey).trans (congrArg _ hfresh))
      (.inr hindents)
  exact ⟨t, .of_arrival harrive hthere hlength,
    ⟨htready, hthere, houter, rfl, hnone, rfl, rfl, hkinds, rfl⟩⟩

/-- One space further on. -/
theorem stands_of_space {s : Scanner} {chars : List Char} (hs : s.Ready)
    (houter : s.outerKeys = []) (hallowed : s.keyAllowed = true) (hkey : s.key = none)
    (hrest : s.cursor.rest = ' ' :: chars) (hchars : atClass endsGap chars)
    (hindents : Deeper (s.mark.column + 2) s.indents) :
    ∃ t, s.Leads t ∧ t.Stands (s.mark.column + 1) s.indents s.kinds chars := by
  -- The gap is one space.
  have hgap : passGap false s.keyAllowed false s.mark s.cursor.rest =
      (true, s.mark.pass ' ', chars) := by
    obtain ⟨c, after, rfl⟩ := exists_cons_of_atClass hchars
    rw [hallowed, hrest]
    have hspace := passGap_spaces false true s.mark 1 (c :: after)
    rwa [passGap_endsGap _ _ _ _ hchars] at hspace
  -- Nothing is closed on the way, as the scanner stays on its line.
  obtain ⟨t, hleads, ht⟩ := stands_of_gap [] hs houter hgap (Nat.le_refl _)
    (by rw [hrest]; exact Nat.le_succ _) hchars (.inl hkey) (List.nil_append _).symm (by simp)
    hindents
  rw [List.length_nil, List.replicate_zero, List.append_nil] at ht
  exact ⟨t, hleads, ht⟩

/-- On the next line, at a column at which something has been open. -/
theorem Settled.nextLine {s : Scanner} {inner column : Nat} {indents : List Nat}
    {kinds : List TokenKind} {chars : List Char}
    (hs : s.Settled inner indents kinds ('\n' :: (List.replicate column ' ' ++ chars)))
    (hchars : atClass endsGap chars) (hinner : column < inner)
    (hindents : Deeper (column + 1) indents) :
    ∃ t, s.Leads t ∧ t.Stands column indents kinds chars := by
  obtain ⟨n, hrest⟩ := hs.ahead
  obtain ⟨opened, hsplit, hopened, hkinds⟩ := hs.opened
  -- The gap is what is left of the line, the line feed and the spaces of the next line.
  obtain ⟨later, hline, rfl, hgap⟩ := passGap_lineFeed s.keyAllowed
    (s.mark.passAll (List.replicate n ' ')) column rfl hchars
  rw [← passGap_spaces, ← hrest] at hgap
  rw [Mark.passAll_line] at hline
  have hlength : chars.length ≤ s.cursor.rest.length := by
    rw [hrest]
    simp only [List.length_append, List.length_cons]
    omega
  rw [← hkinds]
  -- The collections on the right of the column are closed there, and the keys of the last line are
  -- stale.
  exact stands_of_gap opened hs.ready hs.outerKeys hgap (by omega) hlength hchars
    (.inr (by omega)) hsplit
    (fun indent hindent => Nat.lt_of_lt_of_le hinner (hopened indent hindent)) hindents

end Scanner
end Yaml
end ApiStubs
