import ApiStubs.Proofs.Yaml.QuotedScalar
import ApiStubs.Yaml.Tokens
import Mathlib.Data.List.Forall2

/-!
# Scanning flow collections

Inside a flow collection the scanner keeps an invariant, `Scanner.Flowing`: it stands
behind the start of a line, it can read on, and no possible key is required. From such a
state each token can be scanned whatever comes before and after it, so that the tokens of
a text are those of its parts:

* `Flow.Node chars kinds` — on these characters the scanner adds these tokens and comes to a
  state like the one before, whatever follows. Besides, where no key may begin, none begins.
  This is what a colon behind the node needs: a possible key that is left over would turn it
  into something else.
* `Flow.Content chars kinds` — the same from an opening bracket or a comma, up to a comma or a
  closing bracket.

Quoted scalars are nodes (`Flow.Node.quoted`), and so are brackets around their content
(`Flow.Node.brackets`).

Possible keys go stale at some point that depends on bytes and lines. `Scanner.fresh` is
what is left of them; nothing here depends on when that is.
-/

namespace ApiStubs
namespace Yaml

/-! ### Possible keys -/

namespace SimpleKey

/-- A possible key, if there is one, is not required, and it is not on a later line. -/
def IsFree (line : Nat) (key : Option SimpleKey) : Prop :=
  ∀ k ∈ key, k.required = false ∧ k.mark.line ≤ line

variable {line : Nat} {key : Option SimpleKey}

theorem isFree_none : IsFree line none := fun _ h => nomatch h

theorem isFree_some {k : SimpleKey} (h : k.required = false) (hline : k.mark.line ≤ line) :
    IsFree line (some k) := by
  rintro k' ⟨⟩
  exact ⟨h, hline⟩

theorem IsFree.filter (h : IsFree line key) (p : SimpleKey → Bool) :
    IsFree line (key.filter p) :=
  fun k hk => h k (Option.mem_filter_iff.mp hk).1

theorem IsFree.mono {line' : Nat} (h : IsFree line key) (hle : line ≤ line') :
    IsFree line' key :=
  fun k hk => ⟨(h k hk).1, Nat.le_trans (h k hk).2 hle⟩

/-- A possible key that is not required goes without a fault once it is stale. -/
theorem refresh_of_isFree (mark : Mark) (h : IsFree line key) :
    refresh mark key = .ok (key.filter (! ·.isStale mark)) := by
  cases key with
  | none => rfl
  | some k =>
    have hk : k.required = false := (h k rfl).1
    -- A key that is not stale is kept, and a stale one is dropped; a fault needs a required one.
    cases hstale : k.isStale mark <;> simp [refresh, hstale, hk, Option.filter]

/-- On a later line every possible key is stale. -/
theorem IsFree.filter_later (h : IsFree line key) {mark : Mark} (hlater : line < mark.line) :
    key.filter (! ·.isStale mark) = none := by
  refine Option.filter_eq_none_iff.mpr fun k hk => ?_
  have hle : k.mark.line ≤ line := (h k hk).2
  -- It is stale as soon as the line is another one.
  have hstale : k.isStale mark = true := by simp [isStale]; omega
  rw [hstale]
  decide

end SimpleKey

theorem Cursor.need_of_readable {c : Cursor} (h : c.blocked = none) (count : Nat) :
    c.need count = .ok () := by
  rw [Cursor.need, h, need_none]

open SimpleKey (IsFree)

namespace Scanner

/-- What a scanner has added so far, the first token first. -/
def kinds (s : Scanner) : List TokenKind := (s.tokens.map (·.kind)).reverse

/-- The scanner without the possible keys that are stale. -/
def fresh (s : Scanner) : Scanner :=
  { s with
    key := s.key.filter (! ·.isStale s.mark)
    blockKey := s.blockKey.filter (! ·.isStale s.mark) }

theorem refreshKeys_of_isFree {s : Scanner} {line : Nat} (hkey : IsFree line s.key)
    (hblock : IsFree line s.blockKey) : s.refreshKeys = .ok s.fresh := by
  simp only [refreshKeys, SimpleKey.refresh_of_isFree _ hkey,
    SimpleKey.refresh_of_isFree _ hblock]
  rfl

theorem dropKey_of_isFree {s : Scanner} {line : Nat} (h : IsFree line s.key) :
    s.dropKey = .ok { s with key := none } := by
  -- Only a required key cannot be dropped.
  unfold dropKey
  split
  · next k hk => rw [if_neg (by rw [(h k hk).1]; exact Bool.false_ne_true)]
  · next hk => rw [← hk]

/-! ### Leading on -/

/-- Scanning from one state leads to another one: what the second one yields without a fault,
the first one yields, and no step has been spent in vain. -/
def Leads (s t : Scanner) : Prop :=
  ∃ steps, steps + t.cursor.rest.length ≤ s.cursor.rest.length ∧
    ∀ limit tokens, Tokens.scanFrom t (limit + 1) = ⟨tokens, none⟩ →
      Tokens.scanFrom s (limit + 1 + steps) = ⟨tokens, none⟩

theorem Leads.refl (s : Scanner) : s.Leads s := ⟨0, by omega, fun _ _ h => h⟩

theorem Leads.trans {s t u : Scanner} (hst : s.Leads t) (htu : t.Leads u) : s.Leads u := by
  obtain ⟨m, hm, hscan⟩ := hst
  obtain ⟨n, hn, hscan'⟩ := htu
  -- The steps add up, and so do the characters that pay for them.
  refine ⟨n + m, by omega, fun limit tokens h => ?_⟩
  have ht : Tokens.scanFrom t (limit + n + 1) = ⟨tokens, none⟩ := by
    rw [Nat.add_right_comm]
    exact hscan' limit tokens h
  have hs := hscan (limit + n) tokens ht
  rwa [Nat.add_right_comm limit n 1, Nat.add_assoc] at hs

theorem Leads.of_step {s t : Scanner} (h : s.step = .ok t) (hdone : t.isDone = false)
    (hrest : t.cursor.rest.length < s.cursor.rest.length) : s.Leads t := by
  -- The one step is paid for by the characters it has passed.
  refine ⟨1, by omega, fun limit tokens ht => ?_⟩
  rw [Tokens.scanFrom, h]
  simpa [hdone] using ht

/-! ### Spaces -/

/-- What comes next, spaces apart. -/
def Ahead (s : Scanner) (chars : List Char) : Prop :=
  ∃ n, s.cursor.rest = List.replicate n ' ' ++ chars

theorem Ahead.of_rest {s : Scanner} {chars : List Char} (h : s.cursor.rest = chars) :
    s.Ahead chars := ⟨0, h⟩

theorem Ahead.of_space {s : Scanner} {chars : List Char} (h : s.Ahead (' ' :: chars)) :
    s.Ahead chars := by
  obtain ⟨n, hn⟩ := h
  exact ⟨n + 1, by rw [hn, List.replicate_succ', List.append_assoc]; rfl⟩

/-- Whether a character ends the gap before a token. -/
def endsGap (c : Char) : Bool := ! isGap c && c != '#' && c != '\ufeff'

theorem passGap_endsGap (inFlow keyAllowed : Bool) (mark : Mark) {c : Char} (after : List Char)
    (h : endsGap c = true) :
    passGap inFlow keyAllowed false mark (c :: after) = (keyAllowed, mark, c :: after) := by
  simp only [endsGap, isGap, isBlank, Bool.and_eq_true, Bool.not_eq_true', Bool.or_eq_false_iff,
    bne_iff_ne, beq_eq_false_iff_ne] at h
  -- The character is none of those that a gap is made of, and the test fails for each of them.
  obtain ⟨⟨⟨⟨hspace, htab⟩, hbreak⟩, hhash⟩, hbom⟩ := h
  rw [passGap]
  simp [hbreak, hspace, htab, hhash, hbom]

theorem passGap_spaces (inFlow keyAllowed : Bool) (mark : Mark) (n : Nat) (rest : List Char) :
    passGap inFlow keyAllowed false mark (List.replicate n ' ' ++ rest) =
      passGap inFlow keyAllowed false (mark.passAll (List.replicate n ' ')) rest := by
  -- By induction on the spaces, each of which moves the mark by one column.
  induction n generalizing mark with
  | zero => rfl
  | succ n ih =>
    rw [List.replicate_succ, List.cons_append, passGap]
    exact ih (mark.pass ' ')

/-! ### Arriving at a token -/

/-- The scanner at a later place, without the possible keys that are stale there. -/
def arriveAt (s : Scanner) (keyAllowed : Bool) (mark : Mark) (rest : List Char) : Scanner :=
  fresh { s with cursor := ⟨mark, rest, none⟩, keyAllowed }

/-- The scanner `n` spaces further on, where a token starts. -/
def arrive (s : Scanner) (n : Nat) (rest : List Char) : Scanner :=
  s.arriveAt s.keyAllowed (s.mark.passAll (List.replicate n ' ')) rest

@[simp] theorem arrive_column (s : Scanner) (n : Nat) (rest : List Char) :
    (s.arrive n rest).mark.column = s.mark.column + n := by
  rw [arrive, arriveAt, fresh, mark, Mark.passAll_column, List.length_replicate]

/-- Behind a gap the scanner closes the block collections to which the place does not belong. -/
theorem toNextToken_of_gap {s : Scanner} {keyAllowed : Bool} {mark : Mark} {rest : List Char}
    (hreadable : s.cursor.blocked = none)
    (hgap : passGap s.inFlow s.keyAllowed false s.mark s.cursor.rest = (keyAllowed, mark, rest))
    (hrefresh : { s with cursor := ⟨mark, rest, none⟩, keyAllowed }.refreshKeys =
      .ok (s.arriveAt keyAllowed mark rest)) :
    s.toNextToken = .ok ((s.arriveAt keyAllowed mark rest).unroll (some mark.column)) := by
  rw [Scanner.mark] at hgap
  -- Nothing ahead is unreadable, so the looks ahead on the way do not fail.
  rw [toNextToken, Cursor.need_of_readable hreadable]
  simp only [bind, Except.bind, hgap, hreadable, Cursor.need, need_none, hrefresh]
  rfl

theorem toNextToken_spaces {s : Scanner} {line n : Nat} {c : Char} {after : List Char}
    (hreadable : s.cursor.blocked = none) (hkey : IsFree line s.key)
    (hblock : IsFree line s.blockKey)
    (hrest : s.cursor.rest = List.replicate n ' ' ++ c :: after) (hc : endsGap c = true) :
    s.toNextToken =
      .ok ((s.arrive n (c :: after)).unroll (some (s.mark.column + n))) := by
  -- The gap is the spaces, and it ends at the character behind them.
  have hgap := passGap_spaces s.inFlow s.keyAllowed s.mark n (c :: after)
  rw [← hrest, passGap_endsGap _ _ _ _ hc] at hgap
  rw [toNextToken_of_gap hreadable hgap (refreshKeys_of_isFree hkey hblock), Mark.passAll_column,
    List.length_replicate]
  rfl

theorem step_of_arrival {s t : Scanner} {c : Char} {after : List Char}
    (harrive : s.toNextToken = .ok t) (hreadable : t.cursor.blocked = none)
    (hrest : t.cursor.rest = c :: after)
    (hstart : 0 < t.mark.column ∨ c ≠ '%' ∧ atDocumentIndicator (c :: after) = false) :
    s.step = (t.scanFromChar c after).bind refreshKeys := by
  -- At the start of a line, neither a directive nor the end of a document begins here.
  have hdirective : ¬ (t.mark.column = 0 ∧ c = '%') := by
    rintro ⟨hcolumn, hc⟩
    rcases hstart with h | h
    · omega
    · exact h.1 hc
  have hindicator : ¬ (t.mark.column = 0 ∧ atDocumentIndicator (c :: after) = true) := by
    rintro ⟨hcolumn, hc⟩
    rcases hstart with h | h
    · omega
    · rw [h.2] at hc
      exact Bool.false_ne_true hc
  -- The end of the text is not here either, so what is left is the character.
  have htoken : s.scanToken = t.scanFromChar c after := by
    rw [scanToken, harrive]
    simp only [bind, Except.bind, Cursor.need_of_readable hreadable, hrest]
    rw [if_neg hdirective, if_neg hindicator]
  rw [step, htoken]
  rfl

/-! ### The invariant -/

/-- **The scanner can go on.** Nothing ahead is unreadable, and no possible key is
required or ahead. -/
structure Ready (s : Scanner) : Prop where
  /-- All that is ahead can be read. -/
  readable : s.cursor.blocked = none
  /-- The possible key of the current depth is not required. -/
  key : IsFree s.mark.line s.key
  /-- Nor is the one outside of all flow collections. -/
  blockKey : IsFree s.mark.line s.blockKey
  /-- Nor are those of the depths between. -/
  outerKeys : ∀ key ∈ s.outerKeys, IsFree s.mark.line key

/-- **The invariant inside flow collections.** Only the start of a line needs a look at
what else may start there, so that the scanner stands behind it is part of this. -/
structure Flowing (s : Scanner) : Prop extends s.Ready where
  /-- A flow collection is open. -/
  inFlow : s.outerKeys ≠ []
  /-- The scanner is not at the start of a line. -/
  column : 0 < s.mark.column

theorem Ready.fresh {s : Scanner} (h : s.Ready) : s.fresh.Ready where
  readable := h.readable
  key := h.key.filter _
  blockKey := h.blockKey.filter _
  outerKeys := h.outerKeys

theorem Ready.arriveAt {s : Scanner} (h : s.Ready) (keyAllowed : Bool) {mark : Mark}
    (rest : List Char) (hline : s.mark.line ≤ mark.line) :
    (s.arriveAt keyAllowed mark rest).Ready where
  readable := rfl
  key := (h.key.filter _).mono hline
  blockKey := (h.blockKey.filter _).mono hline
  outerKeys key hkey := (h.outerKeys key hkey).mono hline

theorem Ready.arrive {s : Scanner} (h : s.Ready) (n : Nat) (rest : List Char) :
    (s.arrive n rest).Ready :=
  h.arriveAt _ rest (Nat.le_of_eq (Mark.passAll_line _ _).symm)

/-- A token of one line does not change what the keys are like. -/
theorem Ready.emit {s : Scanner} (h : s.Ready) (kind : TokenKind) (width : Nat) :
    (s.emit kind width).Ready := by
  -- The mark moves along the line, on which all of the keys are.
  have hline : (s.emit kind width).mark.line = s.mark.line := Mark.passAll_line _ _
  exact ⟨h.readable, hline ▸ h.key, hline ▸ h.blockKey, hline ▸ h.outerKeys⟩

/-- No key has begun at the current depth, and none may begin here. -/
def Unkeyed (s : Scanner) : Prop := s.keyAllowed = false ∧ s.key = none

theorem Unkeyed.arrive {s : Scanner} (h : s.Unkeyed) (n : Nat) (rest : List Char) :
    (s.arrive n rest).Unkeyed :=
  ⟨h.1, by change Option.filter _ s.key = none; rw [h.2]; rfl⟩

/-- **Scanning has come further.** From `s` the scanner comes to `t`, adding tokens of these
kinds. It is ready to go on with `rest`, in the flow collections of `outer`. -/
structure Reaches (s t : Scanner) (kinds : List TokenKind) (outer : List (Option SimpleKey))
    (rest : List Char) : Prop where
  leads : s.Leads t
  ready : t.Ready
  column : 0 < t.mark.column
  ahead : t.Ahead rest
  kinds : t.kinds = s.kinds ++ kinds
  indents : t.indents = s.indents
  outer : t.outerKeys = outer

theorem Reaches.flowing {s t : Scanner} {kinds : List TokenKind}
    {outer : List (Option SimpleKey)} {rest : List Char} (h : s.Reaches t kinds outer rest)
    (houter : outer ≠ []) : t.Flowing :=
  { h.ready with
    inFlow := h.outer ▸ houter
    column := h.column }

theorem Reaches.trans {s t u : Scanner} {kinds kinds' : List TokenKind}
    {outer outer' : List (Option SimpleKey)} {rest rest' : List Char}
    (hst : s.Reaches t kinds outer rest) (htu : t.Reaches u kinds' outer' rest') :
    s.Reaches u (kinds ++ kinds') outer' rest' where
  leads := hst.leads.trans htu.leads
  ready := htu.ready
  column := htu.column
  ahead := htu.ahead
  kinds := by rw [htu.kinds, hst.kinds, List.append_assoc]
  indents := by rw [htu.indents, hst.indents]
  outer := htu.outer

/-- One step, in which a token is scanned that starts with `c`. -/
theorem Leads.of_scan {s t u : Scanner} {c : Char} {after : List Char} {token : Token}
    {tokens : List Token} (harrive : s.toNextToken = .ok t) (hreadable : t.cursor.blocked = none)
    (hrest : t.cursor.rest = c :: after)
    (hstart : 0 < t.mark.column ∨ c ≠ '%' ∧ atDocumentIndicator (c :: after) = false)
    (hscan : t.scanFromChar c after = .ok u) {v : Scanner} (hrefresh : u.refreshKeys = .ok v)
    (htokens : v.tokens = token :: tokens) (hkind : token.kind ≠ .streamEnd)
    (hlength : v.cursor.rest.length < s.cursor.rest.length) : s.Leads v := by
  refine .of_step ?_ ?_ hlength
  · -- The step is the scan of the token, and the look at the keys behind it.
    rw [step_of_arrival harrive hreadable hrest hstart, hscan]
    exact hrefresh
  · -- Scanning has not ended with this token.
    rw [isDone, htokens]
    simp [hkind]

/-- One step, in which a token is scanned that starts with `c` and goes on up to `rest`. -/
theorem Reaches.of_scan {s t u : Scanner} {n : Nat} {c : Char} {after rest : List Char}
    {kind : TokenKind} (harrive : s.toNextToken = .ok t) (ht : t = s.arrive n (c :: after))
    (hrest : s.cursor.rest = List.replicate n ' ' ++ c :: after)
    (hstart : 0 < s.mark.column + n ∨ c ≠ '%' ∧ atDocumentIndicator (c :: after) = false)
    (hscan : t.scanFromChar c after = .ok u) (hready : u.Ready) (hcolumn : 0 < u.mark.column)
    (htokens : ∃ mark, u.tokens = ⟨kind, mark⟩ :: s.tokens) (hkind : kind ≠ .streamEnd)
    (hurest : u.cursor.rest = rest) (hlength : rest.length ≤ after.length)
    (hindents : u.indents = s.indents) :
    s.Reaches u.fresh [kind] u.outerKeys rest := by
  obtain ⟨mark, htokens⟩ := htokens
  subst ht
  -- All of the token has been passed, and it has at least one character.
  have hlength' : u.fresh.cursor.rest.length < s.cursor.rest.length := by
    change u.cursor.rest.length < _
    rw [hurest, hrest, List.length_append, List.length_cons]
    omega
  -- After the token the step drops the stale keys, none of which is required.
  refine ⟨.of_scan harrive rfl rfl (by rwa [arrive_column]) hscan
    (refreshKeys_of_isFree hready.key hready.blockKey) htokens hkind hlength', hready.fresh,
    hcolumn, .of_rest hurest, ?_, hindents, rfl⟩
  · -- The token is the newest one, so its kind is the last of the kinds.
    change (u.tokens.map (·.kind)).reverse = _
    rw [htokens, List.map_cons, List.reverse_cons]
    rfl

/-! ### Tokens in flow collections -/

theorem inFlow_of_outerKeys {s : Scanner} (h : s.outerKeys ≠ []) : s.inFlow = true := by
  rw [Scanner.inFlow, List.isEmpty_eq_false_iff.mpr h]
  rfl

theorem Flowing.toNextToken {s : Scanner} (h : s.Flowing) {n : Nat} {c : Char}
    {after : List Char} (hrest : s.cursor.rest = List.replicate n ' ' ++ c :: after)
    (hc : endsGap c = true) : s.toNextToken = .ok (s.arrive n (c :: after)) := by
  -- Inside of flow collections, no block collection is closed by where a token stands.
  have hinFlow : (s.arrive n (c :: after)).inFlow = true := inFlow_of_outerKeys h.inFlow
  rw [toNextToken_spaces h.readable h.key h.blockKey hrest hc, unroll, if_pos hinFlow]

/-- A token of one character, which starts no other token. -/
theorem Flowing.emits {s t : Scanner} (h : s.Flowing) {n : Nat} {c : Char} {after : List Char}
    {kind : TokenKind} (hrest : s.cursor.rest = List.replicate n ' ' ++ c :: after)
    (hc : endsGap c = true)
    (hscan : (s.arrive n (c :: after)).scanFromChar c after = .ok (t.emit kind 1))
    (hcursor : t.cursor = (s.arrive n (c :: after)).cursor) (htokens : t.tokens = s.tokens)
    (hindents : t.indents = s.indents) (hready : t.Ready) (hkind : kind ≠ .streamEnd) :
    s.Reaches (t.emit kind 1).fresh [kind] t.outerKeys after := by
  have hcolumn : 0 < s.mark.column := h.column
  refine .of_scan (h.toNextToken hrest hc) rfl hrest (.inl (by omega)) hscan (hready.emit kind 1) ?_
    ⟨t.mark, by rw [emit, push, htokens]⟩ hkind ?_ (Nat.le_refl _) hindents
  · -- The character itself is one column.
    change 0 < (t.cursor.mark.passAll (t.cursor.rest.take 1)).column
    rw [Mark.passAll_column, hcursor]
    change 0 < (s.arrive n (c :: after)).mark.column + _
    rw [arrive_column]
    omega
  · -- The character has been passed, and nothing else.
    change t.cursor.rest.drop 1 = after
    rw [hcursor]
    rfl

/-- Noting a possible key that is not required never fails, and notes none where none may
begin. -/
theorem noteKey_of_ready {s : Scanner} (h : s.Ready)
    (hfree : s.inFlow = true ∨ s.indents.head? ≠ some s.mark.column) :
    ∃ key, IsFree s.mark.line key ∧ s.noteKey = .ok { s with key } ∧
      (s.Unkeyed → key = none) := by
  by_cases hallowed : s.keyAllowed = true
  · -- The new key would be required only in a block mapping, at its column.
    have hrequired : (! s.inFlow && s.indents.head? == some s.mark.column) = false := by
      rcases hfree with h | h
      · rw [h]; rfl
      · rw [beq_eq_false_iff_ne.mpr h, Bool.and_false]
    refine ⟨some ⟨false, s.count, s.mark⟩, SimpleKey.isFree_some rfl (Nat.le_refl _), ?_,
      fun hun => ?_⟩
    · rw [noteKey, if_pos hallowed, dropKey_of_isFree h.key]
      exact congrArg (fun required => Except.ok { s with key := some ⟨required, s.count, s.mark⟩ })
        hrequired
    · rw [hun.1] at hallowed
      exact absurd hallowed Bool.false_ne_true
  · -- Where none may begin, what has been noted before stays.
    exact ⟨s.key, h.key, by rw [noteKey, if_neg hallowed], fun hun => hun.2⟩

theorem scanFlowStart_of_inFlow {s : Scanner} {key : Option SimpleKey} (kind : TokenKind)
    (hnote : s.noteKey = .ok { s with key }) (hinFlow : s.inFlow = true) :
    s.scanFlowStart kind = .ok (emit { s with
      key := none, outerKeys := key :: s.outerKeys, keyAllowed := true } kind 1) := by
  have henter : { s with key }.enterFlow =
      -- The key that may have begun is set aside with those of the depths around.
      { s with key := none, outerKeys := key :: s.outerKeys } := if_pos hinFlow
  rw [scanFlowStart, hnote]
  simp only [bind, Except.bind, henter]

/-- Leaving a flow collection gives back the possible key of the depth around it. -/
theorem leaveFlow_of_outerKeys {s : Scanner} (h : s.Ready) {key : Option SimpleKey}
    {outer : List (Option SimpleKey)} (houter : s.outerKeys = key :: outer) :
    ∃ key' blockKey, IsFree s.mark.line key' ∧ IsFree s.mark.line blockKey ∧
      s.leaveFlow = { s with key := key', blockKey, outerKeys := outer } ∧
      (outer ≠ [] → key' = key) := by
  cases outer with
  | nil =>
    -- The outermost collection: the key that was set aside when it was opened.
    exact ⟨s.blockKey, none, h.blockKey, SimpleKey.isFree_none, by rw [leaveFlow, houter],
      fun hne => absurd rfl hne⟩
  | cons next outer =>
    -- Between collections: the key that was set aside last comes back.
    exact ⟨key, s.blockKey, h.outerKeys key (houter ▸ List.mem_cons_self), h.blockKey,
      by rw [leaveFlow, houter], fun _ => rfl⟩

end Scanner

/-! ### Nodes -/

namespace Flow

open Scanner

/-- **The tokens of a node.** Inside a flow collection, the scanner passes these characters and
adds tokens of these kinds, whatever follows. No key has begun behind them where none may begin. -/
def Node (chars : List Char) (kinds : List TokenKind) : Prop :=
  ∀ (s : Scanner) (rest : List Char), s.Flowing → s.Ahead (chars ++ rest) →
    ∃ t, s.Reaches t kinds s.outerKeys rest ∧ (s.Unkeyed → t.Unkeyed)

/-- **The inner part of brackets.** The scanner comes from the opening bracket or a comma, after
which a key may begin, and what follows is a comma or a closing bracket. -/
def Content (chars : List Char) (kinds : List TokenKind) : Prop :=
  ∀ (s : Scanner) (rest : List Char), s.Flowing → s.keyAllowed = true →
    atClass isFlowIndicator rest = true → s.Ahead (chars ++ rest) →
      ∃ t, s.Reaches t kinds s.outerKeys rest

/-- A comma, after which a key may begin. -/
theorem comma {s : Scanner} {rest : List Char} (hs : s.Flowing) (hahead : s.Ahead (',' :: rest)) :
    ∃ t, s.Reaches t [.flowEntry] s.outerKeys rest ∧ t.keyAllowed = true := by
  obtain ⟨n, hrest⟩ := hahead
  -- Behind the spaces, the scanner is at the comma, and is as ready as before them.
  have hready := hs.toReady.arrive n (',' :: rest)
  refine ⟨_, hs.emits hrest (by decide)
    (t := { s.arrive n (',' :: rest) with key := none, keyAllowed := true }) ?_ rfl rfl rfl
    ⟨hready.readable, SimpleKey.isFree_none, hready.blockKey, hready.outerKeys⟩ (by decide), rfl⟩
  change scanFlowEntry _ = _
  rw [scanFlowEntry, dropKey_of_isFree hready.key]
  rfl

/-- A question mark, after which no key begins. -/
theorem question {s : Scanner} {rest : List Char} (hs : s.Flowing)
    (hahead : s.Ahead ('?' :: rest)) :
    ∃ t, s.Reaches t [.key] s.outerKeys rest ∧ t.Unkeyed := by
  -- The question mark is emitted alone, and the key that was possible before it is dropped.
  obtain ⟨n, hrest⟩ := hahead
  have hready := hs.toReady.arrive n ('?' :: rest)
  have hinFlow : (s.arrive n ('?' :: rest)).inFlow = true := inFlow_of_outerKeys hs.inFlow
  refine ⟨_, hs.emits hrest (by decide)
    (t := { s.arrive n ('?' :: rest) with key := none, keyAllowed := false }) ?_ rfl rfl rfl
    ⟨hready.readable, SimpleKey.isFree_none, hready.blockKey, hready.outerKeys⟩ (by decide),
    rfl, rfl⟩
  -- Inside a flow collection a question mark is a key, whatever follows it.
  have hchar : (s.arrive n ('?' :: rest)).scanFromChar '?' rest =
      (s.arrive n ('?' :: rest)).scanKey := by
    simp [scanFromChar, hinFlow]
  rw [hchar, scanKey, openBlock, if_pos hinFlow]
  simp only [bind, Except.bind, dropKey_of_isFree hready.key]
  change Except.ok (emit { s.arrive n ('?' :: rest) with
    key := none, keyAllowed := ! (s.arrive n ('?' :: rest)).inFlow } .key 1) = _
  rw [hinFlow]
  rfl

/-- A colon, where no key has begun. -/
theorem colon {s : Scanner} {rest : List Char} (hs : s.Flowing) (hunkeyed : s.Unkeyed)
    (hahead : s.Ahead (':' :: rest)) : ∃ t, s.Reaches t [.value] s.outerKeys rest := by
  obtain ⟨n, hrest⟩ := hahead
  -- The colon is emitted alone, too, and its key is the one that the question mark has announced.
  have hready := hs.toReady.arrive n (':' :: rest)
  have hinFlow : (s.arrive n (':' :: rest)).inFlow = true := inFlow_of_outerKeys hs.inFlow
  have hkey : (s.arrive n (':' :: rest)).key = none := (hunkeyed.arrive n _).2
  refine ⟨_, hs.emits hrest (by decide)
    (t := { s.arrive n (':' :: rest) with keyAllowed := false }) ?_ rfl rfl rfl
    ⟨hready.readable, hready.key, hready.blockKey, hready.outerKeys⟩ (by decide)⟩
  -- Without a possible key, the colon puts no key token before the last one.
  have hchar : (s.arrive n (':' :: rest)).scanFromChar ':' rest =
      (s.arrive n (':' :: rest)).scanValue := by
    simp [scanFromChar, hinFlow]
  rw [hchar, scanValue, hkey, openBlock, if_pos hinFlow]
  change Except.ok (emit { s.arrive n (':' :: rest) with
    keyAllowed := ! (s.arrive n (':' :: rest)).inFlow } .value 1) = _
  rw [hinFlow]
  rfl

/-- A scalar between double quotes, where arriving at it closes no block collection. -/
theorem quoted_of_arrival (text : String) {s : Scanner} {n : Nat} {rest : List Char} (hs : s.Ready)
    (harrive : ∀ c after, endsGap c = true → s.cursor.rest = List.replicate n ' ' ++ c :: after →
      s.toNextToken = .ok (s.arrive n (c :: after)))
    (hfree : s.inFlow = true ∨ s.indents.head? ≠ some (s.mark.column + n))
    (hrest : s.cursor.rest = List.replicate n ' ' ++ ((Writing.quoted text).toList ++ rest)) :
    ∃ t, s.Reaches t [.scalar text.toList .quoted] s.outerKeys rest ∧ (s.Unkeyed → t.Unkeyed) := by
  -- The scanner looks at the first character, the quotes, before it scans the scalar.
  obtain ⟨more, hmore⟩ : ∃ more, (Writing.quoted text).toList = '"' :: more :=
    ⟨_, by rw [Writing.quoted, String.toList_ofList, List.cons_append]⟩
  have hafter : (Writing.quoted text).toList ++ rest = '"' :: (more ++ rest) := by
    rw [hmore, List.cons_append]
  rw [hafter] at hrest
  -- From here on, the scanner is at the opening quote.
  let t := s.arrive n ('"' :: (more ++ rest))
  have hready : t.Ready := hs.arrive n _
  obtain ⟨key, hkey, hnote, hunkeyed⟩ := noteKey_of_ready hready
    (hfree.imp id fun h => by rw [arrive_column]; exact h)
  -- The scalar stays on its line, and the scanner is behind its closing quote.
  obtain ⟨mark, hline, hcolumn, hscanned⟩ : ∃ mark : Mark, t.mark.line ≤ mark.line ∧
      0 < mark.column ∧ Quoted.scan true t.cursor = .ok (text.toList, ⟨mark, rest, none⟩) := by
    refine ⟨_, ?_, ?_, Quoted.scan_quoted text t.cursor rest rfl hafter.symm⟩
    · rw [Mark.passAll_line]
      exact Nat.le_refl _
    · rw [Mark.passAll_column, hmore, List.length_cons]
      omega
  -- The token has been added, and a key that was noted before it is still possible.
  let u : Scanner := emitTo { t with key, keyAllowed := false } (.scalar text.toList .quoted)
    ⟨mark, rest, none⟩
  have hscan : t.scanFromChar '"' (more ++ rest) = .ok u := by
    change t.scanContent (scanQuoted true) = _
    rw [scanContent, hnote]
    simp only [bind, Except.bind, scanQuoted, hscanned]
    rfl
  have huready : u.Ready := ⟨rfl, hkey.mono hline, hready.blockKey.mono hline,
    fun outer houter => (hready.outerKeys outer houter).mono hline⟩
  have hreaches : s.Reaches u.fresh [.scalar text.toList .quoted] s.outerKeys rest :=
    .of_scan (harrive '"' (more ++ rest) (by decide) hrest) rfl hrest (.inr ⟨by decide, rfl⟩) hscan
      huready hcolumn ⟨t.mark, rfl⟩ (by simp) rfl (by simp) rfl
  -- No key may begin behind the scalar, and one before it was noted only if that was allowed.
  refine ⟨u.fresh, hreaches, fun hun => ⟨rfl, ?_⟩⟩
  change Option.filter _ key = none
  rw [hunkeyed (hun.arrive n _)]
  rfl

/-- A scalar between double quotes. -/
theorem Node.quoted (text : String) :
    Node (Writing.quoted text).toList [.scalar text.toList .quoted] := by
  rintro s rest hs ⟨n, hrest⟩
  exact quoted_of_arrival text hs.toReady (fun c after hc hrest => hs.toNextToken hrest hc)
    (.inl (inFlow_of_outerKeys hs.inFlow)) hrest

/-! ### Brackets -/

/-- The two kinds of brackets. -/
inductive Brackets where
  | square
  | curly

namespace Brackets

def opening : Brackets → Char
  | square => '['
  | curly => '\x7b'

def closing : Brackets → Char
  | square => ']'
  | curly => '\x7d'

def startKind : Brackets → TokenKind
  | square => .flowSequenceStart
  | curly => .flowMappingStart

def endKind : Brackets → TokenKind
  | square => .flowSequenceEnd
  | curly => .flowMappingEnd

variable (b : Brackets)

theorem endsGap_opening : endsGap b.opening = true := by cases b <;> rfl

theorem endsGap_closing : endsGap b.closing = true := by cases b <;> rfl

theorem startKind_ne : b.startKind ≠ .streamEnd := by cases b <;> simp [startKind]

theorem endKind_ne : b.endKind ≠ .streamEnd := by cases b <;> simp [endKind]

theorem scanFromChar_opening (s : Scanner) (after : List Char) :
    s.scanFromChar b.opening after = s.scanFlowStart b.startKind := by
  cases b <;> rfl

theorem scanFromChar_closing (s : Scanner) (after : List Char) :
    s.scanFromChar b.closing after = s.scanFlowEnd b.endKind := by
  cases b <;> rfl

theorem opening_starts (after : List Char) :
    b.opening ≠ '%' ∧ atDocumentIndicator (b.opening :: after) = false := by
  cases b <;> exact ⟨by decide, rfl⟩

end Brackets

variable {s : Scanner} {chars rest : List Char} {kinds : List TokenKind}

/-- An opening bracket inside a flow collection, after which a key may begin. -/
theorem opening (b : Brackets) (hs : s.Flowing) (hahead : s.Ahead (b.opening :: rest)) :
    ∃ t key, s.Reaches t [b.startKind] (key :: s.outerKeys) rest ∧ t.keyAllowed = true ∧
      (s.Unkeyed → key = none) := by
  obtain ⟨n, hrest⟩ := hahead
  have hready := hs.toReady.arrive n (b.opening :: rest)
  have hinFlow : (s.arrive n (b.opening :: rest)).inFlow = true := inFlow_of_outerKeys hs.inFlow
  -- A key that may begin at the bracket is noted, and set aside until the bracket is closed.
  obtain ⟨key, hfree, hnote, hunkeyed⟩ := noteKey_of_ready hready (.inl hinFlow)
  refine ⟨_, key, hs.emits hrest b.endsGap_opening
    (t := { s.arrive n (b.opening :: rest) with
      key := none, outerKeys := key :: s.outerKeys, keyAllowed := true }) ?_ rfl rfl rfl
    ⟨rfl, SimpleKey.isFree_none, hready.blockKey, ?_⟩ b.startKind_ne, rfl,
    fun hun => hunkeyed (hun.arrive n _)⟩
  · -- The bracket is scanned with the key set aside.
    rw [b.scanFromChar_opening]
    exact scanFlowStart_of_inFlow _ hnote hinFlow
  · -- The key set aside is not required, nor are those around it.
    rintro key' (_ | ⟨_, hmem⟩)
    · exact hfree
    · exact hready.outerKeys key' hmem

/-- A closing bracket. -/
theorem closing (b : Brackets) (hs : s.Flowing) {key : Option SimpleKey}
    {outer : List (Option SimpleKey)} (houter : s.outerKeys = key :: outer)
    (hahead : s.Ahead (b.closing :: rest)) :
    ∃ t, s.Reaches t [b.endKind] outer rest ∧ t.keyAllowed = false ∧
      (outer ≠ [] → key = none → t.key = none) := by
  obtain ⟨n, hrest⟩ := hahead
  have hready := hs.toReady.arrive n (b.closing :: rest)
  -- A key that has begun in front of the closing bracket is dropped without a fault.
  have hdropped : { s.arrive n (b.closing :: rest) with key := none }.Ready :=
    ⟨rfl, SimpleKey.isFree_none, hready.blockKey, hready.outerKeys⟩
  obtain ⟨key', blockKey, hfree, hblock, hleave, hkey⟩ :=
    leaveFlow_of_outerKeys hdropped houter
  refine ⟨_, hs.emits hrest b.endsGap_closing
    (t := { s.arrive n (b.closing :: rest) with
      key := key', blockKey, outerKeys := outer, keyAllowed := false }) ?_ rfl rfl rfl
    ⟨rfl, hfree, hblock, ?_⟩ b.endKind_ne, rfl, fun hne hnone => ?_⟩
  · -- The bracket is scanned with the key of the depth around it back in place.
    rw [b.scanFromChar_closing, scanFlowEnd, dropKey_of_isFree hready.key]
    simp only [bind, Except.bind]
    rw [hleave]
  · exact fun key'' hmem => hready.outerKeys key'' (houter ▸ List.mem_cons_of_mem key hmem)
  · -- If that is none, none is left.
    change Option.filter _ key' = none
    rw [hkey hne, hnone]
    rfl

theorem Brackets.atClass_closing (b : Brackets) (rest : List Char) :
    atClass isFlowIndicator (b.closing :: rest) = true := by
  cases b <;> rfl

/-- **Brackets around their inner part make a node.** -/
theorem Node.brackets (b : Brackets) (h : Content chars kinds) :
    Node (b.opening :: chars ++ [b.closing]) (b.startKind :: kinds ++ [b.endKind]) := by
  intro s rest hs hahead
  rw [List.append_assoc, List.cons_append] at hahead
  -- The key noted at the opening bracket comes back at the closing one.
  obtain ⟨t, key, ht, hallowed, hkey⟩ := opening b hs hahead
  obtain ⟨u, hu⟩ := h t ([b.closing] ++ rest) (ht.flowing (by simp)) hallowed
    (b.atClass_closing rest) ht.ahead
  rw [ht.outer] at hu
  obtain ⟨v, hv, hallowed', hnone⟩ := closing b (hu.flowing (by simp)) hu.outer hu.ahead
  exact ⟨v, (ht.trans hu).trans hv,
    fun hun => ⟨hallowed', hnone hs.inFlow (hkey hun)⟩⟩

/-- The tokens of a key and its value. -/
def pairKinds (key value : List TokenKind) : List TokenKind := .key :: (key ++ .value :: value)

end Flow
end Yaml
end ApiStubs
