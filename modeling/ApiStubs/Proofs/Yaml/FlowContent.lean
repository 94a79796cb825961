import ApiStubs.Proofs.Yaml.KeyTokens

/-!
# What is between brackets

A plain scalar ends where something comes that is no part of it, so what follows it matters, other
than for nodes with brackets or quotes around them:

* `Flow.Item chars kinds` — in front of a comma or a closing bracket, the characters are a node of
  these tokens. Phrases are items (`Flow.Item.phrase`), and so are all nodes (`Flow.Node.item`).

Items with commas between them are the content of brackets (`Flow.Content.intercalate`), and so are
keys and values. A key may have a question mark in front of it (`Flow.Content.pair`); without one,
it is a token with its colon directly behind it (`Flow.Content.entry`).
-/

namespace ApiStubs
namespace Yaml

open SimpleKey (IsFree)

namespace Flow

open Scanner

variable {chars : List Char} {kinds : List TokenKind}

/-! ### Items -/

/-- **The tokens of an item.** In front of a comma or a closing bracket, the scanner passes these
characters and adds tokens of these kinds. -/
def Item (chars : List Char) (kinds : List TokenKind) : Prop :=
  ∀ (s : Scanner) (rest : List Char), s.Flowing → atClass isFlowIndicator rest = true →
    s.Ahead (chars ++ rest) → ∃ t, s.Reaches t kinds s.outerKeys rest

theorem Node.item (h : Node chars kinds) : Item chars kinds := by
  intro s rest hs _ hahead
  obtain ⟨t, ht, -⟩ := h s rest hs hahead
  exact ⟨t, ht⟩

theorem Item.content (h : Item chars kinds) : Content chars kinds :=
  fun s rest hs _ hrest hahead => h s rest hs hrest hahead

/-- **A phrase is an item.** -/
theorem Item.phrase (h : Plain.IsPhrase chars) : Item chars [.scalar chars .plain] := by
  rintro s rest hs hrest ⟨n, hahead⟩
  obtain ⟨c, more, rfl, hc, -⟩ := starts_of_isPhrase h
  let t := s.arrive n (c :: more ++ rest)
  have hready : t.Ready := hs.toReady.arrive n _
  have hinFlow : t.inFlow = true := inFlow_of_outerKeys hs.inFlow
  obtain ⟨key, hkey, hnote, -⟩ := noteKey_of_ready hready (.inl hinFlow)
  -- Inside of flow collections, a scalar may stand on any column, and a flow indicator ends it.
  have hscanned := Plain.scan_phrase t.inFlow (t.indents.head?.elim 0 (· + 1)) t.cursor rfl h
    (.inl hinFlow) rfl
  rw [Plain.scanFrom_flowIndicator rfl hinFlow _ _ hrest, List.reverse_reverse] at hscanned
  let u : Scanner := emitTo { t with key, keyAllowed := false } (.scalar (c :: more) .plain)
    ⟨t.cursor.mark.passAll (c :: more), rest, none⟩
  have hscan : t.scanFromChar c (more ++ rest) = .ok u := by
    rw [scanFromChar_phrase h, scanPlain_eq hnote hscanned]
  -- The scalar is on one line, so keys that are free at its start are free behind it.
  have hline : t.mark.line ≤ u.mark.line := Nat.le_of_eq (Mark.passAll_line _ _).symm
  have huready : u.Ready := ⟨rfl, hkey.mono hline, hready.blockKey.mono hline,
    fun outer houter => (hready.outerKeys outer houter).mono hline⟩
  -- The scanner is behind one character at least.
  have hcolumn : 0 < u.mark.column := by
    change 0 < (t.cursor.mark.passAll (c :: more)).column
    rw [Mark.passAll_column, List.length_cons]
    omega
  exact ⟨u.fresh, .of_scan (hs.toNextToken hahead hc) rfl hahead
    (.inl (Nat.add_pos_left hs.column n)) hscan huready hcolumn ⟨t.mark, rfl⟩ (by simp) rfl
    (by simp) rfl⟩

theorem Item.word (h : Plain.IsWord chars) : Item chars [.scalar chars .plain] := .phrase (.word h)

/-! ### Parts with commas between them -/

/-- What stands between two items. -/
def separator : List Char := [',', ' ']

theorem Content.nil : Content [] [] :=
  fun s _ hs _ _ hahead =>
    ⟨s, .refl s, hs.toReady, hs.column, hahead, (List.append_nil _).symm, rfl, rfl⟩

/-- Parts with commas between them. -/
theorem Content.intercalate {charss : List (List Char)} {kindss : List (List TokenKind)}
    (h : List.Forall₂ Content charss kindss) :
    Content (separator.intercalate charss) ([.flowEntry].intercalate kindss) := by
  -- By induction on the parts; only one that has a successor has a comma behind it.
  induction h with
  | nil => exact .nil
  | @cons chars kinds charss kindss hpart hparts ih =>
    cases hparts with
    | nil =>
      rw [List.intercalate_singleton, List.intercalate_singleton]
      exact hpart
    | cons hnext hparts =>
      rw [List.intercalate_cons_cons, List.intercalate_cons_cons]
      intro s rest hs hallowed hrest hahead
      rw [List.append_assoc, List.append_assoc] at hahead
      -- The part ends at its comma.
      obtain ⟨t, ht⟩ := hpart s _ hs hallowed rfl hahead
      obtain ⟨u, hu, hallowed'⟩ := comma (ht.flowing hs.inFlow) ht.ahead
      rw [ht.outer] at hu
      -- Behind the comma, a key may begin, which is what the other parts ask for.
      obtain ⟨v, hv⟩ := ih u rest (hu.flowing hs.inFlow) hallowed' hrest hu.ahead.of_space
      rw [hu.outer] at hv
      rw [List.append_assoc]
      exact ⟨v, ht.trans (hu.trans hv)⟩

/-! ### Keys and values -/

/-- The characters of a key that a question mark announces, and its value. -/
def pairChars (key value : List Char) : List Char :=
  '?' :: ' ' :: (key ++ ' ' :: ':' :: ' ' :: value)

/-- A key that a question mark announces, and its value. -/
theorem Content.pair {key value : List Char} {keyKinds valueKinds : List TokenKind}
    (hkey : Node key keyKinds) (hvalue : Item value valueKinds) :
    Content (pairChars key value) (pairKinds keyKinds valueKinds) := by
  intro s rest hs _ hrest hahead
  simp only [pairChars, List.cons_append, List.append_assoc] at hahead
  -- No key has begun behind the question mark, nor behind the node that is the key.
  obtain ⟨t, ht, hunkeyed⟩ := question hs hahead
  obtain ⟨u, hu, hcolon⟩ := hkey t _ (ht.flowing hs.inFlow) ht.ahead.of_space
  rw [ht.outer] at hu
  obtain ⟨v, hv⟩ := colon (hu.flowing hs.inFlow) (hcolon hunkeyed) hu.ahead.of_space
  rw [hu.outer] at hv
  obtain ⟨w, hw⟩ := hvalue v rest (hv.flowing hs.inFlow) hrest hv.ahead.of_space
  rw [hv.outer] at hw
  refine ⟨w, ?_⟩
  -- Question mark, key, colon and value, in one go.
  have hall := ht.trans (hu.trans (hv.trans hw))
  simpa [pairKinds] using hall

/-- The characters of a key with a colon directly behind it, and its value. -/
def entryChars (key value : List Char) : List Char := key ++ ':' :: ' ' :: value

/-- Past the spaces, the scanner is at a token. -/
theorem exists_arrived {s : Scanner} (hs : s.Flowing) (hahead : s.Ahead chars)
    (hchars : atClass endsGap chars) :
    ∃ t, s.Reaches t [] s.outerKeys chars ∧ t.cursor.rest = chars ∧ t.keyAllowed = s.keyAllowed ∧
      t.toNextToken = .ok t := by
  obtain ⟨n, hrest⟩ := hahead
  obtain ⟨c, after, rfl⟩ := exists_cons_of_atClass hchars
  let t := s.arrive n (c :: after)
  have hready : t.Ready := hs.toReady.arrive n _
  -- At the token, stale keys have been dropped already, so that looking for it again changes
  -- nothing.
  have hrefresh : t.refreshKeys = .ok t :=
    (refreshKeys_of_isFree hready.key hready.blockKey).trans (congrArg _ (fresh_fresh _))
  have harrived : t.toNextToken = .ok t :=
    toNextToken_of_arrived rfl rfl hchars hrefresh (.inl (inFlow_of_outerKeys hs.inFlow))
  -- The spaces have been passed, and no other character.
  have hlength : t.cursor.rest.length ≤ s.cursor.rest.length := by
    rw [hrest, List.length_append]
    exact Nat.le_add_left _ _
  have hcolumn : 0 < t.mark.column := by
    rw [arrive_column]
    exact Nat.add_pos_left hs.column n
  exact ⟨t, ⟨.of_arrival (hs.toNextToken hrest hchars) harrived hlength, hready, hcolumn,
    .of_rest rfl, (List.append_nil _).symm, rfl, rfl⟩, rfl, rfl, harrived⟩

/-- **A key and its value.** The colon makes the token before it a key, since a key may begin
there. -/
theorem Content.entry {key value : List Char} {kind : TokenKind} {valueKinds : List TokenKind}
    (hkey : KeyToken key kind) (hvalue : Item value valueKinds) :
    Content (entryChars key value) (pairKinds [kind] valueKinds) := by
  intro s rest hs hallowed hrest hahead
  have hstarts : atClass endsGap key := by
    obtain ⟨c, more, rfl, hc, -⟩ := hkey.starts
    exact hc
  rw [entryChars, List.append_assoc] at hahead
  -- The scanner is taken to the key itself, where it may begin one.
  obtain ⟨t, ht, hchars, hallowed', harrived⟩ :=
    exists_arrived hs hahead (atClass_append hstarts _)
  have hinFlow : t.inFlow = true := inFlow_of_outerKeys (ht.flowing hs.inFlow).inFlow
  obtain ⟨u, hu⟩ := keyed_of_token hkey rfl ht.ready harrived (hallowed'.trans hallowed) hchars
    (.inl hinFlow)
  -- No mapping starts before the key, since the brackets have started it.
  let inserted := u.insert t.count .key t.mark
  have huflow : inserted.inFlow = true :=
    inFlow_of_outerKeys (by exact hu.outerKeys ▸ (ht.flowing hs.inFlow).inFlow)
  have hroll : inserted.roll t.count .blockMappingStart t.mark =
      { u with tokens := inserted.tokens, count := inserted.count } := by
    rw [roll, huflow]
    rfl
  obtain ⟨v, hv⟩ := colon_of_roll hu rfl hroll
  -- The key token has been put in front of the key, and the value token stands behind it.
  have hkinds : v.kinds = s.kinds ++ [.key, kind, .value] := by
    have htkinds : (t.tokens.map (·.kind)).reverse = s.kinds := ht.kinds.trans (List.append_nil _)
    rw [hv.kinds, hu.insert_eq.1]
    simp [htkinds]
  have hcolon : s.Reaches v [.key, kind, .value] s.outerKeys (' ' :: value ++ rest) :=
    ⟨ht.leads.trans hv.leads, hv.ready, Nat.zero_lt_of_lt hv.column, .of_rest hv.rest, hkinds,
      hv.indents.trans (hu.indents.trans ht.indents), hv.outerKeys.trans ht.outer⟩
  obtain ⟨w, hw⟩ := hvalue v rest (hcolon.flowing hs.inFlow) hrest hcolon.ahead.of_space
  rw [hcolon.outer] at hw
  exact ⟨w, hcolon.trans hw⟩

end Flow
end Yaml
end ApiStubs
