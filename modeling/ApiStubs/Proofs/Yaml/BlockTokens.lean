import ApiStubs.Proofs.Yaml.FlowContent

/-!
# Scanning block collections

Nodes and their parts lead from places at tokens to places behind them:

* `Block.Node column chars kinds` — from a token at this column, deeper than all that is open,
  the scanner passes these characters, and they stand for these tokens;
* `Block.Part start column chars kinds` — the same for a part of a collection, which opens the
  collection if none is open at the column.

A flow collection or a quoted scalar is a node at every column (`Block.Inline.node`), and parts
on lines of their own are one (`Block.Node.collection`). A part is an item behind a dash
(`Part.item`), a key and a value behind a question mark and a colon (`Part.explicit`), or a
token that is a key with a colon and a value behind it (`Part.inline`, `Part.below`). If a text
is a node, its tokens are those of the node (`Block.Node.tokens`).
-/

namespace ApiStubs
namespace Yaml

open SimpleKey (IsFree)

namespace Block

open Scanner
open ApiStubs.Yaml.Flow (Brackets Content pairKinds)

/-! ### Dashes, question marks and colons -/

/-- The characters that show a part of a block collection. -/
inductive Indicator where
  | dash
  | question
  | colon

namespace Indicator

def char : Indicator → Char
  | dash => '-'
  | question => '?'
  | colon => ':'

def kind : Indicator → TokenKind
  | dash => .blockEntry
  | question => .key
  | colon => .value

/-- The start of the collection to which the part belongs. -/
def start : Indicator → TokenKind
  | dash => .blockSequenceStart
  | question | colon => .blockMappingStart

variable (i : Indicator)

theorem kind_ne : i.kind ≠ .streamEnd := by cases i <;> simp [kind]

theorem char_starts (after : List Char) :
    i.char ≠ '%' ∧ atDocumentIndicator (i.char :: ' ' :: after) = false := by
  cases i <;> exact ⟨by decide, rfl⟩

/-- Where a key may begin but none has begun, all of them do the same. -/
theorem scanFromChar_char {s : Scanner} (houter : s.outerKeys = []) (hallowed : s.keyAllowed = true)
    (hkey : s.key = none) (after : List Char) :
    s.scanFromChar i.char (' ' :: after) =
      .ok (emit { s.roll s.count i.start s.mark with keyAllowed := true } i.kind 1) := by
  have hinFlow : s.inFlow = false := inFlow_of_nil houter
  -- A block collection may be opened wherever a key may begin.
  have hopen : ∀ problem kind, s.openBlock problem kind = .ok (s.roll s.count kind s.mark) := by
    intro problem kind
    rw [openBlock, hinFlow, hallowed]
    rfl
  have hdrop : ∀ kind, (s.roll s.count kind s.mark).dropKey = .ok (s.roll s.count kind s.mark) := by
    intro kind
    rw [dropKey, roll_key, hkey]
  have hrolled : ∀ kind, (s.roll s.count kind s.mark).inFlow = false :=
    fun kind => inFlow_of_nil (by rw [roll_outerKeys, houter])
  have hgap : atGap (' ' :: after) = true := rfl
  -- For each of the three, the space behind it rules out a plain scalar.
  cases i with
  | dash =>
    have hchar : s.scanFromChar '-' (' ' :: after) = s.scanBlockEntry := by
      simp [scanFromChar, hgap]
    simp only [char, hchar, scanBlockEntry, hopen, hdrop, bind, Except.bind]
    rfl
  | question =>
    have hchar : s.scanFromChar '?' (' ' :: after) = s.scanKey := by
      simp [scanFromChar, hgap]
    simp only [char, hchar, scanKey, hopen, hdrop, hrolled, bind, Except.bind]
    rfl
  | colon =>
    have hchar : s.scanFromChar ':' (' ' :: after) = s.scanValue := by
      simp [scanFromChar, hgap]
    simp only [char, hchar, scanValue, hkey, hopen, hrolled, bind, Except.bind]
    rfl

end Indicator

variable {s : Scanner} {column : Nat} {before indents : List Nat} {kinds starts : List TokenKind}
variable {chars rest : List Char}

/-- **A dash, question mark or colon** with a space behind it. Another token may start after
that, two columns further on. -/
theorem indicator (i : Indicator) (hs : s.Stands column before kinds (i.char :: ' ' :: chars))
    (hopens : Opens i.start column before indents starts) (hchars : atClass endsGap chars) :
    ∃ t, s.Leads t ∧ t.Stands (column + 2) indents (kinds ++ starts ++ [i.kind]) chars := by
  -- The collection is open behind this step: it is opened here, or it has been open.
  rw [← hs.indents] at hopens
  obtain ⟨tokens, count, hroll, hkinds⟩ := roll_of_opens [] hs.outerKeys hs.column hopens
    (List.nil_append _).symm (Nat.sub_self s.count)
  have hscan := i.scanFromChar_char hs.outerKeys hs.keyAllowed hs.key chars
  rw [hroll] at hscan
  have hready : { s with tokens, count, indents, keyAllowed := true }.Ready :=
    ⟨hs.ready.readable, hs.ready.key, hs.ready.blockKey, hs.ready.outerKeys⟩
  -- Behind the character, one space is left before the next token.
  let u : Scanner := emit { s with tokens, count, indents, keyAllowed := true } i.kind 1
  have huready : u.Ready := hready.emit _ _
  have hurest : u.cursor.rest = ' ' :: chars := by
    change s.cursor.rest.drop 1 = _
    rw [hs.rest]
    rfl
  have hcolumn : u.mark.column = column + 1 := by
    change (s.mark.passAll (s.cursor.rest.take 1)).column = _
    rw [hs.rest, Mark.passAll_column, hs.column]
    rfl
  have hukinds : u.fresh.kinds = kinds ++ starts ++ [i.kind] := by
    change ((⟨i.kind, s.mark⟩ :: tokens : List Token).map (·.kind)).reverse = _
    have hearlier := hs.kinds
    rw [Scanner.kinds] at hearlier
    rw [List.map_cons, List.reverse_cons, hkinds, List.map_nil, List.nil_append,
      List.reverse_append, hearlier, hopens.reverse_eq]
  -- The step is the scan of the character, and the scanner goes on behind it.
  have hleads : s.Leads u.fresh :=
    .of_scan hs.arrived hs.ready.readable hs.rest (.inr (i.char_starts chars)) hscan
      (refreshKeys_of_isFree huready.key huready.blockKey) rfl i.kind_ne
      (by change u.cursor.rest.length < _; rw [hurest, hs.rest]; simp)
  have hdeeper : Deeper (u.fresh.mark.column + 2) u.fresh.indents := by
    change Deeper (u.mark.column + 2) indents
    rw [hcolumn]
    exact hopens.deeper_after (by omega)
  have hukey : u.fresh.key = none := by
    change Option.filter _ s.key = none
    rw [hs.key]
    rfl
  -- What is left is to arrive at the next token, past the space.
  obtain ⟨t, hleads', ht⟩ := stands_of_space huready.fresh hs.outerKeys rfl hukey hurest hchars
    hdeeper
  refine ⟨t, hleads.trans hleads', ?_⟩
  rw [hukinds, show u.fresh.mark.column = column + 1 from hcolumn] at ht
  exact ht

/-! ### Nodes on one line -/

/-- **The tokens of a node on one line**, deeper than all collections that are open. -/
structure Inline (chars : List Char) (kinds : List TokenKind) : Prop where
  /-- A token starts with the first character. -/
  starts : atClass endsGap chars
  scans : ∀ (s : Scanner) (n : Nat) (rest : List Char), s.Ready → s.outerKeys = [] →
    s.cursor.rest = List.replicate n ' ' ++ (chars ++ rest) →
      Deeper (s.mark.column + n) s.indents → ∃ t, s.Reaches t kinds [] rest

theorem toNextToken_deeper {n : Nat} (hs : s.Ready) (hdeep : Deeper (s.mark.column + n) s.indents)
    {c : Char} {after : List Char} (hc : endsGap c = true)
    (hrest : s.cursor.rest = List.replicate n ' ' ++ c :: after) :
    s.toNextToken = .ok (s.arrive n (c :: after)) := by
  rw [toNextToken_spaces hs.readable hs.key hs.blockKey hrest hc, unroll_of_within]
  exact .inr (hdeep.mono (Nat.le_succ _))

/-- What is deeper than all collections that are open is at the column of none. -/
theorem head_ne_of_deeper (hdeep : Deeper column indents) : indents.head? ≠ some column :=
  fun hhead => Nat.lt_irrefl _ (hdeep _ hhead)

/-- A scalar between double quotes. -/
theorem Inline.quoted (text : String) :
    Inline (Writing.quoted text).toList [.scalar text.toList .quoted] where
  starts := by
    rw [Writing.quoted, String.toList_ofList]
    rfl
  scans s n rest hs houter hrest hdeep := by
    obtain ⟨t, ht, -⟩ := Flow.quoted_of_arrival text hs
      (fun c after hc hrest => toNextToken_deeper hs hdeep hc hrest)
      (.inr (head_ne_of_deeper hdeep)) hrest
    exact ⟨t, houter ▸ ht⟩

/-- Brackets around their inner part. -/
theorem Inline.brackets {run : List Char} (b : Brackets) (h : Content run kinds) :
    Inline (b.opening :: run ++ [b.closing]) (b.startKind :: kinds ++ [b.endKind]) where
  starts := b.endsGap_opening
  scans s n rest hs houter hrest hdeep := by
    rw [List.append_assoc, List.cons_append] at hrest
    -- The scanner is at the opening bracket, where no block collection has to be closed.
    let t := s.arrive n (b.opening :: (run ++ ([b.closing] ++ rest)))
    have hready : t.Ready := hs.arrive n _
    have hinFlow : t.inFlow = false := inFlow_of_nil houter
    obtain ⟨key, hfree, hnote, -⟩ := noteKey_of_ready hready
      (.inr (by rw [arrive_column]; exact head_ne_of_deeper hdeep))
    -- The key that the brackets may be is kept aside until they are closed.
    let u : Scanner := emit
      { t with key := none, blockKey := key, outerKeys := [none], keyAllowed := true } b.startKind 1
    have hscan : t.scanFromChar b.opening (run ++ ([b.closing] ++ rest)) = .ok u := by
      have henter : { t with key }.enterFlow =
          { t with key := none, blockKey := key, outerKeys := [none] } :=
        if_neg (ne_true_of_eq_false hinFlow)
      rw [b.scanFromChar_opening, scanFlowStart, hnote]
      simp only [bind, Except.bind, henter]
      rfl
    -- Inside of the brackets, no key has begun yet, and the one set aside is not required.
    have huready : u.Ready := Ready.emit
      (s := { t with key := none, blockKey := key, outerKeys := [none], keyAllowed := true })
      ⟨rfl, SimpleKey.isFree_none, hfree, by
        rw [List.forall_mem_singleton]
        exact SimpleKey.isFree_none⟩ _ _
    have hopen : s.Reaches u.fresh [b.startKind] [none] (run ++ ([b.closing] ++ rest)) :=
      .of_scan (toNextToken_deeper hs hdeep b.endsGap_opening hrest) rfl hrest
        (.inr (b.opening_starts _)) hscan huready (Nat.succ_pos _) ⟨t.mark, rfl⟩ b.startKind_ne rfl
        (Nat.le_refl _) rfl
    -- From here on the scanner is inside a flow collection, as `h` demands.
    obtain ⟨v, hv⟩ := h _ _ (hopen.flowing (by simp)) rfl (b.atClass_closing rest) hopen.ahead
    rw [hopen.outer] at hv
    obtain ⟨w, hw, -, -⟩ := Flow.closing b (hv.flowing (by simp)) hv.outer hv.ahead
    exact ⟨w, (hopen.trans hv).trans hw⟩

/-! ### Ends of lines -/

/-- **What stands behind a node**: the end of its line, and on the next one a token that is no
deeper than the innermost collection, or nothing. -/
def EndsLine (indents : List Nat) (rest : List Char) : Prop :=
  ∃ column chars, rest = lineTo column ++ chars ∧
    (column = 0 ∧ chars = [] ∨ atClass endsGap chars ∧ ∃ indent ∈ indents.head?, column ≤ indent)

/-- The end of a text. -/
theorem EndsLine.last (indents : List Nat) : EndsLine indents ['\n'] :=
  ⟨0, [], rfl, .inl ⟨rfl, rfl⟩⟩

/-- A token at the column of the innermost collection. -/
theorem EndsLine.next {outer : List Nat} (h : atClass endsGap chars) :
    EndsLine (column :: outer) (lineTo column ++ chars) :=
  ⟨column, chars, rfl, .inr ⟨h, column, rfl, Nat.le_refl _⟩⟩

/-- What stands behind a collection stands behind its last part. -/
theorem EndsLine.inner (h : EndsLine indents rest) (hdeep : Deeper column indents) :
    EndsLine (column :: indents) rest := by
  obtain ⟨next, chars, rfl, hchars⟩ := h
  -- The next line is not deeper than the innermost collection, and so not than one inside of it.
  refine ⟨next, chars, rfl, hchars.imp id fun ⟨hchars, indent, hindent, hle⟩ => ?_⟩
  exact ⟨hchars, column, rfl, Nat.le_trans hle (Nat.le_of_lt (hdeep indent hindent))⟩

/-! ### Nodes and parts -/

/-- **The tokens of a node.** The collections that it opens are yet to be closed. -/
structure Node (column : Nat) (chars : List Char) (kinds : List TokenKind) : Prop where
  /-- A token starts with the first character. -/
  starts : atClass endsGap chars
  scans : ∀ (s : Scanner) (indents : List Nat) (added : List TokenKind) (rest : List Char),
    s.Stands column indents added (chars ++ rest) → Deeper column indents →
      EndsLine indents rest → ∃ t, s.Leads t ∧ t.Settled column indents (added ++ kinds) rest

/-- **The tokens of a part of a block collection.** The collection at the column stays open. -/
structure Part (start : TokenKind) (column : Nat) (chars : List Char) (kinds : List TokenKind) :
    Prop where
  /-- A token starts with the first character. -/
  starts : atClass endsGap chars
  scans : ∀ (s : Scanner) (before indents : List Nat) (added starts : List TokenKind)
      (rest : List Char),
    s.Stands column before added (chars ++ rest) → Opens start column before indents starts →
      EndsLine indents rest →
        ∃ t, s.Leads t ∧ t.Settled (column + 1) indents (added ++ starts ++ kinds) rest

theorem settled_of_reaches {t : Scanner} (h : s.Reaches t kinds [] rest) (column : Nat) :
    t.Settled column s.indents (s.kinds ++ kinds) rest := by
  rw [← h.indents, ← h.kinds]
  exact .of_closed h.ready h.outer h.ahead column

/-- A node on one line is a node. -/
theorem Inline.node (h : Inline chars kinds) (column : Nat) : Node column chars kinds where
  starts := h.starts
  scans s indents added rest hs hdeep _ := by
    -- The node is scanned where it stands, without a gap in front of it.
    obtain ⟨t, ht⟩ := h.scans s 0 rest hs.ready hs.outerKeys hs.rest
      (by rw [hs.indents, hs.column]; exact hdeep)
    refine ⟨t, ht.leads, ?_⟩
    rw [← hs.indents, ← hs.kinds]
    exact settled_of_reaches ht column

/-- An item behind a dash. -/
theorem Part.item (h : Node (column + 2) chars kinds) :
    Part .blockSequenceStart column ('-' :: ' ' :: chars) (.blockEntry :: kinds) where
  starts := rfl
  scans s before indents added starts rest hs hopens hends := by
    -- The dash opens the sequence, or goes on with it, and the item stands two columns further on.
    obtain ⟨t, ht, hstands⟩ := indicator .dash hs hopens (atClass_append h.starts rest)
    obtain ⟨u, hu, hsettled⟩ :=
      h.scans t indents _ rest hstands (hopens.deeper_after (by omega)) hends
    refine ⟨u, ht.trans hu, ?_⟩
    rw [List.append_assoc _ [Indicator.dash.kind]] at hsettled
    exact hsettled.mono (by omega)

/-- A key behind a question mark, and its value behind a colon on the next line. -/
theorem Part.explicit {value : List Char} {valueKinds : List TokenKind}
    (hkey : Node (column + 2) chars kinds) (hvalue : Node (column + 2) value valueKinds) :
    Part .blockMappingStart column
      ('?' :: ' ' :: (chars ++ lineTo column ++ ':' :: ' ' :: value))
      (pairKinds kinds valueKinds) where
  starts := rfl
  scans s before indents added starts rest hs hopens hends := by
    simp only [List.cons_append, List.append_assoc] at hs
    -- The question mark opens the mapping, or goes on with it.
    obtain ⟨t, ht, hstands⟩ := indicator .question hs hopens (atClass_append hkey.starts _)
    obtain ⟨outer, hhead⟩ := hopens.exists_outer
    subst hhead
    -- The key ends its line, at the end of which the colon follows at the column of the mapping.
    obtain ⟨u, hu, hsettled⟩ := hkey.scans t _ _ _ hstands (deeper_cons (by omega)) (.next rfl)
    -- The mapping is open when the colon comes.
    obtain ⟨v, hv, hcolon⟩ := hsettled.nextLine rfl (by omega) (deeper_cons (by omega))
    -- The value stands behind the colon as the key does behind the question mark.
    obtain ⟨w, hw, hstands'⟩ := indicator .colon hcolon .again (atClass_append hvalue.starts _)
    obtain ⟨x, hx, hsettled'⟩ := hvalue.scans w _ _ rest hstands' (deeper_cons (by omega)) hends
    refine ⟨x, ht.trans (hu.trans (hv.trans (hw.trans hx))), ?_⟩
    simpa [pairKinds, Indicator.kind] using hsettled'.mono (by omega)

/-! ### Keys without a question mark -/

/-- A colon makes the token a key: the mapping and the key start before it. -/
theorem colon_of_keyed {u : Scanner} {kind : TokenKind} (h : Keyed s u kind rest)
    (hgap : atGap rest) (houter : s.outerKeys = [])
    (hopens : Opens .blockMappingStart s.mark.column s.indents indents starts) :
    ∃ t, Colon s t indents (s.kinds ++ starts ++ [.key, kind, .value]) rest := by
  have huouter : u.outerKeys = [] := h.outerKeys.trans houter
  obtain ⟨htokens, hcount⟩ := h.insert_eq
  rw [← h.indents] at hopens
  -- The mapping starts before its key, where the key's number says.
  obtain ⟨tokens, count, hroll, hkinds⟩ :=
    roll_of_opens _ (by exact huouter) (Eq.refl s.mark.column) (by exact hopens) htokens hcount
  obtain ⟨t, ht⟩ := colon_of_roll h hgap hroll
  refine ⟨t, ?_⟩
  -- The key token and the start of the mapping are put in front of the token that is the key.
  rw [hkinds] at ht
  simpa [Scanner.kinds, hopens.reverse_eq] using ht

/-- **The key of a block mapping** with its colon. -/
theorem key_colon {kind : TokenKind} (h : KeyToken chars kind) (hgap : atGap rest)
    (hs : s.Stands column before kinds (chars ++ ':' :: rest))
    (hopens : Opens .blockMappingStart column before indents starts) :
    ∃ t, Colon s t indents (kinds ++ starts ++ [.key, kind, .value]) rest := by
  rw [← hs.column, ← hs.indents] at hopens
  -- The token is scanned first, and only the colon shows that it is a key.
  obtain ⟨u, hu⟩ := keyed_of_token h hgap hs.ready hs.arrived hs.keyAllowed hs.rest
    (.inr hopens.deeper_before)
  rw [← hs.kinds]
  exact colon_of_keyed hu hgap hs.outerKeys hopens

/-- A key, and its value behind a colon on the same line. -/
theorem Part.inline {kind : TokenKind} {value : List Char} {valueKinds : List TokenKind}
    (hkey : KeyToken chars kind) (hvalue : Inline value valueKinds) :
    Part .blockMappingStart column (chars ++ ':' :: ' ' :: value)
      (pairKinds [kind] valueKinds) where
  starts := by
    obtain ⟨c, more, rfl, hc, -⟩ := hkey.starts
    exact hc
  scans s before indents added starts rest hs hopens _ := by
    rw [List.append_assoc, List.cons_append, List.cons_append] at hs
    obtain ⟨t, hcolon⟩ := key_colon hkey rfl hs hopens
    -- Behind the colon, the value is deeper than the mapping, as it is on the right of the key.
    have hdeep : Deeper (t.mark.column + 1) t.indents := by
      rw [hcolon.indents]
      exact hopens.deeper_after (Nat.lt_succ_of_lt (hs.column ▸ hcolon.column))
    obtain ⟨u, hu⟩ := hvalue.scans t 1 rest hcolon.ready (hcolon.outerKeys.trans hs.outerKeys)
      hcolon.rest hdeep
    refine ⟨u, hcolon.leads.trans hu.leads, ?_⟩
    have hsettled := settled_of_reaches hu (column + 1)
    rw [hcolon.indents, hcolon.kinds] at hsettled
    simpa [pairKinds] using hsettled

/-- A key with a colon, and its value on the next line, which is indented more. -/
theorem Part.below {kind : TokenKind} {inner : Nat} {value : List Char}
    {valueKinds : List TokenKind} (hkey : KeyToken chars kind)
    (hvalue : Node inner value valueKinds) (hinner : column < inner) :
    Part .blockMappingStart column (chars ++ ':' :: (lineTo inner ++ value))
      (pairKinds [kind] valueKinds) where
  starts := by
    obtain ⟨c, more, rfl, hc, -⟩ := hkey.starts
    exact hc
  scans s before indents added starts rest hs hopens hends := by
    rw [List.append_assoc, List.cons_append, List.append_assoc] at hs
    obtain ⟨t, hcolon⟩ := key_colon hkey rfl hs hopens
    -- Behind the colon, nothing is left on the line, so that the scanner goes on to the next one.
    have hsettled := Settled.of_closed hcolon.ready (hcolon.outerKeys.trans hs.outerKeys)
      (.of_rest hcolon.rest) (inner + 1)
    rw [hcolon.indents, hcolon.kinds] at hsettled
    obtain ⟨u, hu, hstands⟩ := hsettled.nextLine (atClass_append hvalue.starts rest) (by omega)
      (hopens.deeper_after (by omega))
    -- The value is deeper than the mapping, which stays open behind it.
    obtain ⟨v, hv, hsettled'⟩ :=
      hvalue.scans u indents _ rest hstands (hopens.deeper_after hinner) hends
    refine ⟨v, hcolon.leads.trans (hu.trans hv), ?_⟩
    simpa [pairKinds] using hsettled'.mono hinner

/-! ### Collections -/

/-- Parts on lines of their own, where the collection is open or comes to be open. -/
theorem parts {start : TokenKind} {charss : List (List Char)} {kindss : List (List TokenKind)}
    (h : List.Forall₂ (Part start column) charss kindss) (hne : charss ≠ [])
    (hs : s.Stands column before kinds ((lineTo column).intercalate charss ++ rest))
    (hopens : Opens start column before indents starts) (hends : EndsLine indents rest) :
    ∃ t, s.Leads t ∧ t.Settled (column + 1) indents (kinds ++ starts ++ kindss.flatten) rest := by
  -- By induction on the parts, for how the collection comes to be open: the first part opens it, if
  -- need be, and for the others it has been open.
  induction h generalizing s before kinds starts with
  | nil => exact absurd rfl hne
  | @cons chars kinds' charss kindss hpart hparts ih =>
    cases hparts with
    | nil =>
      rw [List.intercalate_singleton] at hs
      -- The last part has behind it what the collection has.
      simpa using hpart.scans s before indents kinds starts rest hs hopens hends
    | @cons next _ charss _ hnext hparts =>
      rw [List.intercalate_cons_cons, List.append_assoc, List.append_assoc] at hs
      obtain ⟨outer, hhead⟩ := hopens.exists_outer
      subst hhead
      have hchars := atClass_append (atClass_intercalate (lineTo column) hnext.starts charss) rest
      -- The next part is at the column of the collection, so it ends the line of this one.
      obtain ⟨t, ht, hsettled⟩ := hpart.scans s before _ kinds starts _ hs hopens (.next hchars)
      obtain ⟨u, hu, hstands⟩ := hsettled.nextLine hchars (by omega) (deeper_cons (by omega))
      obtain ⟨v, hv, hsettled'⟩ := ih (by simp) hstands .again
      exact ⟨v, ht.trans (hu.trans hv), by simpa using hsettled'⟩

/-- **The tokens of a block collection.** -/
theorem Node.collection {start : TokenKind} {charss : List (List Char)}
    {kindss : List (List TokenKind)} (h : List.Forall₂ (Part start column) charss kindss)
    (hne : charss ≠ []) :
    Node column ((lineTo column).intercalate charss) (start :: kindss.flatten ++ [.blockEnd]) where
  starts := by
    cases h with
    | nil => exact absurd rfl hne
    | cons hpart _ => exact atClass_intercalate _ hpart.starts _
  scans s indents added rest hs hdeep hends := by
    -- Behind the last part, the collection is one more that is yet to be closed.
    obtain ⟨t, ht, hsettled⟩ := parts h hne hs (.first hdeep) (hends.inner hdeep)
    exact ⟨t, ht, by simpa using hsettled.close⟩

/-! ### Whole texts -/

/-- What may stand behind a node that is a whole text. -/
def IsTail (rest : List Char) : Prop := rest = [] ∨ rest = ['\n']

theorem passGap_tail (keyAllowed : Bool) (mark : Mark) (hrest : IsTail rest) :
    ∃ (allowed : Bool) (later : Mark),
      passGap false keyAllowed false mark rest = (allowed, later, []) := by
  rcases hrest with rfl | rfl
  · exact ⟨keyAllowed, mark, by rw [passGap]⟩
  · refine ⟨true, mark.nextLine '\n' 0, ?_⟩
    rw [passGap, if_pos (by decide), breakTail_lineFeed, List.drop_zero, passGap, Bool.not_false,
      Bool.or_true]

/-- The end of the text closes all collections. -/
theorem scanEnd_spec {line : Nat} (houter : s.outerKeys = []) (hkey : IsFree line s.key) :
    ∃ t tokens mark, s.scanEnd = .ok t ∧ t.tokens = ⟨.streamEnd, mark⟩ :: tokens ∧
      (tokens.map (·.kind)).reverse = s.kinds ++ List.replicate s.indents.length .blockEnd ∧
      t.key = none ∧ t.blockKey = s.blockKey := by
  -- A last line without a line feed counts as ended.
  let mark : Mark :=
    if s.mark.column = 0 then s.mark else { s.mark with line := s.mark.line + 1, column := 0 }
  let moved : Scanner := { s with cursor := { s.cursor with mark } }
  -- All of the open collections end here, as there is no token that could belong to one.
  obtain ⟨tokens, count, hunroll, hkinds⟩ := unroll_spec (s := moved) houter none
  have htake : moved.indents.takeWhile (ends none) = s.indents :=
    List.takeWhile_eq_self_iff.mpr fun _ _ => rfl
  rw [htake] at hkinds
  -- A possible key goes without a fault, as none is required.
  have hfree : IsFree line (moved.unroll none).key := by
    rw [hunroll]
    exact hkey
  have hdrop : (moved.unroll none).dropKey = .ok { moved.unroll none with key := none } :=
    dropKey_of_isFree hfree
  let t : Scanner := { moved.unroll none with key := none, keyAllowed := false }
  refine ⟨t.push .streamEnd mark, tokens, mark, ?_, ?_, hkinds, rfl, ?_⟩
  · rw [scanEnd]
    change (moved.unroll none).dropKey.bind _ = _
    rw [hdrop]
    rfl
  · change ⟨.streamEnd, mark⟩ :: (moved.unroll none).tokens = _
    rw [hunroll]
  · change (moved.unroll none).blockKey = _
    rw [hunroll]

/-- At the end of the text all collections are closed, some of them on the way to the end and
the others there. -/
theorem step_end (hs : s.Settled 0 [] kinds rest) (hrest : IsTail rest) :
    ∃ t tokens mark, s.step = .ok t ∧ t.tokens = ⟨.streamEnd, mark⟩ :: tokens ∧
      (tokens.map (·.kind)).reverse = kinds := by
  obtain ⟨n, hahead⟩ := hs.ahead
  obtain ⟨opened, hindents, -, hkinds⟩ := hs.opened
  rw [List.append_nil] at hindents
  -- Behind the last part, there is only a gap up to the end of the text.
  obtain ⟨allowed, later, hgap⟩ :=
    passGap_tail s.keyAllowed (s.mark.passAll (List.replicate n ' ')) hrest
  rw [← passGap_spaces, ← hahead] at hgap
  have hgap' : passGap s.inFlow s.keyAllowed false s.mark s.cursor.rest = (allowed, later, []) := by
    rw [inFlow_of_nil hs.outerKeys]
    exact hgap
  have harrive := toNextToken_of_gap hs.ready.readable hgap'
    (refreshKeys_of_isFree hs.ready.key hs.ready.blockKey)
  -- The gap closes some collections, by the column that it leads to.
  obtain ⟨closed, count, hunroll, hclosed⟩ :=
    unroll_spec (s := s.arriveAt allowed later []) hs.outerKeys (some later.column)
  rw [hunroll] at harrive
  let t : Scanner := { s.arriveAt allowed later [] with
    tokens := closed
    count
    indents := s.indents.dropWhile (ends (some later.column)) }
  -- The end of the text closes the others.
  obtain ⟨u, tokens, mark, hend, htokens, hended, hkey, hblock⟩ :=
    scanEnd_spec (s := t) hs.outerKeys (hs.ready.key.filter _)
  have hstep : s.step = .ok u.fresh := by
    have htoken : s.scanToken = t.scanEnd := by
      rw [scanToken, harrive]
      rfl
    rw [step, htoken, hend]
    have hfree : IsFree s.mark.line u.blockKey := by
      rw [hblock]
      exact hs.ready.blockKey.filter _
    exact refreshKeys_of_isFree (hkey ▸ SimpleKey.isFree_none) hfree
  refine ⟨u.fresh, tokens, mark, hstep, htokens, ?_⟩
  -- What is closed on the way and what is closed at the end are all that have been open.
  have hall : (s.indents.takeWhile (ends (some later.column))).length +
      (s.indents.dropWhile (ends (some later.column))).length = opened.length := by
    rw [← List.length_append, List.takeWhile_append_dropWhile, hindents]
  calc (tokens.map (·.kind)).reverse
      = t.kinds ++ List.replicate t.indents.length .blockEnd := hended
    _ = s.kinds ++ List.replicate opened.length .blockEnd := by
        rw [Scanner.kinds, hclosed, List.append_assoc, ← List.replicate_add]
        exact congrArg (fun n => s.kinds ++ List.replicate n TokenKind.blockEnd) hall
    _ = kinds := hkinds

/-- **The tokens of a text**, where scanning from its start settles for the tokens of a node. -/
theorem tokens_of_scans (hstarts : atClass endsGap chars) (hrest : IsTail rest)
    (hscans : ∀ s : Scanner, s.Stands 0 [] [.streamStart] (chars ++ rest) →
      ∃ t, s.Leads t ∧ t.Settled 0 [] (.streamStart :: kinds) rest) :
    ∃ tokens, Tokens.ofSource ⟨chars ++ rest, none⟩ = ⟨tokens, none⟩ ∧
      tokens.map (·.kind) = .streamStart :: kinds ++ [.streamEnd] := by
  let source : Source := ⟨chars ++ rest, none⟩
  -- At the start, nothing is open and no key is possible.
  have hready : (Scanner.start source).Ready :=
    ⟨rfl, SimpleKey.isFree_none, SimpleKey.isFree_none, fun _ hmem => nomatch hmem⟩
  have hchars := atClass_append hstarts rest
  obtain ⟨s, hs, hstands⟩ : ∃ s, (Scanner.start source).Leads s ∧
      s.Stands 0 [] [.streamStart] (chars ++ rest) := by
    obtain ⟨c, after, heq⟩ := exists_cons_of_atClass hchars
    have hgap := passGap_endsGap false true .start after (heq ▸ hchars)
    rw [← heq] at hgap
    exact stands_of_gap [] hready rfl hgap (Nat.le_refl _) (Nat.le_refl _) hchars
      (.inl rfl) rfl (by simp) (deeper_nil _)
  obtain ⟨t, ht, hsettled⟩ := hscans s hstands
  -- The last step adds the end, and scanning is done with it.
  obtain ⟨u, tokens, mark, hstep, htokens, hkinds⟩ := step_end hsettled hrest
  obtain ⟨steps, hsteps, hscan⟩ := hs.trans ht
  have hdone : u.isDone = true := by rw [isDone, htokens]; rfl
  have hlast : Tokens.scanFrom t (source.chars.length - steps + 1) = ⟨u.tokens.reverse, none⟩ := by
    rw [Tokens.scanFrom, hstep]
    simp only [hdone, if_true]
  -- Each step has passed a character, so the limit is not reached before the end.
  have hlimit : source.chars.length + 1 = source.chars.length - steps + 1 + steps := by
    change steps + _ ≤ source.chars.length at hsteps
    omega
  refine ⟨u.tokens.reverse, ?_, ?_⟩
  · rw [Tokens.ofSource, hlimit]
    exact hscan _ _ hlast
  · rw [htokens, List.reverse_cons, List.map_append, List.map_reverse, hkinds]
    rfl

/-- **The tokens of a text that is a node** with a line feed behind it. -/
theorem Node.tokens (h : Node 0 chars kinds) :
    ∃ tokens, Tokens.ofSource ⟨chars ++ ['\n'], none⟩ = ⟨tokens, none⟩ ∧
      tokens.map (·.kind) = .streamStart :: kinds ++ [.streamEnd] :=
  tokens_of_scans h.starts (.inr rfl) fun s hs =>
    h.scans s [] [.streamStart] ['\n'] hs (deeper_nil _) (.last [])

/-- **The tokens of a text that is a node on one line.** -/
theorem Inline.tokens (h : Inline chars kinds) :
    ∃ tokens, Tokens.ofSource ⟨chars, none⟩ = ⟨tokens, none⟩ ∧
      tokens.map (·.kind) = .streamStart :: kinds ++ [.streamEnd] := by
  rw [← List.append_nil chars]
  refine tokens_of_scans h.starts (.inl rfl) fun s hs => ?_
  -- All of the text is on its first line, so it is scanned like a node on one line anywhere.
  obtain ⟨t, ht⟩ := h.scans s 0 [] hs.ready hs.outerKeys hs.rest (hs.indents ▸ deeper_nil _)
  have hsettled := settled_of_reaches ht 0
  rw [hs.indents, hs.kinds] at hsettled
  exact ⟨t, ht.leads, hsettled⟩

end Block
end Yaml
end ApiStubs
