import ApiStubs.Proofs.Yaml.BlockPlaces
import ApiStubs.Proofs.Yaml.PlainScalar

/-!
# Keys without a question mark

A token is a key if a colon follows it that is close enough: the key token is put before it, by
its number, once the colon is there.

* `KeyToken chars kind` — the characters are such a token, with a colon behind them that has a gap
  behind it. Words (`KeyToken.word`) and quoted texts (`KeyToken.quoted`) are, if they are short.
* `Keyed s u kind rest` — the scanner has come from the token, at which it was `s`, to the colon;
* `Colon s u indents kinds rest` — it has come to the place behind the colon.

The first step is the same inside of flow collections and outside of them (`keyed_of_token`). In the
second one, a block mapping may start before the key (`colon_of_roll`).
-/

namespace ApiStubs
namespace Yaml

open SimpleKey (IsFree)

namespace Scanner

variable {s : Scanner} {chars : List Char}

/-! ### Scanning words -/

/-- A token starts with a word, and no directive does. -/
theorem starts_of_isWord (h : Plain.IsWord chars) :
    ∃ c more, chars = c :: more ∧ endsGap c = true ∧ c ≠ '%' := by
  obtain ⟨c, more, rfl, hprintable, hinner, -, hindicator⟩ := h.exists_cons
  -- Indicators are characters of their own, of which only a dash can start a word.
  have hne : ∀ d, isIndicator d = true → d ≠ '-' → c ≠ d := by
    rintro d hd hdash rfl
    rcases hindicator with hc | ⟨hc, -⟩
    · rw [hd] at hc
      cases hc
    · exact hdash hc
  have hbom : c ≠ '\ufeff' := by
    rintro rfl
    revert hprintable
    decide
  have hgap := Plain.isGap_of_isInner hinner
  exact ⟨c, more, rfl, by simp [endsGap, hgap, hbom, hne '#' (by decide) (by decide)],
    hne '%' (by decide) (by decide)⟩

/-- What starts with a word is scanned as a plain scalar. -/
-- The first character of the word decides what is scanned, so the case is one of characters.
theorem scanFromChar_word {c : Char} {more : List Char} (h : Plain.IsWord (c :: more))
    (rest : List Char) : s.scanFromChar c (more ++ rest) = s.scanPlain := by
  obtain ⟨c', more', heq, -, hinner, -, hindicator⟩ := h.exists_cons
  obtain ⟨rfl, rfl⟩ := List.cons_eq_cons.mp heq
  have hgap := Plain.isGap_of_isInner hinner
  -- Either it is no indicator, or it is a dash.
  rcases hindicator with hindicator | ⟨rfl, d, others, rfl, hd, -⟩
  · have hne : ∀ d, isIndicator d = true → c ≠ d := by
      rintro d hd rfl
      rw [hd] at hindicator
      cases hindicator
    simp (disch := decide) [scanFromChar, hne, startsPlain, hgap, hindicator]
  · -- A dash with more of the word behind it is no item of a block sequence.
    have hmore := Plain.isGap_of_isInner hd
    have hblank : isBlank d = false := by
      rw [isGap, Bool.or_eq_false_iff] at hmore
      exact hmore.1
    simp [scanFromChar, startsPlain, atGap, atClass, hmore, hblank]

/-- A token starts with a phrase, and no directive does. -/
theorem starts_of_isPhrase (h : Plain.IsPhrase chars) :
    ∃ c more, chars = c :: more ∧ endsGap c = true ∧ c ≠ '%' := by
  obtain ⟨word, others, rfl, hword⟩ := h.exists_word
  obtain ⟨c, more, rfl, hc, hpercent⟩ := starts_of_isWord hword
  exact ⟨c, more ++ others, rfl, hc, hpercent⟩

/-- What starts with a phrase is scanned as a plain scalar. -/
theorem scanFromChar_phrase {c : Char} {more : List Char} (h : Plain.IsPhrase (c :: more))
    (rest : List Char) : s.scanFromChar c (more ++ rest) = s.scanPlain := by
  -- A phrase starts as its first word does, and the first character is all that is looked at.
  obtain ⟨word, others, hchars, hword⟩ := h.exists_word
  obtain ⟨c', more', rfl, -⟩ := starts_of_isWord hword
  rw [List.cons_append] at hchars
  obtain ⟨rfl, rfl⟩ := List.cons_eq_cons.mp hchars
  rw [List.append_assoc]
  exact scanFromChar_word hword _

/-- What scanning a plain scalar adds. -/
theorem scanPlain_eq {key : Option SimpleKey} {text : List Char} {broken : Bool} {cursor : Cursor}
    (hnote : s.noteKey = .ok { s with key })
    (hscan : Plain.scan s.inFlow (s.indents.head?.elim 0 (· + 1)) s.cursor =
      .ok ⟨text, broken, cursor⟩) :
    s.scanPlain =
      -- The key is noted, the scalar scanned and the token added.
      .ok (emitTo { s with key, keyAllowed := broken } (.scalar text .plain) cursor) := by
  rw [scanPlain, hnote]
  change Except.bind (Plain.scan s.inFlow (s.indents.head?.elim 0 (· + 1)) s.cursor) _ = _
  rw [hscan]
  rfl

end Scanner

open Scanner

/-! ### Tokens that may be keys -/

/-- **Characters that are one token, which may be a key.** A colon behind them is close enough
to make them one. -/
structure KeyToken (chars : List Char) (kind : TokenKind) : Prop where
  /-- A token starts with the first character, and nothing else that only a line may start with. -/
  starts : ∃ c more, chars = c :: more ∧ endsGap c = true ∧ c ≠ '%' ∧
    ∀ rest, atDocumentIndicator (chars ++ ':' :: rest) = false
  close : ∀ mark : Mark, (mark.passAll chars).offset ≤ mark.offset + SimpleKey.maxLength
  kind_ne : kind ≠ .streamEnd
  scans : ∀ (s : Scanner) (key : Option SimpleKey) (c : Char) (more rest : List Char),
    s.cursor.blocked = none → chars = c :: more → atGap rest →
      s.cursor.rest = chars ++ ':' :: rest → s.noteKey = .ok { s with key } →
        s.scanFromChar c (more ++ ':' :: rest) =
          .ok (emitTo { s with key, keyAllowed := false } kind
            ⟨s.mark.passAll chars, ':' :: rest, none⟩)

variable {s u : Scanner} {indents : List Nat} {chars rest : List Char} {kind : TokenKind}

/-- A word. -/
theorem KeyToken.word (hword : Plain.IsWord chars) (hshort : chars.length ≤ SimpleKey.maxLength) :
    KeyToken chars (.scalar chars .plain) where
  starts := by
    obtain ⟨c, more, rfl, hc, hpercent⟩ := starts_of_isWord hword
    exact ⟨c, more, rfl, hc, hpercent, fun rest => hword.atDocumentIndicator_append _⟩
  close mark := by
    -- Visible characters are one byte each, so that the offset counts them.
    rw [Mark.passAll_offset]
    · omega
    · exact fun c hc => utf8Size_of_isPrintable (hword.2 c hc).1
  kind_ne := by simp
  scans s key c more rest hreadable hchars hgap hrest hnote := by
    -- The colon behind the word ends the scalar, with a gap behind it.
    have hscan := Plain.scan_word s.inFlow (s.indents.head?.elim 0 (· + 1)) s.cursor hreadable hword
      hrest
    rw [Plain.scanFrom_colon rfl _ _ hgap, List.reverse_reverse] at hscan
    subst hchars
    rw [scanFromChar_word hword, scanPlain_eq hnote hscan]
    rfl

/-- A scalar between double quotes. -/
theorem KeyToken.quoted (text : String)
    (hshort : (Writing.quoted text).length ≤ SimpleKey.maxLength) :
    KeyToken (Writing.quoted text).toList (.scalar text.toList .quoted) where
  starts := by
    rw [Writing.quoted, String.toList_ofList, List.cons_append]
    exact ⟨_, _, rfl, by decide, by decide, fun rest => rfl⟩
  close mark := by
    rw [Mark.passAll_offset, String.length_toList]
    · omega
    · exact fun c hc => utf8Size_of_isPrintable (Quoted.isPrintable_quoted text c hc)
  kind_ne := by simp
  scans s key c more rest hreadable hchars hgap hrest hnote := by
    -- The first character is the quote, which alone decides what is scanned.
    obtain rfl : c = '"' := by
      rw [Writing.quoted, String.toList_ofList, List.cons_append, List.cons_eq_cons] at hchars
      exact hchars.1.symm
    change s.scanContent (scanQuoted true) = _
    rw [scanContent, hnote]
    simp only [bind, Except.bind, scanQuoted]
    rw [Quoted.scan_quoted text s.cursor (':' :: rest) hreadable hrest]
    rfl

/-! ### At the colon -/

/-- **The scanner is at the colon** behind a token that may be a key, which it scanned from `s`. -/
structure Keyed (s u : Scanner) (kind : TokenKind) (rest : List Char) : Prop where
  leads : s.Leads u
  arrived : u.toNextToken = .ok u
  readable : u.cursor.blocked = none
  rest : u.cursor.rest = ':' :: rest
  column : s.mark.column < u.mark.column
  key : ∃ k, u.key = some k ∧ k.number = s.count ∧ k.mark = s.mark
  blockKey : IsFree u.mark.line u.blockKey
  outerFree : ∀ key ∈ u.outerKeys, IsFree u.mark.line key
  outerKeys : u.outerKeys = s.outerKeys
  indents : u.indents = s.indents
  tokens : u.tokens = ⟨kind, s.mark⟩ :: s.tokens
  count : u.count = s.count + 1

/-- A token is scanned that may be a key. -/
theorem keyed_of_token (h : KeyToken chars kind) (hgap : atGap rest) (hs : s.Ready)
    (harrived : s.toNextToken = .ok s) (hallowed : s.keyAllowed = true)
    (hrest : s.cursor.rest = chars ++ ':' :: rest)
    (hwithin : s.inFlow = true ∨ Deeper (s.mark.column + 1) s.indents) :
    ∃ u, Keyed s u kind rest := by
  obtain ⟨c, more, hchars, hc, hpercent, hdocument⟩ := h.starts
  -- The token can become a key: it is noted with its number and its mark.
  obtain ⟨k, hk, hnote⟩ : ∃ k : SimpleKey, (k.number = s.count ∧ k.mark = s.mark) ∧
      s.noteKey = .ok { s with key := some k } :=
    ⟨⟨! s.inFlow && s.indents.head? == some s.mark.column, s.count, s.mark⟩, ⟨rfl, rfl⟩, by
      rw [noteKey, if_pos hallowed, dropKey_of_isFree hs.key]
      rfl⟩
  have hscan := h.scans s _ c more rest hs.readable hchars hgap hrest hnote
  -- The mark behind the token is on the same line and near enough for the key not to be stale.
  obtain ⟨mark, hline, hcolumn, hoffset, heq⟩ : ∃ mark : Mark, mark.line = s.mark.line ∧
      s.mark.column < mark.column ∧ mark.offset ≤ s.mark.offset + SimpleKey.maxLength ∧
        s.mark.passAll chars = mark := by
    refine ⟨_, Mark.passAll_line _ _, ?_, h.close s.mark, rfl⟩
    rw [Mark.passAll_column, hchars, List.length_cons]
    omega
  rw [heq] at hscan
  have hrecent : k.isStale mark = false := by
    simp [SimpleKey.isStale, hk]
    omega
  -- Not `Ready`: the key is required where the mapping is open already. It has not gone stale yet.
  let u : Scanner :=
    fresh (emitTo { s with key := some k, keyAllowed := false } kind ⟨mark, ':' :: rest, none⟩)
  have hkey : u.key = some k := by
    change Option.filter (! ·.isStale mark) (some k) = some k
    rw [Option.filter_some, hrecent]
    rfl
  have hblock : IsFree s.mark.line u.blockKey := hs.blockKey.filter _
  have hleads : s.Leads u := by
    have hstart := hdocument rest
    rw [hchars] at hrest hstart
    refine .of_scan harrived hs.readable hrest (.inr ⟨hpercent, hstart⟩) hscan
      (refreshKeys_of_recent rfl hrecent hs.blockKey) rfl h.kind_ne ?_
    change (':' :: rest).length < _
    rw [hrest]
    simp only [List.length_cons, List.length_append]
    omega
  -- Behind the token is the colon, so no gap has to be passed.
  have hthere : u.toNextToken = .ok u := by
    refine toNextToken_of_arrived rfl rfl rfl ?_ (hwithin.imp id fun hdeep => hdeep.mono ?_)
    · exact (refreshKeys_of_recent hkey hrecent hblock).trans (congrArg _ (fresh_fresh _))
    · exact Nat.succ_le_succ (Nat.le_of_lt hcolumn)
  exact ⟨u, hleads, hthere, rfl, rfl, hcolumn, ⟨k, hkey, hk⟩,
    hblock.mono (Nat.le_of_eq hline.symm),
    fun key hmem => (hs.outerKeys key hmem).mono (Nat.le_of_eq hline.symm), rfl, rfl, rfl, rfl⟩

/-! ### Behind the colon -/

/-- **The scanner is behind a colon** that made a key of the token at which it was `s`. -/
structure Colon (s t : Scanner) (indents : List Nat) (kinds : List TokenKind) (rest : List Char) :
    Prop where
  leads : s.Leads t
  ready : t.Ready
  outerKeys : t.outerKeys = s.outerKeys
  column : s.mark.column < t.mark.column
  indents : t.indents = indents
  kinds : t.kinds = kinds
  rest : t.cursor.rest = rest

/-- A colon makes the token before it a key: the key token is put before it, and the mapping starts
there unless it is open. -/
theorem colon_of_roll {tokens : List Token} {count : Nat} (h : Keyed s u kind rest)
    (hgap : atGap rest)
    (hroll : (u.insert s.count .key s.mark).roll s.count .blockMappingStart s.mark =
      { u with tokens, count, indents }) :
    ∃ t, Colon s t indents ((tokens.map (·.kind)).reverse ++ [.value]) rest := by
  obtain ⟨k, hkey, hnumber, hmark⟩ := h.key
  -- The key has been used up, and no key can stand directly behind the colon.
  let v : Scanner := { u with tokens, count, indents, key := none, keyAllowed := false }
  have hscan : u.scanFromChar ':' rest = .ok (v.emit .value 1) := by
    have hvalue : u.scanFromChar ':' rest = u.scanValue := by
      simp [scanFromChar, hgap]
    rw [hvalue, scanValue, hkey]
    simp only [hnumber, hmark, hroll]
    rfl
  have hready : v.Ready := ⟨h.readable, SimpleKey.isFree_none, h.blockKey, h.outerFree⟩
  have hvready : (v.emit .value 1).Ready := hready.emit _ _
  have hrest : (v.emit .value 1).cursor.rest = rest := by
    change u.cursor.rest.drop 1 = rest
    -- A colon with a gap behind it is a value indicator, which finds the key before it.
    rw [h.rest]
    rfl
  -- The step leads on, since at least the colon has been passed.
  have hleads : s.Leads (v.emit .value 1).fresh := by
    refine h.leads.trans (.of_scan h.arrived h.readable h.rest (.inr ⟨by decide, rfl⟩) hscan
      (refreshKeys_of_isFree hvready.key hvready.blockKey) rfl (by simp) ?_)
    change (v.emit .value 1).cursor.rest.length < _
    rw [hrest, h.rest]
    exact Nat.lt_succ_self _
  refine ⟨(v.emit .value 1).fresh, hleads, hvready.fresh, h.outerKeys, ?_, rfl, ?_, hrest⟩
  · change s.mark.column < (u.mark.passAll (u.cursor.rest.take 1)).column
    rw [Mark.passAll_column]
    exact Nat.lt_add_right _ h.column
  · change ((⟨.value, u.mark⟩ :: tokens : List Token).map (·.kind)).reverse = _
    rw [List.map_cons, List.reverse_cons]

/-- What the key token adds comes before the token that is the key. -/
theorem Keyed.insert_eq (h : Keyed s u kind rest) :
    (u.insert s.count .key s.mark).tokens = [⟨kind, s.mark⟩, ⟨.key, s.mark⟩] ++ s.tokens ∧
      (u.insert s.count .key s.mark).count - s.count = 2 := by
  constructor
  · simp [Scanner.insert, h.tokens, h.count]
  · simp [Scanner.insert, h.count]
    omega

end Yaml
end ApiStubs
