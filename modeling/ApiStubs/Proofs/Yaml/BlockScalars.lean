import ApiStubs.Proofs.Yaml.BlockTokens
import ApiStubs.Proofs.Yaml.LiteralScalar

/-!
# Scalars outside of flow collections

Phrases (`Block.Node.phrase`) and literal scalars (`Block.Node.literal`) are nodes at every column.

Neither ends before the line does: the scanner looks whether the scalar goes on behind the line
feed, and so it is at the next token already when it adds the scalar. That is no place from which
the next part of the text could be scanned like one that comes behind brackets. But going to the
next token leads to the same place from the end of the scalar (`Scanner.Leads.of_passed`), so it
makes no difference where the scanner is.
-/

namespace ApiStubs
namespace Yaml

open SimpleKey (IsFree)

namespace Scanner

/-- What is scanned after a step does not depend on where in a gap the step ended. -/
theorem Leads.of_passed {s t u : Scanner} (h : s.step = .ok t) (hdone : t.isDone = false)
    (hnext : u.toNextToken = t.toNextToken)
    (hlength : u.cursor.rest.length < s.cursor.rest.length) : s.Leads u := by
  -- One step from each of the two places gives the same scanner, and so does all that follows.
  have hstep : u.step = t.step := by rw [step, step, scanToken, scanToken, hnext]
  refine ⟨1, by omega, fun limit tokens hscan => ?_⟩
  rw [Tokens.scanFrom, h]
  simp only [hdone, Bool.false_eq_true, if_false]
  rw [Tokens.scanFrom] at hscan ⊢
  rw [hstep] at hscan
  cases hnext' : t.step with
  | error fault =>
    rw [hnext'] at hscan
    cases hscan
  | ok next => rwa [hnext'] at hscan

/-- Where a gap is passed to the same place, the same token is next. -/
theorem toNextToken_of_passGap {s : Scanner} {cursor : Cursor} (hs : s.cursor.blocked = none)
    (hcursor : cursor.blocked = none)
    (hgap : passGap s.inFlow s.keyAllowed false cursor.mark cursor.rest =
      passGap s.inFlow s.keyAllowed false s.mark s.cursor.rest) :
    { s with cursor }.toNextToken = s.toNextToken := by
  change passGap s.inFlow s.keyAllowed false cursor.mark cursor.rest =
    passGap s.inFlow s.keyAllowed false s.cursor.mark s.cursor.rest at hgap
  rw [toNextToken, toNextToken, Cursor.need_of_readable hs, Cursor.need_of_readable hcursor]
  have hflow : { s with cursor }.inFlow = s.inFlow := rfl
  simp only [bind, Except.bind, hflow, hgap, hs, hcursor]

/-- In a gap, a line feed and spaces are passed. -/
theorem passGap_lineTo (mark : Mark) (column : Nat) (chars : List Char) :
    passGap false true false mark (lineTo column ++ chars) =
      passGap false true false
        ((mark.nextLine '\n' 0).passAll (List.replicate column ' ')) chars := by
  rw [lineTo, List.cons_append, passGap, if_pos (by decide), breakTail_lineFeed, List.drop_zero,
    passGap_spaces]
  rfl

/-- **A scalar that has been scanned past its line** is settled at the end of the line. -/
theorem settled_of_passed {s : Scanner} {column next : Nat} {indents : List Nat}
    {kinds : List TokenKind} {c : Char} {more after : List Char} {key : Option SimpleKey}
    {kind : TokenKind} {last : Mark}
    (hs : s.Stands column indents kinds (c :: (more ++ (lineTo next ++ after))))
    (hstart : c ≠ '%' ∧ atDocumentIndicator (c :: (more ++ (lineTo next ++ after))) = false)
    (hscan : s.scanFromChar c (more ++ (lineTo next ++ after)) =
      .ok (emitTo { s with key, keyAllowed := true } kind
        ⟨(last.nextLine '\n' 0).passAll (List.replicate next ' '), after, none⟩))
    (hkey : IsFree s.mark.line key) (hkind : kind ≠ .streamEnd)
    (hline : s.mark.line ≤ last.line) :
    ∃ t, s.Leads t ∧ t.Settled column indents (kinds ++ [kind]) (lineTo next ++ after) := by
  let passed : Scanner := fresh (emitTo { s with key, keyAllowed := true } kind
    ⟨(last.nextLine '\n' 0).passAll (List.replicate next ' '), after, none⟩)
  -- Not where the scanner is, but where it could be as well.
  let t : Scanner := { passed with cursor := ⟨last, lineTo next ++ after, none⟩ }
  -- Scanning the scalar is one step, which ends at the next token.
  have hstep : s.step = .ok passed := by
    rw [step_of_arrival hs.arrived hs.ready.readable hs.rest (.inr hstart), hscan]
    exact refreshKeys_of_isFree hkey hs.ready.blockKey
  have hdone : passed.isDone = false := by
    change (kind == .streamEnd) = false
    exact beq_eq_false_iff_ne.mpr hkind
  -- In a block collection, the gap up to the next token is just the line feed and the spaces.
  have hnext : t.toNextToken = passed.toNextToken := by
    have hinFlow : passed.inFlow = false := inFlow_of_nil hs.outerKeys
    refine toNextToken_of_passGap rfl rfl ?_
    rw [hinFlow]
    exact passGap_lineTo last next after
  -- A key that is free on the line of the scalar is free on any later one.
  have hready : t.Ready :=
    ⟨rfl, (hkey.filter _).mono hline, (hs.ready.blockKey.filter _).mono hline,
      fun outer houter => (hs.ready.outerKeys outer houter).mono hline⟩
  have hlength : t.cursor.rest.length < s.cursor.rest.length := by
    change (lineTo next ++ after).length < _
    generalize lineTo next ++ after = chars at hs ⊢
    rw [hs.rest, List.length_cons, List.length_append]
    exact Nat.lt_succ_of_le (Nat.le_add_left _ _)
  refine ⟨t, .of_passed hstep hdone hnext hlength, ?_⟩
  have hkinds : t.kinds = kinds ++ [kind] := by
    rw [← hs.kinds]
    exact List.reverse_cons
  rw [← hkinds, ← hs.indents]
  exact .of_closed hready hs.outerKeys (.of_rest rfl) column

end Scanner

namespace Block

open Scanner

variable {column : Nat} {chars : List Char}

/-- What stands behind a node starts no token that is part of it. -/
theorem EndsLine.exists_next {indents : List Nat} {rest : List Char} (h : EndsLine indents rest) :
    ∃ next after, rest = lineTo next ++ after ∧
      (after = [] ∨ atClass (! isGap ·) after = true ∧ next < indents.head?.elim 0 (· + 1)) ∧
      ∀ column, Deeper column indents →
        next ≤ column ∧ (after = [] ∨ atClass (! isGap ·) after = true ∧ next < column) := by
  -- What ends a gap is no blank and no break.
  have hgap : ∀ {cs : List Char}, atClass endsGap cs → atClass (! isGap ·) cs = true := by
    intro cs hcs
    obtain ⟨c, more, rfl⟩ := exists_cons_of_atClass hcs
    change endsGap c = true at hcs
    simp only [endsGap, Bool.and_eq_true] at hcs
    exact hcs.1.1
  obtain ⟨next, after, rfl, hnext⟩ := h
  refine ⟨next, after, rfl, ?_⟩
  rcases hnext with ⟨rfl, rfl⟩ | ⟨hafter, indent, hindent, hle⟩
  · -- At the end of the text, there is no next token.
    exact ⟨.inl rfl, fun column _ => ⟨Nat.zero_le _, .inl rfl⟩⟩
  · -- Otherwise the next token is not deeper than what is open.
    refine ⟨.inr ⟨hgap hafter, ?_⟩, fun column hdeep => ?_⟩
    · rw [Option.mem_def.mp hindent]
      exact Nat.lt_succ_of_le hle
    · have hlt : next < column := Nat.lt_of_le_of_lt hle (hdeep indent hindent)
      exact ⟨Nat.le_of_lt hlt, .inr ⟨hgap hafter, hlt⟩⟩

/-- **A phrase is a node.** -/
theorem Node.phrase (h : Plain.IsPhrase chars) : Node column chars [.scalar chars .plain] where
  starts := by
    obtain ⟨c, more, rfl, hc, -⟩ := starts_of_isPhrase h
    exact hc
  scans s indents added rest hs hdeep hends := by
    obtain ⟨next, after, rfl, hafter, -⟩ := hends.exists_next
    obtain ⟨c, more, rfl, hc, hpercent⟩ := starts_of_isPhrase h
    have hinFlow : s.inFlow = false := inFlow_of_nil hs.outerKeys
    -- Deeper than all that is open, no key is required.
    obtain ⟨key, hfree, hnote, -⟩ := noteKey_of_ready hs.ready
      (.inr (by rw [hs.indents, hs.column]; exact head_ne_of_deeper hdeep))
    -- All that is open is on the left of the scalar, which so may go on up to its own column.
    have hindent : s.indents.head?.elim 0 (· + 1) ≤ s.mark.column + 1 := by
      rw [hs.indents, hs.column]
      cases hhead : indents.head? with
      | none => exact Nat.zero_le _
      | some indent => exact Nat.succ_le_succ (Nat.le_of_lt (hdeep indent hhead))
    -- Being one line, the phrase ends the scalar at the line feed.
    have hscanned := Plain.scan_phrase s.inFlow (s.indents.head?.elim 0 (· + 1)) s.cursor
      hs.ready.readable h (.inr hindent) hs.rest
    rw [lineTo, List.cons_append,
      Plain.scanFrom_lineEnd rfl hinFlow _ _ next (by rw [hs.indents]; exact hafter),
      List.reverse_reverse] at hscanned
    exact settled_of_passed hs ⟨hpercent, h.atDocumentIndicator_append _⟩
      ((scanFromChar_phrase h _).trans (scanPlain_eq hnote hscanned)) hfree (by simp)
      (Nat.le_of_eq (Mark.passAll_line s.mark (c :: more)).symm)

/-- **A literal scalar is a node**, if its lines are indented at least as far. -/
theorem Node.literal {indent : Nat} (hindent : 0 < indent) (hcolumn : column ≤ indent)
    {first : List Char} {others : List (List Char)} (hfirst : IsFirstLine first)
    (hothers : ∀ line ∈ others, IsLine line) :
    Node column ('|' :: (first :: others).flatMap (lineTo indent ++ ·))
      [.scalar (linesChars (filled (first :: others))) .block] where
  starts := rfl
  scans s indents added rest hs hdeep hends := by
    obtain ⟨next, after, rfl, -, hafter⟩ := hends.exists_next
    obtain ⟨hle, hrest⟩ := hafter indent (hdeep.mono hcolumn)
    have hinFlow : s.inFlow = false := inFlow_of_nil hs.outerKeys
    -- The lines are deeper than all that is open, as the column of the bar is.
    have hparent : ∀ parent ∈ s.indents.head?, parent < indent := by
      rw [hs.indents]
      exact hdeep.mono hcolumn
    obtain ⟨last, hline, hscanned⟩ := scan_literal s.cursor hs.ready.readable hindent hparent hfirst
      hothers hle hrest hs.rest
    have hscan : ∀ after, s.scanFromChar '|' after = s.scanBlock false := by
      intro after
      simp [scanFromChar, hinFlow]
    -- No key is noted for a literal scalar, as it is never one.
    have hdrop : s.dropKey = .ok { s with key := none } := dropKey_of_isFree hs.ready.key
    refine settled_of_passed hs ⟨by decide, rfl⟩ ?_ SimpleKey.isFree_none (by simp) hline
    rw [hscan, scanBlock, hdrop]
    change Except.bind (Block.scan false s.indents.head? s.cursor) _ = _
    rw [hscanned]
    rfl

end Block
end Yaml
end ApiStubs
