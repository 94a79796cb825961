import ApiStubs.Proofs.Yaml.BlockGrammar
import ApiStubs.Proofs.Yaml.BlockScalars
import ApiStubs.Proofs.Yaml.FlowDocument

/-!
# The values of block collections

A text on several lines is scanned, parsed and valued in one:

* `Block.Spells column chars value depth` — where they start at this column, the characters are
  a node with this value, in which at most `depth` collections lie in each other;
* `Block.SpellsPair column depth chars pair` — they are a key and its value in a mapping at this
  column.

What spells a value on one line spells it at every column (`Spells.of_flow`), and so do phrases
(`Spells.phrase`) and literal scalars (`Spells.literal`). Items behind dashes spell a sequence
(`Spells.sequence`). A key may have a question mark before it (`SpellsPair.explicit`), or be a token
of its own (`Yaml.SpellsKey`) with its value on the same line (`SpellsPair.inline`) or below
(`SpellsPair.below`), and all of these together spell a mapping (`Spells.mapping`). A text that
spells a value, with a line feed at its end, has this value (`Spells.ofString_eq`), and on one line
it needs no line feed (`ofString_eq_of_flow`).

Whether a node has a value is left open by `Block.Writes`, which goes up to its events only.
-/

namespace ApiStubs
namespace Yaml
namespace Block

open ApiStubs.Yaml.Flow (pairKinds forall₂_stages)

/-! ### Spelling -/

/-- **Characters that spell a value** at a column. They are scanned as a node, whose tokens are
parsed as a node, whose events have the value. -/
structure Spells (column : Nat) (chars : List Char) (value : Value) (depth : Nat) : Prop where
  /-- The characters can all be read. -/
  allowed : ∀ c ∈ chars, isAllowed c = true
  /-- They are a node with the value. -/
  node : ∃ kinds, Node column chars kinds ∧
    ∃ events, Parses kinds events ∧ Value.Denotes events value depth

/-- **Characters that spell a key and its value** in a mapping at a column. -/
structure SpellsPair (column depth : Nat) (chars : List Char) (pair : Value × Value) : Prop where
  /-- The characters can all be read. -/
  allowed : ∀ c ∈ chars, isAllowed c = true
  /-- They are a part of a mapping, and the key and the value are parsed in their places. -/
  part : ∃ kinds : List TokenKind × List TokenKind,
    Part .blockMappingStart column chars (pairKinds kinds.1 kinds.2) ∧
      ∃ events : List (Event (List Char)) × List (Event (List Char)),
        (Parses kinds.1 events.1 ∧ Parses kinds.2 events.2) ∧
          (Value.Denotes events.1 pair.1 depth ∧ Value.Denotes events.2 pair.2 depth)

variable {column depth : Nat} {chars key item : List Char} {k v value : Value}

theorem isAllowed_lineTo (column : Nat) : ∀ c ∈ lineTo column, isAllowed c = true := by
  rw [lineTo, List.forall_mem_cons]
  refine ⟨by decide, fun c hc => ?_⟩
  rw [List.eq_of_mem_replicate hc]
  decide

/-! ### Events -/

/-- **Characters that are a node** at a column, with these events. -/
structure Writes (column : Nat) (chars : List Char) (events : List (Event (List Char))) : Prop where
  /-- The characters can all be read. -/
  allowed : ∀ c ∈ chars, isAllowed c = true
  /-- They are a node with the events. -/
  node : ∃ kinds, Node column chars kinds ∧ Parses kinds events

/-- **Characters that are a key and its value** in a mapping at a column, with their events. -/
structure WritesPair (column : Nat) (chars : List Char)
    (events : List (Event (List Char)) × List (Event (List Char))) : Prop where
  /-- The characters can all be read. -/
  allowed : ∀ c ∈ chars, isAllowed c = true
  /-- They are a part of a mapping, and the key and the value are parsed in their places. -/
  part : ∃ kinds : List TokenKind × List TokenKind,
    Part .blockMappingStart column chars (pairKinds kinds.1 kinds.2) ∧
      (Parses kinds.1 events.1 ∧ Parses kinds.2 events.2)

variable {events : List (Event (List Char))}

theorem Writes.of_flow (h : Flow.Writes chars events) (column : Nat) :
    Writes column chars events where
  allowed c hc := isAllowed_of_isPrintable (h.printable c hc)
  node := by
    -- A node on one line is a node wherever it stands, and its tokens are those of the line.
    obtain ⟨kinds, ⟨-, hinline⟩, hparses⟩ := h.node
    exact ⟨kinds, hinline.node column, .of_flow hparses⟩

/-- Items behind dashes, on lines of their own. -/
theorem Writes.sequence {charss : List (List Char)} {eventss : List (List (Event (List Char)))}
    (h : List.Forall₂ (Writes (column + 2)) charss eventss) (hne : charss ≠ []) :
    Writes column ((lineTo column).intercalate (charss.map ('-' :: ' ' :: ·)))
      (.sequenceStart .none :: eventss.flatten ++ [.sequenceEnd]) := by
  have hitems : List.Forall₂ (fun (c : List Char) (e : List (Event (List Char))) =>
      (∀ d ∈ c, isAllowed d = true) ∧ ∃ k, Node (column + 2) c k ∧ Parses k e) charss eventss :=
    h.imp fun _ _ hitem => ⟨hitem.allowed, hitem.node⟩
  -- All tokens are those of nodes one by one.
  obtain ⟨hallowed, hstages⟩ := (List.forall₂_and_left _ _).mp hitems
  obtain ⟨kindss, hnodes, hparses⟩ := forall₂_stages hstages
  have hparts : List.Forall₂ (Part .blockSequenceStart column) (charss.map ('-' :: ' ' :: ·))
      (kindss.map (.blockEntry :: ·)) :=
    List.forall₂_map_left_iff.mpr <| List.forall₂_map_right_iff.mpr <|
      hnodes.imp fun _ _ hnode => .item hnode
  refine ⟨Text.forall_mem_intercalate (isAllowed_lineTo column) (List.forall_mem_map.mpr ?_), _,
    .collection hparts (by simpa using hne), .sequence hparses⟩
  exact fun c hc => List.forall_mem_cons.mpr
    ⟨by decide, List.forall_mem_cons.mpr ⟨by decide, hallowed c hc⟩⟩

/-- Keys and values on lines of their own. -/
theorem Writes.mapping {charss : List (List Char)}
    {pairss : List (List (Event (List Char)) × List (Event (List Char)))}
    (h : List.Forall₂ (WritesPair column) charss pairss) (hne : charss ≠ []) :
    Writes column ((lineTo column).intercalate charss)
      (.mappingStart .none :: (pairss.flatMap fun e => e.1 ++ e.2) ++ [.mappingEnd]) := by
  have hpairs : List.Forall₂
      (fun (c : List Char) (e : List (Event (List Char)) × List (Event (List Char))) =>
        (∀ d ∈ c, isAllowed d = true) ∧ ∃ k : List TokenKind × List TokenKind,
          Part .blockMappingStart column c (pairKinds k.1 k.2) ∧
            (Parses k.1 e.1 ∧ Parses k.2 e.2)) charss pairss :=
    h.imp fun _ _ hpair => ⟨hpair.allowed, hpair.part⟩
  -- As for sequences, but with the tokens of the key and of the value in a pair.
  obtain ⟨hallowed, hstages⟩ := (List.forall₂_and_left _ _).mp hpairs
  obtain ⟨kindss, hparts, hparses⟩ := forall₂_stages hstages
  exact ⟨Text.forall_mem_intercalate (isAllowed_lineTo column) hallowed, _,
    .collection (List.forall₂_map_right_iff.mpr hparts) hne, .mapping hparses⟩

/-- A word as a key, with its value below, which is indented more. -/
theorem WritesPair.below {inner : Nat} (hkey : Plain.IsWord key)
    (hshort : key.length ≤ SimpleKey.maxLength) (hitem : Writes inner item events)
    (hinner : column < inner) :
    WritesPair column (key ++ ':' :: (lineTo inner ++ item))
      ([.scalar .none key .plain], events) where
  allowed := by
    simp only [List.forall_mem_cons, List.forall_mem_append]
    exact ⟨fun c hc => isAllowed_of_isPrintable (hkey.2 c hc).1, by decide, isAllowed_lineTo inner,
      hitem.allowed⟩
  part := by
    obtain ⟨kinds, hnode, hparses⟩ := hitem.node
    -- The word is the only token of the key, so it is parsed on the spot.
    exact ⟨(_, kinds), .below (.word hkey hshort) hnode hinner,
      .of_flow (.scalar key .plain), hparses⟩

/-- **The document of a text.** The stages in turn: the source, its tokens, and their events. -/
theorem exists_document_of_stages {text : String} {kinds : List TokenKind}
    {events : List (Event (List Char))} (hallowed : ∀ c ∈ text.toList, isAllowed c = true)
    (htokens : ∃ tokens, Tokens.ofSource ⟨text.toList, none⟩ = ⟨tokens, none⟩ ∧
      tokens.map (·.kind) = .streamStart :: kinds ++ [.streamEnd])
    (hparses : Parses kinds events) :
    ∃ placed : List (Placed (List Char)), placed.map (·.event) = events ∧
      Value.ofString text = Value.ofDocument ⟨placed, none, true⟩ := by
  obtain ⟨tokens, htokens, hkinds⟩ := htokens
  obtain ⟨placed, hplaced, hdocument⟩ := hparses.document hkinds
  refine ⟨placed, hplaced, ?_⟩
  calc Value.ofString text
      = Value.ofDocument (.ofTokens (.ofSource ⟨text.toList, none⟩)) := by
        rw [Value.ofString, Document.ofString, Source.ofString_of_allowed hallowed]
    _ = Value.ofDocument (.ofTokens ⟨tokens, none⟩) := by rw [htokens]
    _ = Value.ofDocument ⟨placed, none, true⟩ := by rw [hdocument]

/-- **The document of a text** that is a node, with a line feed at its end. -/
theorem Writes.exists_document (h : Writes 0 chars events) {text : String}
    -- The stages of the text need no value: this holds as well if one of the scalars has a fault.
    (htext : text.toList = chars ++ ['\n']) :
    ∃ placed : List (Placed (List Char)), placed.map (·.event) = events ∧
      Value.ofString text = Value.ofDocument ⟨placed, none, true⟩ := by
  obtain ⟨kinds, hnode, hparses⟩ := h.node
  refine exists_document_of_stages ?_ (htext ▸ hnode.tokens) hparses
  rw [htext, List.forall_mem_append, List.forall_mem_singleton]
  exact ⟨h.allowed, by decide⟩

/-! A node with a value is a node with events that have the value. -/

theorem Writes.spells (h : Writes column chars events)
    (hdenotes : Value.Denotes events value depth) : Spells column chars value depth where
  allowed := h.allowed
  node := by
    obtain ⟨kinds, hnode, hparses⟩ := h.node
    exact ⟨kinds, hnode, events, hparses, hdenotes⟩

theorem Spells.exists_writes (h : Spells column chars value depth) :
    ∃ events, Writes column chars events ∧ Value.Denotes events value depth := by
  obtain ⟨kinds, hnode, events, hparses, hdenotes⟩ := h.node
  exact ⟨events, ⟨h.allowed, kinds, hnode, hparses⟩, hdenotes⟩

theorem SpellsPair.exists_writes {pair : Value × Value} (h : SpellsPair column depth chars pair) :
    ∃ events : List (Event (List Char)) × List (Event (List Char)), WritesPair column chars events ∧
      (Value.Denotes events.1 pair.1 depth ∧ Value.Denotes events.2 pair.2 depth) := by
  obtain ⟨kinds, hpart, events, hparses, hdenotes⟩ := h.part
  exact ⟨events, ⟨h.allowed, kinds, hpart, hparses⟩, hdenotes⟩

/-- What spells a value on one line spells it at every column. -/
theorem Spells.of_flow (h : Flow.Spells chars value depth) (column : Nat) :
    Spells column chars value depth where
  allowed c hc := isAllowed_of_isPrintable (h.printable c hc)
  node := by
    obtain ⟨kinds, ⟨-, hinline⟩, events, hparses, hdenotes⟩ := h.node
    exact ⟨kinds, hinline.node column, events, .of_flow hparses, hdenotes⟩

theorem Spells.mono {depth' : Nat} (h : Spells column chars value depth) (hle : depth ≤ depth') :
    Spells column chars value depth' where
  allowed := h.allowed
  node := by
    obtain ⟨kinds, hnode, events, hparses, hdenotes⟩ := h.node
    exact ⟨kinds, hnode, events, hparses, hdenotes.mono hle⟩

theorem SpellsPair.mono {pair : Value × Value} {depth' : Nat}
    (h : SpellsPair column depth chars pair) (hle : depth ≤ depth') :
    SpellsPair column depth' chars pair where
  allowed := h.allowed
  part := by
    obtain ⟨kinds, hpart, events, hparses, hkey, hvalue⟩ := h.part
    exact ⟨kinds, hpart, events, hparses, hkey.mono hle, hvalue.mono hle⟩

/-! ### Scalars -/

/-- A phrase spells what a plain scalar means. -/
theorem Spells.phrase (hphrase : Plain.IsPhrase chars)
    (hvalue : Scalar.value none chars .plain = .ok value) : Spells column chars value 0 where
  allowed c hc := isAllowed_of_isPrintable (hphrase.printable c hc)
  node := ⟨_, .phrase hphrase, _, .of_flow (.scalar chars .plain), .scalar hvalue⟩

theorem Spells.word (hword : Plain.IsWord chars)
    (hvalue : Scalar.value none chars .plain = .ok value) : Spells column chars value 0 :=
  .phrase (.word hword) hvalue

/-- A literal scalar spells its lines, without the empty ones at the end. -/
theorem Spells.literal {indent : Nat} (hindent : 0 < indent) (hcolumn : column ≤ indent)
    {first : List Char} {others : List (List Char)} (hfirst : IsFirstLine first)
    (hothers : ∀ line ∈ others, IsLine line)
    (hallowed : ∀ line ∈ first :: others, ∀ c ∈ line, isAllowed c = true) :
    Spells column ('|' :: (first :: others).flatMap (lineTo indent ++ ·))
      (.string (String.ofList (linesChars (filled (first :: others))))) 0 where
  -- The bar, and each line with the indentation in front of it.
  allowed := by
    rw [List.forall_mem_cons]
    refine ⟨by decide, fun c hc => ?_⟩
    obtain ⟨line, hline, hc⟩ := List.mem_flatMap.mp hc
    rcases List.mem_append.mp hc with hc | hc
    · exact isAllowed_lineTo indent c hc
    · exact hallowed line hline c hc
  node := ⟨_, .literal hindent hcolumn hfirst hothers, _, .of_flow (.scalar _ .block), .scalar rfl⟩

/-! ### Texts -/

/-- **A text that spells a value**, with a line feed at its end, has this value. -/
theorem Spells.ofString_eq (h : Spells 0 chars value depth) (hdepth : depth ≤ Value.depthLimit)
    {text : String} (htext : text.toList = chars ++ ['\n']) : Value.ofString text = .ok value := by
  -- The value is read from the events, and nothing but the events is left of the text.
  obtain ⟨events, hwrites, hdenotes⟩ := h.exists_writes
  obtain ⟨placed, hplaced, hread⟩ := hwrites.exists_document htext
  exact hread.trans (hdenotes.document hdepth hplaced)

/-- **A text that spells a value on one line** has this value. -/
theorem ofString_eq_of_flow (h : Flow.Spells chars value depth) (hdepth : depth ≤ Value.depthLimit)
    {text : String} (htext : text.toList = chars) : Value.ofString text = .ok value := by
  obtain ⟨kinds, ⟨-, hinline⟩, events, hparses, hdenotes⟩ := h.node
  -- On one line a text is scanned to its end without a line feed, so `exists_document` does not
  -- apply.
  have hallowed : ∀ c ∈ text.toList, isAllowed c = true :=
    fun c hc => isAllowed_of_isPrintable (h.printable c (htext ▸ hc))
  obtain ⟨placed, hplaced, hread⟩ :=
    exists_document_of_stages hallowed (htext ▸ hinline.tokens) (.of_flow hparses)
  exact hread.trans (hdenotes.document hdepth hplaced)

/-! ### Sequences -/

/-- Items behind dashes, on lines of their own, spell a sequence. -/
theorem Spells.sequence {charss : List (List Char)} {values : List Value}
    (h : List.Forall₂ (Spells (column + 2) · · depth) charss values) (hne : charss ≠ []) :
    Spells column ((lineTo column).intercalate (charss.map ('-' :: ' ' :: ·))) (.sequence values)
      (depth + 1) := by
  obtain ⟨eventss, hwrites, hdenotes⟩ := forall₂_stages (h.imp fun _ _ hitem => hitem.exists_writes)
  exact (Writes.sequence hwrites hne).spells (.sequence hdenotes)

/-! ### Mappings -/

/-- A key behind a question mark and its value below, behind a colon. -/
theorem SpellsPair.explicit (hkey : Spells (column + 2) key k depth)
    (hitem : Spells (column + 2) item v depth) :
    SpellsPair column depth ('?' :: ' ' :: (key ++ lineTo column ++ ':' :: ' ' :: item))
      (k, v) where
  allowed := by
    simp only [List.forall_mem_cons, List.forall_mem_append]
    exact ⟨by decide, by decide, ⟨hkey.allowed, isAllowed_lineTo column⟩, by decide, by decide,
      hitem.allowed⟩
  part := by
    -- The key and the value are nodes two columns further to the right, behind their indicators.
    obtain ⟨kinds, hnode, events, hparses, hdenotes⟩ := hkey.node
    obtain ⟨kinds', hnode', events', hparses', hdenotes'⟩ := hitem.node
    exact ⟨(kinds, kinds'), .explicit hnode hnode', (events, events'), ⟨hparses, hparses'⟩,
      hdenotes, hdenotes'⟩

/-- A key with its value on the same line. -/
theorem SpellsPair.inline (hkey : SpellsKey key k) (hitem : Flow.Spells item v depth) :
    SpellsPair column depth (key ++ ':' :: ' ' :: item) (k, v) where
  allowed := by
    simp only [List.forall_mem_cons, List.forall_mem_append]
    exact ⟨fun c hc => isAllowed_of_isPrintable (hkey.printable c hc), by decide, by decide,
      fun c hc => isAllowed_of_isPrintable (hitem.printable c hc)⟩
  part := by
    -- The key is a scalar, which adds no depth.
    obtain ⟨kind, htoken, events, hparses, hdenotes⟩ := hkey.token
    obtain ⟨kinds, ⟨-, hinline⟩, events', hparses', hdenotes'⟩ := hitem.node
    exact ⟨([kind], kinds), .inline htoken hinline, (events, events'),
      ⟨.of_flow hparses, .of_flow hparses'⟩, hdenotes.mono (Nat.zero_le _), hdenotes'⟩

/-- A key with its value below, which is indented more. -/
theorem SpellsPair.below {inner : Nat} (hkey : SpellsKey key k) (hitem : Spells inner item v depth)
    (hinner : column < inner) :
    SpellsPair column depth (key ++ ':' :: (lineTo inner ++ item)) (k, v) where
  allowed := by
    simp only [List.forall_mem_cons, List.forall_mem_append]
    exact ⟨fun c hc => isAllowed_of_isPrintable (hkey.printable c hc), by decide,
      isAllowed_lineTo inner, hitem.allowed⟩
  part := by
    obtain ⟨kind, htoken, events, hparses, hdenotes⟩ := hkey.token
    obtain ⟨kinds, hnode, events', hparses', hdenotes'⟩ := hitem.node
    exact ⟨([kind], kinds), .below htoken hnode hinner, (events, events'),
      ⟨.of_flow hparses, hparses'⟩, hdenotes.mono (Nat.zero_le _), hdenotes'⟩

/-- Keys and values on lines of their own spell a mapping, if no two keys are the same. -/
theorem Spells.mapping {charss : List (List Char)} {entries : List (Value × Value)}
    (h : List.Forall₂ (SpellsPair column depth) charss entries) (hne : charss ≠ [])
    (hkeys : (entries.map Prod.fst).Pairwise fun key later => later.same key = false) :
    Spells column ((lineTo column).intercalate charss) (.mapping entries) (depth + 1) := by
  obtain ⟨pairss, hwrites, hdenotes⟩ := forall₂_stages (h.imp fun _ _ hpair => hpair.exists_writes)
  exact (Writes.mapping hwrites hne).spells (.mapping hdenotes hkeys)

/-- A key and its value spell a mapping alone. -/
theorem SpellsPair.mapping {pair : Value × Value} (h : SpellsPair column depth chars pair) :
    Spells column chars (.mapping [pair]) (depth + 1) := by
  have hspells := Spells.mapping (.cons h .nil) (by simp) (List.pairwise_singleton _ _)
  rwa [List.intercalate_singleton] at hspells

end Block
end Yaml
end ApiStubs
