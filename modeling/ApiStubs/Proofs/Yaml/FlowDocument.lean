import ApiStubs.Proofs.Text.Lines
import ApiStubs.Proofs.Yaml.BlockTokens
import ApiStubs.Proofs.Yaml.FlowGrammar
import ApiStubs.Proofs.Yaml.NodeValue

/-!
# The values of flow collections

A text on one line is scanned, parsed and valued in one:

* `Flow.Spells chars value depth` — the characters are a node with this value, inside of flow
  collections and outside of them, in which at most `depth` collections lie in each other;
* `Flow.SpellsItem chars value depth` — they are such a node in front of a comma or a bracket;
* `Flow.SpellsPair depth chars pair` — they are a key and its value between commas and brackets;
* `Flow.Fills b chars value depth` — they are such a node with brackets around them.

Quoted texts spell themselves (`Spells.quoted`), and phrases are items (`SpellsItem.phrase`). Items
and pairs of them fill brackets (`Fills.sequence`, `Fills.mapping`), and what fills brackets spells
its value with the brackets around it (`Fills.spells`). A key has a question mark in front of it
(`SpellsPair.explicit`), or it is a token of its own (`SpellsKey`, `SpellsPair.implicit`).

Whether a node has a value is left open by `Flow.Writes`, which goes up to its events only.
-/

namespace ApiStubs
namespace Yaml

/-- **Characters that spell a key** with nothing in front of it. -/
structure SpellsKey (chars : List Char) (value : Value) : Prop where
  /-- The characters can all be read. -/
  printable : ∀ c ∈ chars, IsPrintable c
  /-- They are a token with the value. -/
  token : ∃ kind, KeyToken chars kind ∧
    ∃ events, Flow.Parses [kind] events ∧ Value.Denotes events value 0

/-- A quoted text that is short enough spells itself as a key. -/
theorem SpellsKey.quoted (text : String)
    (hshort : (Writing.quoted text).length ≤ SimpleKey.maxLength) :
    SpellsKey (Writing.quoted text).toList (.string text) where
  printable := Quoted.isPrintable_quoted text
  token := by
    -- The scalar means the text itself, as it is quoted.
    refine ⟨_, .quoted text hshort, _, .scalar text.toList .quoted, .scalar ?_⟩
    change Except.ok (Value.string (String.ofList text.toList)) = _
    rw [String.ofList_toList]

/-- A word spells what a plain scalar means. -/
theorem SpellsKey.word {chars : List Char} {value : Value} (hword : Plain.IsWord chars)
    (hshort : chars.length ≤ SimpleKey.maxLength)
    (hvalue : Scalar.value none chars .plain = .ok value) : SpellsKey chars value where
  printable c hc := (hword.2 c hc).1
  token := ⟨_, .word hword hshort, _, .scalar chars .plain, .scalar hvalue⟩

namespace Flow

/-! ### Visible characters -/

theorem isPrintable_separator : ∀ c ∈ separator, IsPrintable c :=
  List.forall_mem_cons.mpr ⟨by decide, List.forall_mem_singleton.mpr (by decide)⟩

theorem isPrintable_pairChars {key value : List Char} (hkey : ∀ c ∈ key, IsPrintable c)
    (hvalue : ∀ c ∈ value, IsPrintable c) : ∀ c ∈ pairChars key value, IsPrintable c := by
  simp only [pairChars, List.forall_mem_cons, List.forall_mem_append]
  exact ⟨by decide, by decide, hkey, by decide, by decide, by decide, hvalue⟩

/-! ### Spelling -/

/-- **Characters that spell a value.** They are scanned as a node, whose tokens are parsed as
a node, whose events have the value. -/
structure Spells (chars : List Char) (value : Value) (depth : Nat) : Prop where
  /-- The characters can all be read. -/
  printable : ∀ c ∈ chars, IsPrintable c
  /-- They are a node with the value. -/
  node : ∃ kinds, (Node chars kinds ∧ Block.Inline chars kinds) ∧
    ∃ events, Parses kinds events ∧ Value.Denotes events value depth

/-- **Characters that spell a value as an item**, in front of a comma or a closing bracket. -/
structure SpellsItem (chars : List Char) (value : Value) (depth : Nat) : Prop where
  /-- The characters can all be read. -/
  printable : ∀ c ∈ chars, IsPrintable c
  /-- They are an item with the value. -/
  item : ∃ kinds, Item chars kinds ∧
    ∃ events, Parses kinds events ∧ Value.Denotes events value depth

/-- **Characters that spell a key and its value** in a mapping. -/
structure SpellsPair (depth : Nat) (chars : List Char) (pair : Value × Value) : Prop where
  /-- The characters can all be read. -/
  printable : ∀ c ∈ chars, IsPrintable c
  /-- They are a part of a mapping, and the key and the value are parsed in their places. -/
  part : ∃ kinds : List TokenKind × List TokenKind, Content chars (pairKinds kinds.1 kinds.2) ∧
    ∃ events : List (Event (List Char)) × List (Event (List Char)),
      (Parses kinds.1 events.1 ∧ Parses kinds.2 events.2) ∧
        (Value.Denotes events.1 pair.1 depth ∧ Value.Denotes events.2 pair.2 depth)

/-- **Characters that spell a value in brackets.** -/
structure Fills (b : Brackets) (chars : List Char) (value : Value) (depth : Nat) : Prop where
  /-- The characters can all be read. -/
  printable : ∀ c ∈ chars, IsPrintable c
  /-- They are the inner part of a node with the value. -/
  content : ∃ kinds, Content chars kinds ∧ ∃ events,
    Parses (b.startKind :: kinds ++ [b.endKind]) events ∧ Value.Denotes events value depth

variable {b : Brackets} {chars : List Char} {value : Value} {depth : Nat}

theorem Spells.mono {depth' : Nat} (h : Spells chars value depth) (hle : depth ≤ depth') :
    Spells chars value depth' where
  printable := h.printable
  node := by
    obtain ⟨kinds, hnode, events, hparses, hdenotes⟩ := h.node
    exact ⟨kinds, hnode, events, hparses, hdenotes.mono hle⟩

/-- A quoted text spells itself. -/
theorem Spells.quoted (text : String) : Spells (Writing.quoted text).toList (.string text) 0 where
  printable := Quoted.isPrintable_quoted text
  node := by
    refine ⟨_, ⟨.quoted text, .quoted text⟩, _, .scalar text.toList .quoted, .scalar ?_⟩
    change Except.ok (Value.string (String.ofList text.toList)) = _
    rw [String.ofList_toList]

/-- What spells a value anywhere spells it as an item. -/
theorem Spells.item (h : Spells chars value depth) : SpellsItem chars value depth where
  printable := h.printable
  item := by
    -- Every node is an item: an item need only end in front of a comma or a bracket.
    obtain ⟨kinds, ⟨hnode, -⟩, hevents⟩ := h.node
    exact ⟨kinds, hnode.item, hevents⟩

theorem SpellsItem.mono {depth' : Nat} (h : SpellsItem chars value depth) (hle : depth ≤ depth') :
    SpellsItem chars value depth' where
  printable := h.printable
  item := by
    obtain ⟨kinds, hitem, events, hparses, hdenotes⟩ := h.item
    exact ⟨kinds, hitem, events, hparses, hdenotes.mono hle⟩

/-- A phrase spells what a plain scalar means. -/
theorem SpellsItem.phrase (hphrase : Plain.IsPhrase chars)
    (hvalue : Scalar.value none chars .plain = .ok value) : SpellsItem chars value 0 where
  printable := hphrase.printable
  item := ⟨_, .phrase hphrase, _, .scalar chars .plain, .scalar hvalue⟩

theorem SpellsItem.word (hword : Plain.IsWord chars)
    (hvalue : Scalar.value none chars .plain = .ok value) : SpellsItem chars value 0 :=
  .phrase (.word hword) hvalue

theorem Fills.printable_brackets (h : Fills b chars value depth) :
    ∀ c ∈ b.opening :: chars ++ [b.closing], IsPrintable c := by
  -- Every character of the node: the opening bracket, those in it, and the closing one.
  rw [List.cons_append, List.forall_mem_cons, List.forall_mem_append, List.forall_mem_singleton]
  exact ⟨by cases b <;> decide, h.printable, by cases b <;> decide⟩

/-- What fills brackets spells its value with the brackets around it. -/
theorem Fills.spells (h : Fills b chars value depth) :
    Spells (b.opening :: chars ++ [b.closing]) value depth where
  printable := h.printable_brackets
  node := by
    -- The same characters are a node in brackets and on a line of a block.
    obtain ⟨kinds, hcontent, events, hparses, hdenotes⟩ := h.content
    exact ⟨_, ⟨.brackets b hcontent, .brackets b hcontent⟩, events, hparses, hdenotes⟩

/-! ### Collections -/

/-- What relates items one by one in two stages relates the lists of the items in two
stages. -/
theorem forall₂_stages {α β γ : Type} {R : α → β → Prop} {S : β → γ → Prop} {as : List α}
    {cs : List γ} (h : List.Forall₂ (fun a c => ∃ b, R a b ∧ S b c) as cs) :
    ∃ bs, List.Forall₂ R as bs ∧ List.Forall₂ S bs cs := by
  -- By induction on the pairs: each has a middle of its own.
  induction h with
  | nil => exact ⟨[], .nil, .nil⟩
  | cons hitem _ ih =>
    obtain ⟨b, hR, hS⟩ := hitem
    obtain ⟨bs, hRs, hSs⟩ := ih
    exact ⟨b :: bs, .cons hR hRs, .cons hS hSs⟩

/-- What relates two images of each item relates the lists of them. -/
theorem forall₂_map {α β γ : Type} {R : β → γ → Prop} {f : α → β} {g : α → γ} {items : List α}
    (h : ∀ item ∈ items, R (f item) (g item)) : List.Forall₂ R (items.map f) (items.map g) := by
  rw [List.forall₂_map_left_iff, List.forall₂_map_right_iff, List.forall₂_same]
  exact h

/-- **Characters that are an item** in front of a comma or a closing bracket, with these events. -/
structure WritesItem (chars : List Char) (events : List (Event (List Char))) : Prop where
  /-- The characters can all be read. -/
  printable : ∀ c ∈ chars, IsPrintable c
  /-- They are an item with the events. -/
  item : ∃ kinds, Item chars kinds ∧ Parses kinds events

/-- **Characters that are a node** with these events. -/
structure Writes (chars : List Char) (events : List (Event (List Char))) : Prop where
  /-- The characters can all be read. -/
  printable : ∀ c ∈ chars, IsPrintable c
  /-- They are a node with the events. -/
  node : ∃ kinds, (Node chars kinds ∧ Block.Inline chars kinds) ∧ Parses kinds events

theorem WritesItem.word (hword : Plain.IsWord chars) :
    WritesItem chars [.scalar .none chars .plain] where
  printable c hc := (hword.2 c hc).1
  item := ⟨_, .word hword, .scalar chars .plain⟩

/-- Items with commas between them are what square brackets hold. -/
theorem exists_content {charss : List (List Char)} {eventss : List (List (Event (List Char)))}
    (h : List.Forall₂ WritesItem charss eventss) :
    (∀ c ∈ separator.intercalate charss, IsPrintable c) ∧
      ∃ kinds, Content (separator.intercalate charss) kinds ∧
        Parses (Brackets.square.startKind :: kinds ++ [Brackets.square.endKind])
          (.sequenceStart .none :: eventss.flatten ++ [.sequenceEnd]) := by
  have hitems : List.Forall₂ (fun (c : List Char) (e : List (Event (List Char))) =>
      (∀ d ∈ c, IsPrintable d) ∧ ∃ k, Content c k ∧ Parses k e) charss eventss :=
    h.imp fun _ _ hitem =>
      ⟨hitem.printable, hitem.item.imp fun _ hitem => hitem.imp Item.content id⟩
  -- All tokens are those of items one by one.
  obtain ⟨hprintable, hstages⟩ := (List.forall₂_and_left _ _).mp hitems
  obtain ⟨kindss, hcontents, hparses⟩ := forall₂_stages hstages
  exact ⟨Text.forall_mem_intercalate isPrintable_separator hprintable, _,
    .intercalate hcontents, .sequence hparses⟩

/-- Items between square brackets. -/
theorem Writes.sequence {charss : List (List Char)} {eventss : List (List (Event (List Char)))}
    (h : List.Forall₂ WritesItem charss eventss) :
    Writes ('[' :: separator.intercalate charss ++ [']'])
      (.sequenceStart .none :: eventss.flatten ++ [.sequenceEnd]) := by
  obtain ⟨hprintable, kinds, hcontent, hparses⟩ := exists_content h
  -- The brackets themselves can be read as well as what is in them.
  refine ⟨?_, _, ⟨.brackets .square hcontent, .brackets .square hcontent⟩, hparses⟩
  rw [List.cons_append, List.forall_mem_cons, List.forall_mem_append, List.forall_mem_singleton]
  exact ⟨by decide, hprintable, by decide⟩

theorem SpellsItem.exists_writes (h : SpellsItem chars value depth) :
    ∃ events, WritesItem chars events ∧ Value.Denotes events value depth := by
  obtain ⟨kinds, hitem, events, hparses, hdenotes⟩ := h.item
  exact ⟨events, ⟨h.printable, kinds, hitem, hparses⟩, hdenotes⟩

/-- Items that spell values fill square brackets. -/
theorem Fills.sequence {charss : List (List Char)} {values : List Value}
    (h : List.Forall₂ (SpellsItem · · depth) charss values) :
    Fills .square (separator.intercalate charss) (.sequence values) (depth + 1) := by
  -- The content is that of the items as they are written, and its events are theirs.
  obtain ⟨eventss, hwrites, hdenotes⟩ := forall₂_stages (h.imp fun _ _ hitem => hitem.exists_writes)
  obtain ⟨hprintable, kinds, hcontent, hparses⟩ := exists_content hwrites
  exact ⟨hprintable, kinds, hcontent, _, hparses, .sequence hdenotes⟩

/-- A key behind a question mark, and its value. -/
theorem SpellsPair.explicit {key item : List Char} {k v : Value} (hkey : Spells key k depth)
    (hitem : SpellsItem item v depth) : SpellsPair depth (pairChars key item) (k, v) where
  printable := isPrintable_pairChars hkey.printable hitem.printable
  part := by
    obtain ⟨kinds, ⟨hnode, -⟩, events, hparses, hdenotes⟩ := hkey.node
    obtain ⟨kinds', hitem, events', hparses', hdenotes'⟩ := hitem.item
    exact ⟨(kinds, kinds'), .pair hnode hitem, (events, events'), ⟨hparses, hparses'⟩, hdenotes,
      hdenotes'⟩

/-- A key with a colon directly behind it, and its value. -/
theorem SpellsPair.implicit {key item : List Char} {k v : Value} (hkey : SpellsKey key k)
    (hitem : SpellsItem item v depth) : SpellsPair depth (entryChars key item) (k, v) where
  printable := by
    simp only [entryChars, List.forall_mem_append, List.forall_mem_cons]
    exact ⟨hkey.printable, by decide, by decide, hitem.printable⟩
  part := by
    -- The key is one token, so its events are those of a scalar, which adds no depth.
    obtain ⟨kind, htoken, events, hparses, hdenotes⟩ := hkey.token
    obtain ⟨kinds, hitem, events', hparses', hdenotes'⟩ := hitem.item
    exact ⟨([kind], kinds), .entry htoken hitem, (events, events'), ⟨hparses, hparses'⟩,
      hdenotes.mono (Nat.zero_le _), hdenotes'⟩

/-- Keys and values fill curly brackets, if no two keys are the same. -/
theorem Fills.mapping {charss : List (List Char)} {entries : List (Value × Value)}
    (h : List.Forall₂ (SpellsPair depth) charss entries)
    (hkeys : (entries.map Prod.fst).Pairwise fun key later => later.same key = false) :
    Fills .curly (separator.intercalate charss) (.mapping entries) (depth + 1) := by
  -- What is known of a pair is put in the order of the stages: characters, tokens, events.
  have hpairs : List.Forall₂ (fun (c : List Char) (p : Value × Value) =>
      (∀ d ∈ c, IsPrintable d) ∧ ∃ k : List TokenKind × List TokenKind,
        Content c (pairKinds k.1 k.2) ∧
          ∃ e : List (Event (List Char)) × List (Event (List Char)),
            (Parses k.1 e.1 ∧ Parses k.2 e.2) ∧
              (Value.Denotes e.1 p.1 depth ∧ Value.Denotes e.2 p.2 depth)) charss entries :=
    h.imp fun _ _ hpair => ⟨hpair.printable, hpair.part⟩
  -- Three stages, of which each relates the pairs one by one.
  obtain ⟨hprintable, hstages⟩ := (List.forall₂_and_left _ _).mp hpairs
  obtain ⟨kindss, hcontent, hstages⟩ := forall₂_stages hstages
  obtain ⟨eventss, hparses, hdenotes⟩ := forall₂_stages hstages
  exact ⟨Text.forall_mem_intercalate isPrintable_separator hprintable, _,
    .intercalate (List.forall₂_map_right_iff.mpr hcontent), _, .mapping hparses,
    .mapping hdenotes hkeys⟩

end Flow
end Yaml
end ApiStubs
