import ApiStubs.Proofs.Yaml.FlowGrammar

/-!
# Reading block collections

Block collections may stand in some places only, and are read like flow collections there:

* `Block.Parses kinds events` — tokens of these kinds are a node with these events, in every
  place where a block collection may stand.

Each item and each key has a token of its own in front of it, so that no tokens are needed
between them. A stream that is one node is a document (`Block.Parses.document`).
-/

namespace ApiStubs
namespace Yaml
namespace Block

open Document
open ApiStubs.Yaml.Flow (pairKinds)

/-- Whether a token starts a node that has no properties. -/
def opensNode : TokenKind → Bool
  | .blockSequenceStart => true
  | .blockMappingStart => true
  | kind => Flow.opensNode kind

/-- **A node in tokens and in events**, which may be a block collection. -/
structure Parses (kinds : List TokenKind) (events : List (Event (List Char))) : Prop where
  opens : ∃ kind more, kinds = kind :: more ∧ opensNode kind = true
  yields : ∀ handles indentless, Yields handles [.node true indentless] kinds events 1

variable {handles : Handles} {kinds : List TokenKind} {events : List (Event (List Char))}

/-- What can stand everywhere can stand where a block collection can. -/
theorem Parses.of_flow (h : Flow.Parses kinds events) : Parses kinds events where
  opens := by
    obtain ⟨kind, more, hkinds, hopens⟩ := h.opens
    exact ⟨kind, more, hkinds, by cases kind <;> first | rfl | cases hopens⟩
  yields handles indentless := h.yields handles true indentless

/-- Where a node may be left out, one that is there is read. -/
theorem Parses.optional (h : Parses kinds events) (handles : Handles) (place : Place)
    (hblock : place.allowsBlock = true) : Yields handles [.optional place] kinds events 0 := by
  obtain ⟨kind, more, rfl, hopens⟩ := h.opens
  have hthere : place.isOmittedAt kind = false := by
    cases place <;> cases kind <;> first | rfl | cases hopens
  refine .silent _ (fun mark rest => ?_) (h.yields handles place.allowsIndentless)
  rw [Expectation.step, hthere, hblock]
  rfl

/-! ### Sequences -/

/-- Items behind dashes, and the end of the sequence. -/
theorem yields_items {kindss : List (List TokenKind)} {eventss : List (List (Event (List Char)))}
    (h : List.Forall₂ Parses kindss eventss) (since : Mark) :
    Yields handles [.blockItems since]
      ((kindss.map (.blockEntry :: ·)).flatten ++ [.blockEnd])
      (eventss.flatten ++ [.sequenceEnd]) 1 := by
  induction h with
  | nil => exact .last fun _ _ => rfl
  | cons hitem _ ih =>
    -- Two expectations behind the dash: the item, and what follows it.
    have hparts := (hitem.optional handles .blockItem rfl).append ih
    rw [List.map_cons, List.flatten_cons, List.flatten_cons, List.append_assoc, List.append_assoc,
      List.cons_append]
    exact .weaken (.pass (fun _ _ => rfl) hparts) (by omega)

/-- **A sequence of items behind dashes.** -/
theorem Parses.sequence {kindss : List (List TokenKind)}
    {eventss : List (List (Event (List Char)))} (h : List.Forall₂ Parses kindss eventss) :
    Parses (.blockSequenceStart :: (kindss.map (.blockEntry :: ·)).flatten ++ [.blockEnd])
      (.sequenceStart .none :: eventss.flatten ++ [.sequenceEnd]) where
  opens := ⟨_, _, rfl, rfl⟩
  yields _ _ :=
    .weaken (.shift (some (.sequenceStart .none)) (fun mark => [.blockItems mark])
      (fun mark => ⟨some ⟨.sequenceStart .none, mark⟩, rfl, fun _ => rfl⟩)
      (fun mark => yields_items h mark)) (by omega)

/-! ### Mappings -/

/-- Keys and values, and the end of the mapping. -/
theorem yields_pairs {kindss : List (List TokenKind × List TokenKind)}
    {eventss : List (List (Event (List Char)) × List (Event (List Char)))}
    (h : List.Forall₂ (fun k e => Parses k.1 e.1 ∧ Parses k.2 e.2) kindss eventss)
    (since : Mark) :
    Yields handles [.blockKeys since]
      ((kindss.map fun k => pairKinds k.1 k.2).flatten ++ [.blockEnd])
      ((eventss.flatMap fun e => e.1 ++ e.2) ++ [.mappingEnd]) 1 := by
  induction h with
  | nil => exact .last fun _ _ => rfl
  | @cons kinds events kindss eventss hpair _ ih =>
    -- Three expectations in turn: the key, the value behind its colon, and what follows.
    have hvalue : Yields handles [.blockValue] (.value :: kinds.2) events.2 1 :=
      .pass (fun _ _ => rfl) (hpair.2.optional handles .blockPart rfl)
    have hparts := (hpair.1.optional handles .blockPart rfl).append (hvalue.append ih)
    rw [List.map_cons, List.flatten_cons, List.flatMap_cons, List.append_assoc, List.append_assoc,
      List.append_assoc, pairKinds, List.cons_append, List.append_assoc]
    exact .weaken (.pass (fun _ _ => rfl) hparts) (by omega)

/-- **A mapping of keys and values on lines of their own.** -/
theorem Parses.mapping {kindss : List (List TokenKind × List TokenKind)}
    {eventss : List (List (Event (List Char)) × List (Event (List Char)))}
    (h : List.Forall₂ (fun k e => Parses k.1 e.1 ∧ Parses k.2 e.2) kindss eventss) :
    Parses
      (.blockMappingStart :: (kindss.map fun k => pairKinds k.1 k.2).flatten ++ [.blockEnd])
      (.mappingStart .none :: (eventss.flatMap fun e => e.1 ++ e.2) ++ [.mappingEnd]) where
  opens := ⟨_, _, rfl, rfl⟩
  yields _ _ :=
    .weaken (.shift (some (.mappingStart .none)) (fun mark => [.blockKeys mark])
      (fun mark => ⟨some ⟨.mappingStart .none, mark⟩, rfl, fun _ => rfl⟩)
      (fun mark => yields_pairs h mark)) (by omega)

/-! ### Documents -/

/-- **The document of a stream that is one node.** Nothing is wrong with it, and the stream ends
after it. -/
theorem Parses.document (h : Parses kinds events) {tokens : List Token}
    (htokens : tokens.map (·.kind) = .streamStart :: kinds ++ [.streamEnd]) :
    ∃ placed : List (Placed (List Char)), placed.map (·.event) = events ∧
      Document.ofTokens ⟨tokens, none⟩ = ⟨placed, none, true⟩ := by
  rw [List.cons_append] at htokens
  obtain ⟨start, tokens, rfl, -, htokens⟩ := List.map_eq_cons_iff.mp htokens
  obtain ⟨content, last, rfl, hcontent, hlast⟩ := List.map_eq_append_iff.mp htokens
  obtain ⟨⟨kind, mark⟩, more, rfl, rfl, hmore⟩ := List.map_eq_cons_iff.mp hlast
  obtain rfl : more = [] := List.map_eq_nil_iff.mp hmore
  let handles : Handles := Directives.none.allHandles
  obtain ⟨placed, steps, hplaced, hsteps, hread⟩ := h.yields handles false content hcontent
  refine ⟨placed, hplaced, ?_⟩
  -- A token that opens a node is no directive and no marker of a document.
  have hstart : Document.ofTokens ⟨start :: (content ++ [⟨.streamEnd, mark⟩]), none⟩ =
      ofContent none handles (.node true false) (content ++ [⟨.streamEnd, mark⟩]) := by
    obtain ⟨_, kinds, rfl, hopens⟩ := h.opens
    obtain ⟨⟨kind, mark'⟩, content, rfl, rfl, -⟩ := List.map_eq_cons_iff.mp hcontent
    cases kind <;> first | rfl | cases hopens
  -- The steps that are left over suffice to see that nothing more is expected.
  obtain ⟨spare, hspare⟩ : ∃ spare, stepLimit (content ++ [⟨.streamEnd, mark⟩]) =
      spare + 1 + steps := by
    refine ⟨10 * (content.length + 2) - steps - 1, ?_⟩
    rw [stepLimit, List.length_append, List.length_singleton]
    omega
  have hcontent' := hread [] [] [⟨.streamEnd, mark⟩] (spare + 1)
  rw [List.append_nil, List.append_nil] at hcontent'
  rw [hstart, ofContent, hspare, hcontent', readContent, List.reverse_reverse]
  rfl

end Block
end Yaml
end ApiStubs
