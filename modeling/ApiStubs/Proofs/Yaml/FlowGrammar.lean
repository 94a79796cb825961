import ApiStubs.Proofs.Yaml.FlowTokens
import ApiStubs.Yaml.Document

/-!
# Reading flow collections

The machine of the grammar meets its expectations one after another, so what it yields for
a list of them is what it yields for each:

* `Document.Yields handles expected kinds events spare` — tokens of these kinds meet these
  expectations with these events, whatever else is expected and whatever tokens follow.
  Joined by `Document.Yields.append`.
* `Flow.Parses kinds events` — tokens of these kinds are a node with these events, in every
  place where a node may stand.

Where tokens and events stand does not matter to either. `spare` bounds the steps that are
taken: a step that passes a token gains one of two, and a step that passes none costs one
(`Yields.shift`, `Yields.silent`). A node has one to spare, so that the machine stays
within `Document.stepLimit`.
-/

namespace ApiStubs
namespace Yaml

namespace Document

/-- **What meets expectations.** Tokens of these kinds meet the expectations, with these
events, in at most `spare` steps less than twice the number of tokens. -/
def Yields (handles : Handles) (expected : List Expectation) (kinds : List TokenKind)
    (events : List (Event (List Char))) (spare : Nat) : Prop :=
  ∀ tokens : List Token, tokens.map (·.kind) = kinds →
    ∃ (placed : List (Placed (List Char))) (steps : Nat), placed.map (·.event) = events ∧
      steps + spare ≤ 2 * tokens.length ∧
      ∀ done others rest limit,
        readContent handles done (expected ++ others) (tokens ++ rest) (limit + steps) =
          readContent handles (placed.reverse ++ done) others rest limit

variable {handles : Handles} {expected expected' : List Expectation}
variable {kinds kinds' : List TokenKind} {events events' : List (Event (List Char))}
variable {spare spare' : Nat}

theorem Yields.nil : Yields handles [] [] [] 0 := by
  intro tokens htokens
  obtain rfl : tokens = [] := List.map_eq_nil_iff.mp htokens
  exact ⟨[], 0, rfl, Nat.le_refl _, fun _ _ _ _ => rfl⟩

theorem Yields.weaken (h : Yields handles expected kinds events spare) (hle : spare' ≤ spare) :
    Yields handles expected kinds events spare' := by
  intro tokens htokens
  obtain ⟨placed, steps, hplaced, hsteps, hread⟩ := h tokens htokens
  exact ⟨placed, steps, hplaced, by omega, hread⟩

theorem Yields.append (h : Yields handles expected kinds events spare)
    (h' : Yields handles expected' kinds' events' spare') :
    Yields handles (expected ++ expected') (kinds ++ kinds') (events ++ events')
      (spare + spare') := by
  intro tokens htokens
  obtain ⟨first, second, rfl, hfirst, hsecond⟩ := List.map_eq_append_iff.mp htokens
  obtain ⟨placed, steps, hplaced, hsteps, hread⟩ := h first hfirst
  obtain ⟨placed', steps', hplaced', hsteps', hread'⟩ := h' second hsecond
  refine ⟨placed ++ placed', steps' + steps, by rw [List.map_append, hplaced, hplaced'], ?_, ?_⟩
  · rw [List.length_append]
    omega
  · intro done others rest limit
    rw [List.append_assoc, List.append_assoc, ← Nat.add_assoc, hread, hread', List.reverse_append,
      List.append_assoc]

/-- A step that passes a token. What it expects then may depend on where the token is. -/
theorem Yields.shift {top : Expectation} {kind : TokenKind} (event : Option (Event (List Char)))
    (next : Mark → List Expectation)
    (hstep : ∀ mark, ∃ placed : Option (Placed (List Char)), placed.map (·.event) = event ∧
      ∀ rest, top.step handles ⟨kind, mark⟩ rest = .ok ⟨placed, next mark, rest⟩)
    (h : ∀ mark, Yields handles (next mark) kinds events spare) :
    Yields handles [top] (kind :: kinds) (event.toList ++ events) (spare + 1) := by
  intro tokens htokens
  obtain ⟨⟨kind', mark⟩, more, rfl, rfl, hmore⟩ := List.map_eq_cons_iff.mp htokens
  obtain ⟨placed, steps, hplaced, hsteps, hread⟩ := h mark more hmore
  obtain ⟨first, hfirst, hstep⟩ := hstep mark
  -- One step for one token, of which two count: one more is left to spare.
  refine ⟨first.toList ++ placed, steps + 1, ?_, ?_, ?_⟩
  · rw [List.map_append, hplaced, ← hfirst]
    cases first <;> rfl
  · rw [List.length_cons]
    omega
  · intro done others rest limit
    rw [← Nat.add_assoc, List.singleton_append, List.cons_append, readContent, hstep]
    change readContent handles (first.toList ++ done) (next mark ++ others) (more ++ rest) _ = _
    rw [hread, List.reverse_append, List.append_assoc]
    cases first <;> rfl

/-- A token that meets an expectation with one event. -/
theorem Yields.last {top : Expectation} {kind : TokenKind} {event : Event (List Char)}
    (hstep : ∀ mark rest, top.step handles ⟨kind, mark⟩ rest = .ok (.yield event mark [] rest)) :
    Yields handles [top] [kind] [event] 1 :=
  .shift (some event) (fun _ => [])
    (fun mark => ⟨some ⟨event, mark⟩, rfl, hstep mark⟩) (fun _ => .nil)

/-- A token that is passed without an event. -/
theorem Yields.pass {top : Expectation} {kind : TokenKind} {next : List Expectation}
    (hstep : ∀ mark rest, top.step handles ⟨kind, mark⟩ rest = .ok (.silent next rest))
    (h : Yields handles next kinds events spare) :
    Yields handles [top] (kind :: kinds) events (spare + 1) :=
  .shift none (fun _ => next) (fun mark => ⟨none, rfl, hstep mark⟩) (fun _ => h)

/-- A step that passes no token and yields no event. -/
theorem Yields.silent {top : Expectation} {kind : TokenKind} (next : List Expectation)
    (hstep : ∀ mark rest, top.step handles ⟨kind, mark⟩ rest =
      .ok (.silent next (⟨kind, mark⟩ :: rest)))
    (h : Yields handles next (kind :: kinds) events (spare + 1)) :
    Yields handles [top] (kind :: kinds) events spare := by
  intro tokens htokens
  obtain ⟨placed, steps, hplaced, hsteps, hread⟩ := h tokens htokens
  obtain ⟨⟨kind', mark⟩, more, rfl, rfl, -⟩ := List.map_eq_cons_iff.mp htokens
  -- The step is taken from what `h` has to spare, as no token pays for it.
  refine ⟨placed, steps + 1, hplaced, by omega, fun done others rest limit => ?_⟩
  rw [← hread, ← Nat.add_assoc, List.singleton_append, List.cons_append, readContent, hstep]
  rfl

end Document

namespace Flow

open Document

/-- Whether a token starts a node that has no properties. -/
def opensNode : TokenKind → Bool
  | .scalar _ _ => true
  | .flowSequenceStart => true
  | .flowMappingStart => true
  | _ => false

/-- **A node in tokens and in events.** Wherever a node may stand, tokens of these kinds are
read as these events. -/
structure Parses (kinds : List TokenKind) (events : List (Event (List Char))) : Prop where
  opens : ∃ kind more, kinds = kind :: more ∧ opensNode kind = true
  yields : ∀ handles block indentless,
    Yields handles [.node block indentless] kinds events 1

variable {handles : Handles} {kinds : List TokenKind} {events : List (Event (List Char))}

/-- A scalar without properties. -/
theorem Parses.scalar (text : List Char) (style : ScalarStyle) :
    Parses [.scalar text style] [.scalar .none text style] where
  opens := ⟨_, _, rfl, rfl⟩
  yields _ _ _ := .last fun _ _ => rfl

/-- Where a node may be left out, one that is there is read. -/
theorem Parses.optional (h : Parses kinds events) (handles : Handles) (place : Place) :
    Yields handles [.optional place] kinds events 0 := by
  obtain ⟨kind, more, rfl, hopens⟩ := h.opens
  -- None of the tokens that start a node makes it left out, in any of the places.
  have hthere : place.isOmittedAt kind = false := by
    cases place <;> cases kind <;> first | rfl | cases hopens
  refine .silent _ (fun mark rest => ?_) (h.yields handles place.allowsBlock place.allowsIndentless)
  rw [Expectation.step, hthere]
  rfl

/-! ### Sequences -/

/-- An item, and what follows it. -/
theorem yields_item {itemEvents : List (Event (List Char))} (hitem : Parses kinds itemEvents)
    (since : Mark) {tail : List TokenKind}
    (htail : Yields handles [.flowItems since] tail events 1) :
    Yields handles [.flowItem since] (kinds ++ tail) (itemEvents ++ events) 1 := by
  obtain ⟨kind, more, rfl, hopens⟩ := hitem.opens
  refine .silent [.node false false, .flowItems since] (fun mark rest => ?_)
    ((hitem.yields handles false false).append htail)
  -- The item is expected as a node that is neither in a block nor without indentation.
  cases kind <;> first | rfl | cases hopens

/-- Items with commas between them, and the end of the sequence. -/
theorem yields_items {kindss : List (List TokenKind)} {eventss : List (List (Event (List Char)))}
    (h : List.Forall₂ Parses kindss eventss) (since : Mark) :
    Yields handles [.flowItem since] ([.flowEntry].intercalate kindss ++ [.flowSequenceEnd])
      (eventss.flatten ++ [.sequenceEnd]) 1 := by
  -- By induction on the items: behind each one stands the end, or a comma and the others.
  induction h generalizing since with
  | nil =>
    exact .last fun _ _ => rfl
  | cons hitem hrest ih =>
    rw [List.flatten_cons, List.append_assoc]
    cases hrest with
    | nil =>
      rw [List.intercalate_singleton]
      exact yields_item hitem since (.last fun _ _ => rfl)
    | cons hnext hrest =>
      rw [List.intercalate_cons_cons, List.append_assoc, List.append_assoc]
      exact yields_item hitem since
        (.weaken (.pass (fun _ _ => rfl) (ih since)) (by omega))

/-- **A sequence in brackets.** -/
theorem Parses.sequence {kindss : List (List TokenKind)}
    {eventss : List (List (Event (List Char)))} (h : List.Forall₂ Parses kindss eventss) :
    Parses (.flowSequenceStart :: [.flowEntry].intercalate kindss ++ [.flowSequenceEnd])
      (.sequenceStart .none :: eventss.flatten ++ [.sequenceEnd]) where
  opens := ⟨_, _, rfl, rfl⟩
  yields _ _ _ :=
    .weaken (.shift (some (.sequenceStart .none)) (fun mark => [.flowItem mark])
      (fun mark => ⟨some ⟨.sequenceStart .none, mark⟩, rfl, fun _ => rfl⟩)
      (fun mark => yields_items h mark)) (by omega)

/-! ### Mappings -/

/-- A key that is announced, and its value. -/
theorem yields_pair {keyKinds valueKinds : List TokenKind}
    {keyEvents valueEvents : List (Event (List Char))} (hkey : Parses keyKinds keyEvents)
    (hvalue : Parses valueKinds valueEvents) (since : Mark) {tail : List TokenKind}
    (htail : Yields handles [.flowPairs since] tail events 1) :
    Yields handles [.flowKeys since] (pairKinds keyKinds valueKinds ++ tail)
      (keyEvents ++ (valueEvents ++ events)) 1 := by
  -- Three expectations in turn: the key, the value behind its colon, and what follows.
  have hmapped : Yields handles [.flowMapped] (.value :: valueKinds) valueEvents 1 :=
    .pass (fun _ _ => rfl) (hvalue.optional handles .flowValue)
  have hparts := (hkey.optional handles .flowKey).append (hmapped.append htail)
  rw [pairKinds, List.cons_append, List.append_assoc]
  exact .weaken (.pass (fun _ _ => rfl) hparts) (by omega)

/-- Keys and values with commas between them, and the end of the mapping. -/
theorem yields_pairs {kindss : List (List TokenKind × List TokenKind)}
    {eventss : List (List (Event (List Char)) × List (Event (List Char)))}
    (h : List.Forall₂ (fun k e => Parses k.1 e.1 ∧ Parses k.2 e.2) kindss eventss)
    (since : Mark) :
    Yields handles [.flowKeys since]
      ([.flowEntry].intercalate (kindss.map fun k => pairKinds k.1 k.2) ++ [.flowMappingEnd])
      ((eventss.flatMap fun e => e.1 ++ e.2) ++ [.mappingEnd]) 1 := by
  -- By induction on the pairs, as for items.
  induction h generalizing since with
  | nil =>
    exact .last fun _ _ => rfl
  | @cons kinds events kindss eventss hpair hrest ih =>
    rw [List.map_cons, List.flatMap_cons, List.append_assoc, List.append_assoc]
    cases hrest with
    | nil =>
      rw [List.map_nil, List.intercalate_singleton]
      exact yields_pair hpair.1 hpair.2 since (.last fun _ _ => rfl)
    | cons hnext hrest =>
      rw [List.map_cons, List.intercalate_cons_cons, List.append_assoc, List.append_assoc]
      exact yields_pair hpair.1 hpair.2 since
        (.weaken (.pass (fun _ _ => rfl) (ih since)) (by omega))

/-- **A mapping in brackets.** -/
theorem Parses.mapping {kindss : List (List TokenKind × List TokenKind)}
    {eventss : List (List (Event (List Char)) × List (Event (List Char)))}
    (h : List.Forall₂ (fun k e => Parses k.1 e.1 ∧ Parses k.2 e.2) kindss eventss) :
    Parses
      (.flowMappingStart :: [.flowEntry].intercalate (kindss.map fun k => pairKinds k.1 k.2) ++
        [.flowMappingEnd])
      (.mappingStart .none :: (eventss.flatMap fun e => e.1 ++ e.2) ++ [.mappingEnd]) where
  opens := ⟨_, _, rfl, rfl⟩
  yields _ _ _ :=
    .weaken (.shift (some (.mappingStart .none)) (fun mark => [.flowKeys mark])
      (fun mark => ⟨some ⟨.mappingStart .none, mark⟩, rfl, fun _ => rfl⟩)
      (fun mark => yields_pairs h mark)) (by omega)

end Flow
end Yaml
end ApiStubs
