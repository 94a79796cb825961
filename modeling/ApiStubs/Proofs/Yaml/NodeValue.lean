import ApiStubs.Yaml.Walk
import Mathlib.Data.List.Forall2

/-!
# The values of nodes

Events without anchors and aliases are bound as they stand (`Document.bindFrom_of_plain`),
and their value is built from the values of their parts:

* `Value.Denotes events value depth` — these events are a node with this value, and at most
  `depth` collections lie in each other.

Scalars are as their style says (`Value.Denotes.scalar`), sequences need nothing of their
items but values (`Value.Denotes.sequence`), and the keys of a mapping have to differ
(`Value.Denotes.mapping`).
-/

namespace ApiStubs
namespace Yaml

namespace Event

/-- Whether an event neither has an anchor nor refers to one. -/
def isPlain : Event (List Char) → Bool
  | aliasTo _ => false
  | event => event.anchor?.isNone

/-- A plain event as it is after binding. -/
def bound : Event (List Char) → Event Nat
  | aliasTo _ => aliasTo 0
  | scalar properties text style => scalar properties text style
  | sequenceStart properties => sequenceStart properties
  | sequenceEnd => sequenceEnd
  | mappingStart properties => mappingStart properties
  | mappingEnd => mappingEnd

/-- Whether an event starts a node of its own. -/
def startsNode : Event (List Char) → Bool
  | scalar .. => true
  | sequenceStart _ => true
  | mappingStart _ => true
  | _ => false

end Event

namespace Document

/-- Plain events are bound as they stand. -/
theorem bindFrom_of_plain (anchors : Anchors) (count : Nat) (done : List (Placed Nat))
    {placed : List (Placed (List Char))} (h : ∀ p ∈ placed, p.event.isPlain = true) :
    bindFrom anchors count done placed =
      (anchors, done.reverse ++ placed.map (fun p => ⟨p.event.bound, p.mark⟩), none) := by
  -- By induction on the events: without a name to bind, each one only counts as read.
  induction placed generalizing count done with
  | nil => simp [bindFrom]
  | cons p placed ih =>
    obtain ⟨event, mark⟩ := p
    have hplain : event.isPlain = true := h ⟨event, mark⟩ List.mem_cons_self
    have hanchor : event.anchor? = none := by
      cases event <;> first | rfl | exact Option.isNone_iff_eq_none.mp hplain
    have hrest : ∀ p ∈ placed, p.event.isPlain = true :=
      fun p hp => h p (List.mem_cons_of_mem _ hp)
    cases event with
    | aliasTo name => cases hplain
    | _ => simp [bindFrom, hanchor, ih _ _ hrest, Event.bound]

end Document

namespace Value

/-- **The value of some events.** They are a node with this value, wherever it stands, in
which at most `depth` collections lie in each other. -/
structure Denotes (events : List (Event (List Char))) (value : Value) (depth : Nat) : Prop where
  /-- The events are plain. -/
  plain : ∀ event ∈ events, event.isPlain = true
  /-- They start a node. -/
  starts : ∃ event more, events = event :: more ∧ event.startsNode = true
  /-- They are read as the value. -/
  reads : ∀ (walk : Walk) (limit : Nat) (path : Path) (jumps : Nat)
      (placed rest : List (Placed Nat)),
    depth ≤ limit → placed.map (·.event) = events.map Event.bound → placed.length ≤ walk.size →
      readNode walk limit path jumps (placed ++ rest) = .ok (value, jumps, rest)

/-- A scalar without properties has the value that its style gives it. -/
theorem Denotes.scalar {text : List Char} {style : ScalarStyle} {value : Value}
    (h : Scalar.value none text style = .ok value) :
    Denotes [.scalar .none text style] value 0 where
  plain := by simp [Event.isPlain, Event.anchor?, Properties.none]
  starts := ⟨_, _, rfl, rfl⟩
  reads walk limit path jumps placed rest _ hplaced _ := by
    obtain ⟨⟨event, mark⟩, more, rfl, rfl, hmore⟩ := List.map_eq_cons_iff.mp hplaced
    obtain rfl : more = [] := List.map_eq_nil_iff.mp hmore
    -- A scalar is read in the same way, whatever depth is left.
    cases limit <;>
    · simp only [Event.bound, List.cons_append, List.nil_append, readNode, Properties.none, h]
      rfl

variable {eventss : List (List (Event (List Char)))} {values : List Value} {depth : Nat}

theorem Denotes.mono {events : List (Event (List Char))} {value : Value} {depth' : Nat}
    (h : Denotes events value depth) (hle : depth ≤ depth') : Denotes events value depth' where
  plain := h.plain
  starts := h.starts
  reads walk limit path jumps placed rest hdepth :=
    h.reads walk limit path jumps placed rest (Nat.le_trans hle hdepth)

theorem Denotes.follow {events : List (Event (List Char))} {value : Value}
    (h : Denotes events value depth) (walk : Walk) {limit : Nat} (path : Path) (jumps : Nat)
    {placed : List (Placed Nat)} (rest : List (Placed Nat)) (hdepth : depth ≤ limit)
    (hplaced : placed.map (·.event) = events.map Event.bound)
    (hsize : placed.length ≤ walk.size) :
    follow walk (readNode walk limit) path jumps (placed ++ rest) = .ok (value, jumps, rest) := by
  rw [← h.reads walk limit path jumps placed rest hdepth hplaced hsize]
  -- Only a reference is followed, and the first event is none.
  obtain ⟨event, more, rfl, hstarts⟩ := h.starts
  obtain ⟨⟨event', mark⟩, more', rfl, rfl, -⟩ := List.map_eq_cons_iff.mp hplaced
  cases event <;> first | rfl | cases hstarts

/-- The event that comes first in what a node is bound to. -/
theorem Denotes.head {events : List (Event (List Char))} {value : Value}
    (h : Denotes events value depth) {placed : List (Placed Nat)}
    (hplaced : placed.map (·.event) = events.map Event.bound) :
    ∃ event mark more, placed = ⟨event, mark⟩ :: more ∧ event ≠ .sequenceEnd ∧
      event ≠ .mappingEnd := by
  obtain ⟨event, more, rfl, hstarts⟩ := h.starts
  obtain ⟨⟨event', mark⟩, more', rfl, rfl, -⟩ := List.map_eq_cons_iff.mp hplaced
  refine ⟨event.bound, mark, more', rfl, ?_, ?_⟩
  -- An event that starts a node is no end, bound or not.
  · cases event <;> first | exact absurd hstarts Bool.false_ne_true | exact nofun
  · cases event <;> first | exact absurd hstarts Bool.false_ne_true | exact nofun

/-! ### Sequences -/

/-- What is bound to the events of a collection: its start, what is in it, and its end. -/
theorem exists_collection {first last : Event (List Char)} {events : List (Event (List Char))}
    {placed : List (Placed Nat)}
    (h : placed.map (·.event) = (first :: events ++ [last]).map Event.bound) :
    ∃ mark items mark', placed = ⟨first.bound, mark⟩ :: (items ++ [⟨last.bound, mark'⟩]) ∧
      items.map (·.event) = events.map Event.bound := by
  rw [List.cons_append, List.map_cons, List.map_append] at h
  obtain ⟨⟨event, mark⟩, more, rfl, rfl, hmore⟩ := List.map_eq_cons_iff.mp h
  obtain ⟨items, ends, rfl, hitems, hends⟩ := List.map_eq_append_iff.mp hmore
  obtain ⟨⟨event, mark'⟩, others, rfl, rfl, hothers⟩ := List.map_eq_cons_iff.mp hends
  obtain rfl : others = [] := List.map_eq_nil_iff.mp hothers
  exact ⟨mark, items, mark', rfl, hitems⟩

theorem plain_of_denotes (h : List.Forall₂ (Denotes · · depth) eventss values) :
    ∀ event ∈ eventss.flatten, event.isPlain = true := by
  induction h with
  | nil => exact List.forall_mem_nil _
  | cons hitem _ ih =>
    rw [List.flatten_cons]
    exact List.forall_mem_append.mpr ⟨hitem.plain, ih⟩

/-- Each item has an event of its own at least. -/
theorem length_le_of_denotes (h : List.Forall₂ (Denotes · · depth) eventss values)
    {placed : List (Placed Nat)}
    (hplaced : placed.map (·.event) = eventss.flatten.map Event.bound) :
    values.length ≤ placed.length := by
  -- Binding keeps the number of events, so it is enough to count those that are bound.
  have hlength : placed.length = eventss.flatten.length := by
    simpa only [List.length_map] using congrArg List.length hplaced
  rw [hlength]
  clear hplaced hlength
  induction h with
  | nil => exact Nat.le_refl 0
  | cons hitem _ ih =>
    -- The first event of the item pays for its value.
    obtain ⟨event, more, rfl, -⟩ := hitem.starts
    rw [List.flatten_cons, List.cons_append, List.length_cons, List.length_cons, List.length_append]
    omega

/-- **Items are read** one after another, and whatever stands behind them is read then. -/
theorem readItems_append (h : List.Forall₂ (Denotes · · depth) eventss values) (walk : Walk)
    {limit : Nat} (hdepth : depth ≤ limit) (path : Path) (items : List Value) (jumps : Nat)
    {placed : List (Placed Nat)} (hplaced : placed.map (·.event) = eventss.flatten.map Event.bound)
    (hsize : placed.length ≤ walk.size) (rest : List (Placed Nat)) (count : Nat) :
    readItems walk (Value.follow walk (readNode walk limit)) path items jumps (placed ++ rest)
        (count + values.length) =
      readItems walk (Value.follow walk (readNode walk limit)) path (values.reverse ++ items) jumps
        rest count := by
  -- By induction on the items, with those already read in front.
  induction h generalizing items placed with
  | nil =>
    obtain rfl : placed = [] := List.map_eq_nil_iff.mp hplaced
    rfl
  | @cons events value eventss values hitem hrest ih =>
    rw [List.flatten_cons, List.map_append] at hplaced
    obtain ⟨first, others, rfl, hfirst, hothers⟩ := List.map_eq_append_iff.mp hplaced
    rw [List.length_append] at hsize
    -- The item is read in one go; what is left belongs to the induction.
    have hread := hitem.follow walk (.item path items.length) jumps (others ++ rest) hdepth hfirst
      (by omega)
    -- An item never starts with the event that ends the sequence.
    obtain ⟨event, mark', first, rfl, hend, -⟩ := hitem.head hfirst
    rw [List.length_cons, ← Nat.add_assoc, List.append_assoc, readItems, hread]
    · show readItems walk _ path (value :: items) jumps (others ++ rest) (count + values.length) = _
      rw [ih (value :: items) hothers (by omega), List.reverse_cons, List.append_assoc,
        List.singleton_append]
    · exact List.cons_ne_nil _ _
    · intro mark'' rest' heq
      injection heq with heq
      injection heq with heq
      exact hend heq

/-- Items are read one after another, up to the end of their sequence. -/
theorem readItems_of_denotes (h : List.Forall₂ (Denotes · · depth) eventss values) (walk : Walk)
    {limit : Nat} (hdepth : depth ≤ limit) (path : Path) (jumps : Nat) {placed : List (Placed Nat)}
    (hplaced : placed.map (·.event) = eventss.flatten.map Event.bound)
    (hsize : placed.length ≤ walk.size) (mark : Mark) (rest : List (Placed Nat)) :
    readItems walk (Value.follow walk (readNode walk limit)) path [] jumps
        (placed ++ ⟨.sequenceEnd, mark⟩ :: rest) (walk.size + 1) =
      .ok (values, jumps, rest) := by
  have hlength := length_le_of_denotes h hplaced
  -- There is fuel for one step more than the items: the one that sees the end.
  obtain ⟨count, hcount⟩ : ∃ count, walk.size + 1 = count + 1 + values.length :=
    ⟨walk.size - values.length, by omega⟩
  rw [hcount, readItems_append h walk hdepth path [] jumps hplaced hsize, List.append_nil]
  simp only [readItems, List.reverse_reverse]

/-- **A sequence** has the values of its items. -/
theorem Denotes.sequence (h : List.Forall₂ (Denotes · · depth) eventss values) :
    Denotes (.sequenceStart .none :: eventss.flatten ++ [.sequenceEnd]) (.sequence values)
      (depth + 1) where
  plain := by
    rw [List.cons_append, List.forall_mem_cons, List.forall_mem_append, List.forall_mem_singleton]
    exact ⟨rfl, plain_of_denotes h, rfl⟩
  starts := ⟨_, _, rfl, rfl⟩
  reads walk limit path jumps placed rest hdepth hplaced hsize := by
    -- The collection itself takes one of the depth that is left.
    obtain ⟨limit, rfl⟩ : ∃ n, limit = n + 1 := ⟨limit - 1, by omega⟩
    obtain ⟨mark, items, mark', rfl, hitems⟩ := exists_collection hplaced
    -- The items come first, and then the end of the sequence.
    rw [List.length_cons, List.length_append] at hsize
    have hread := readItems_of_denotes h walk (by omega : depth ≤ limit) path jumps hitems
      (by omega) mark' rest
    simp only [Event.bound, List.cons_append, List.append_assoc, List.nil_append, readNode, hread]
    rfl

/-! ### Mappings -/

/-- Events of keys and values that are read as those of a mapping. -/
def Pairs (depth : Nat) (eventss : List (List (Event (List Char)) × List (Event (List Char))))
    (entries : List (Value × Value)) : Prop :=
  List.Forall₂ (fun e v => Denotes e.1 v.1 depth ∧ Denotes e.2 v.2 depth) eventss entries

variable {pairss : List (List (Event (List Char)) × List (Event (List Char)))}
variable {entries : List (Value × Value)}

theorem plain_of_pairs (h : Pairs depth pairss entries) :
    ∀ event ∈ pairss.flatMap fun e => e.1 ++ e.2, event.isPlain = true := by
  induction h with
  | nil => exact List.forall_mem_nil _
  | cons hpair _ ih =>
    rw [List.flatMap_cons]
    exact List.forall_mem_append.mpr ⟨List.forall_mem_append.mpr ⟨hpair.1.plain, hpair.2.plain⟩, ih⟩

/-- Each key has an event of its own at least. -/
theorem length_le_of_pairs (h : Pairs depth pairss entries) {placed : List (Placed Nat)}
    (hplaced : placed.map (·.event) = (pairss.flatMap fun e => e.1 ++ e.2).map Event.bound) :
    entries.length ≤ placed.length := by
  have hlength : placed.length = (pairss.flatMap fun e => e.1 ++ e.2).length := by
    simpa only [List.length_map] using congrArg List.length hplaced
  rw [hlength]
  clear hplaced hlength
  -- By induction on the pairs: the first event of each key pays for the pair.
  induction h with
  | nil => exact Nat.le_refl 0
  | cons hpair _ ih =>
    obtain ⟨event, more, hevents, -⟩ := hpair.1.starts
    rw [List.flatMap_cons, hevents, List.cons_append, List.cons_append, List.length_cons,
      List.length_cons, List.length_append]
    omega

/-- **Keys and their values are read** one after another, if each key differs from those before it,
and whatever stands behind them is read then. -/
theorem readEntries_append (h : Pairs depth pairss entries) (walk : Walk) {limit : Nat}
    (hdepth : depth ≤ limit) (path : Path) (since : Mark) (before : List (Value × Value))
    (hkeys : (entries.map Prod.fst).Pairwise fun key later => later.same key = false)
    (hbefore : ∀ entry ∈ entries, ∀ old ∈ before, entry.1.same old.1 = false)
    (jumps : Nat) {placed : List (Placed Nat)}
    (hplaced : placed.map (·.event) = (pairss.flatMap fun e => e.1 ++ e.2).map Event.bound)
    (hsize : placed.length ≤ walk.size) (rest : List (Placed Nat)) (count : Nat) :
    readEntries walk (Value.follow walk (readNode walk limit)) path since before jumps
        (placed ++ rest) (count + entries.length) =
      readEntries walk (Value.follow walk (readNode walk limit)) path since
        (entries.reverse ++ before) jumps rest count := by
  -- By induction on the pairs, with those already read in front.
  induction h generalizing before placed with
  | nil =>
    obtain rfl : placed = [] := List.map_eq_nil_iff.mp hplaced
    rfl
  | @cons events entry pairss entries hpair hrest ih =>
    rw [List.flatMap_cons, List.map_append, List.map_append] at hplaced
    -- The events of a pair are those of its key, and then those of its value.
    obtain ⟨both, others, rfl, hboth, hothers⟩ := List.map_eq_append_iff.mp hplaced
    obtain ⟨first, second, rfl, hfirst, hsecond⟩ := List.map_eq_append_iff.mp hboth
    rw [List.length_append, List.length_append] at hsize
    have hkey := hpair.1.follow walk path jumps (second ++ (others ++ rest)) hdepth hfirst
      (by omega)
    -- None of the keys read before is the same, so the entry is added.
    have hnew : before.find? (fun old => entry.1.same old.1) = none := by
      rw [List.find?_eq_none]
      intro old hold
      rw [hbefore entry List.mem_cons_self old hold]
      exact Bool.false_ne_true
    -- A key never starts with the event that ends the mapping.
    obtain ⟨event, mark', first, rfl, -, hend⟩ := hpair.1.head hfirst
    have hmapped := hpair.2.follow walk
      (entryPath path (⟨event, mark'⟩ :: first ++ (second ++ (others ++ rest)))) jumps
      (others ++ rest) hdepth hsecond (by omega)
    rw [List.map_cons, List.pairwise_cons] at hkeys
    -- Later keys differ from this one as well, now that it has been read.
    have hnext : ∀ later ∈ entries, ∀ old ∈ entry :: before, later.1.same old.1 = false := by
      intro later hlater old hold
      rcases List.mem_cons.mp hold with rfl | hold
      · exact hkeys.1 later.1 (List.mem_map_of_mem hlater)
      · exact hbefore later (List.mem_cons_of_mem _ hlater) old hold
    rw [List.length_cons, ← Nat.add_assoc, List.append_assoc, List.append_assoc, readEntries, hkey]
    · simp only [hnew, hmapped]
      rw [ih (entry :: before) hkeys.2 hnext hothers (by omega), List.reverse_cons,
        List.append_assoc, List.singleton_append]
    · exact List.cons_ne_nil _ _
    · intro mark'' rest' heq
      injection heq with heq
      injection heq with heq
      exact hend heq

/-- Keys and their values are read one after another, up to the end of their mapping. -/
theorem readEntries_of_denotes (h : Pairs depth pairss entries) (walk : Walk) {limit : Nat}
    (hdepth : depth ≤ limit) (path : Path) (since : Mark)
    (hkeys : (entries.map Prod.fst).Pairwise fun key later => later.same key = false)
    (jumps : Nat) {placed : List (Placed Nat)}
    (hplaced : placed.map (·.event) = (pairss.flatMap fun e => e.1 ++ e.2).map Event.bound)
    (hsize : placed.length ≤ walk.size) (mark : Mark) (rest : List (Placed Nat)) :
    readEntries walk (Value.follow walk (readNode walk limit)) path since [] jumps
        (placed ++ ⟨.mappingEnd, mark⟩ :: rest) (walk.size + 1) =
      .ok (entries, jumps, rest) := by
  have hlength := length_le_of_pairs h hplaced
  -- There is fuel for one step more than the pairs: the one that sees the end.
  obtain ⟨count, hcount⟩ : ∃ count, walk.size + 1 = count + 1 + entries.length :=
    ⟨walk.size - entries.length, by omega⟩
  rw [hcount, readEntries_append h walk hdepth path since [] hkeys
    (fun _ _ _ hold => absurd hold List.not_mem_nil) jumps hplaced hsize, List.append_nil]
  simp only [readEntries, List.reverse_reverse]

/-- **A mapping** has the values of its keys and entries, if no two keys are the same. -/
theorem Denotes.mapping (h : Pairs depth pairss entries)
    (hkeys : (entries.map Prod.fst).Pairwise fun key later => later.same key = false) :
    Denotes (.mappingStart .none :: (pairss.flatMap fun e => e.1 ++ e.2) ++ [.mappingEnd])
      (.mapping entries) (depth + 1) where
  plain := by
    rw [List.cons_append, List.forall_mem_cons, List.forall_mem_append, List.forall_mem_singleton]
    exact ⟨rfl, plain_of_pairs h, rfl⟩
  starts := ⟨_, _, rfl, rfl⟩
  reads walk limit path jumps placed rest hdepth hplaced hsize := by
    -- The collection itself takes one of the depth that is left.
    obtain ⟨limit, rfl⟩ : ∃ n, limit = n + 1 := ⟨limit - 1, by omega⟩
    obtain ⟨mark, items, mark', rfl, hitems⟩ := exists_collection hplaced
    rw [List.length_cons, List.length_append] at hsize
    have hread := readEntries_of_denotes h walk (by omega : depth ≤ limit) path mark hkeys jumps
      hitems (by omega) mark' rest
    simp only [Event.bound, List.cons_append, List.append_assoc, List.nil_append, readNode, hread]
    rfl

/-! ### Documents -/

/-- A document of plain events is walked once, from its first event on. With such events there is
nothing to go back to, and nothing is unread at the end. -/
theorem exists_walk {placed : List (Placed (List Char))}
    (hplain : ∀ p ∈ placed, p.event.isPlain = true) :
    ∃ (walk : Walk) (bound : List (Placed Nat)),
      bound.map (·.event) = (placed.map (·.event)).map Event.bound ∧ bound.length ≤ walk.size ∧
      ofDocument ⟨placed, none, true⟩ =
        (follow walk (readNode walk depthLimit) .root 0 bound).map Prod.fst := by
  -- What has been bound is all that is walked. No name is known in it.
  let bound : List (Placed Nat) := placed.map fun p => ⟨p.event.bound, p.mark⟩
  let walk : Walk := ⟨fun number => (Document.Anchors.none.position? number).elim [] bound.drop,
    bound.length, .endOfEvents⟩
  have hwalk : walkOf ⟨placed, none, true⟩ = (walk, bound, none) := by
    rw [walkOf, Document.bindFrom_of_plain _ _ _ hplain]
    rfl
  refine ⟨walk, bound, ?_, Nat.le_refl _, ?_⟩
  -- Binding changes neither the order of the events nor their number.
  · rw [List.map_map, List.map_map]
    rfl
  · rw [ofDocument, hwalk]
    dsimp only
    cases follow walk (readNode walk depthLimit) .root 0 bound <;> rfl

/-- **A document that is one node** has its value, if not too many collections lie in each
other. -/
theorem Denotes.document {events : List (Event (List Char))} {value : Value}
    (h : Denotes events value depth) (hdepth : depth ≤ depthLimit)
    {placed : List (Placed (List Char))} (hplaced : placed.map (·.event) = events) :
    ofDocument ⟨placed, none, true⟩ = .ok value := by
  subst hplaced
  obtain ⟨walk, bound, hbound, hsize, hread⟩ :=
    exists_walk fun p hp => h.plain p.event (List.mem_map_of_mem hp)
  -- The whole document is this node, and nothing stands behind it.
  have hvalue := h.follow walk .root 0 [] hdepth hbound hsize
  rw [List.append_nil] at hvalue
  rw [hread, hvalue]
  rfl

end Value
end Yaml
end ApiStubs
