import ApiStubs.Proofs.Yaml.NodeValue

/-!
# Nodes without a value

A node has no value if something is wrong with one of its scalars. Nothing after that is looked at,
and the error says where it was found:

* `Value.Fails events fault way depth` — these events are a node without a value, because of this
  fault. From the path of the node, `way` leads to the place of it, and at most `depth` collections
  lie in each other before it.

All that is in front of the fault has to have values. In a sequence, these are the items before it
(`Value.Fails.sequence`), and in a mapping the pairs before it and the key of the value that is
wrong (`Value.Fails.mapping`). A document that is such a node has no value either
(`Value.Fails.document`).
-/

namespace ApiStubs
namespace Yaml
namespace Value

/-- **Why some events have no value.** They are a node, wherever it stands, in which a fault is
found before anything else is wrong. -/
structure Fails (events : List (Event (List Char))) (fault : ValueFault) (way : Path → Path)
    (depth : Nat) : Prop where
  /-- The events are plain. -/
  plain : ∀ event ∈ events, event.isPlain = true
  /-- They start a node. -/
  starts : ∃ event more, events = event :: more ∧ event.startsNode = true
  /-- Reading them ends with the fault. -/
  reads : ∀ (walk : Walk) (limit : Nat) (path : Path) (jumps : Nat)
      (placed rest : List (Placed Nat)),
    depth ≤ limit → placed.map (·.event) = events.map Event.bound → placed.length ≤ walk.size →
      ∃ mark, readNode walk limit path jumps (placed ++ rest) =
        .error (.value fault (way path) mark)

variable {events : List (Event (List Char))} {fault : ValueFault} {way : Path → Path} {depth : Nat}

/-- A scalar without properties that is spelt like a value, and is none. -/
theorem Fails.scalar {text : List Char} {style : ScalarStyle} {fault : ScalarFault}
    (h : Scalar.value none text style = .error fault) :
    Fails [.scalar .none text style] (.scalar fault) id 0 where
  plain := by simp [Event.isPlain, Event.anchor?, Properties.none]
  starts := ⟨_, _, rfl, rfl⟩
  reads walk limit path jumps placed rest _ hplaced _ := by
    obtain ⟨⟨event, mark⟩, more, rfl, rfl, hmore⟩ := List.map_eq_cons_iff.mp hplaced
    obtain rfl : more = [] := List.map_eq_nil_iff.mp hmore
    refine ⟨mark, ?_⟩
    -- Scalars are read in the same way, whatever depth is left.
    cases limit <;>
    · simp only [Event.bound, List.cons_append, List.nil_append, readNode, Properties.none, h]
      rfl

theorem Fails.mono {depth' : Nat} (h : Fails events fault way depth) (hle : depth ≤ depth') :
    Fails events fault way depth' where
  plain := h.plain
  starts := h.starts
  reads walk limit path jumps placed rest hdepth :=
    h.reads walk limit path jumps placed rest (Nat.le_trans hle hdepth)

/-- The event that comes first in what a node is bound to. -/
theorem Fails.head (h : Fails events fault way depth) {placed : List (Placed Nat)}
    (hplaced : placed.map (·.event) = events.map Event.bound) :
    ∃ event mark more, placed = ⟨event, mark⟩ :: more ∧ event ≠ .sequenceEnd ∧
      event ≠ .mappingEnd ∧ ∀ number, event ≠ .aliasTo number := by
  obtain ⟨event, more, rfl, hstarts⟩ := h.starts
  obtain ⟨⟨event', mark⟩, more', rfl, rfl, -⟩ := List.map_eq_cons_iff.mp hplaced
  refine ⟨event.bound, mark, more', rfl, ?_⟩
  -- An event that starts a node is neither an end nor a reference, bound or not.
  cases event <;> first | exact absurd hstarts Bool.false_ne_true | exact ⟨nofun, nofun, nofun⟩

theorem Fails.follow (h : Fails events fault way depth) (walk : Walk) {limit : Nat} (path : Path)
    (jumps : Nat) {placed : List (Placed Nat)} (rest : List (Placed Nat)) (hdepth : depth ≤ limit)
    (hplaced : placed.map (·.event) = events.map Event.bound)
    (hsize : placed.length ≤ walk.size) :
    ∃ mark, follow walk (readNode walk limit) path jumps (placed ++ rest) =
      .error (.value fault (way path) mark) := by
  obtain ⟨mark, hread⟩ := h.reads walk limit path jumps placed rest hdepth hplaced hsize
  refine ⟨mark, ?_⟩
  rw [← hread]
  -- Only a reference is followed, and the first event is none.
  obtain ⟨event, mark', more, rfl, -, -, halias⟩ := h.head hplaced
  cases event with
  | aliasTo number => exact absurd rfl (halias number)
  | _ => rfl

/-! ### Sequences -/

variable {eventss others : List (List (Event (List Char)))} {values : List Value}

/-- Items with values are passed, and the next one ends the reading, whatever stands behind it. -/
theorem readItems_of_fails (hbefore : List.Forall₂ (Denotes · · depth) eventss values)
    (h : Fails events fault way depth) (walk : Walk) {limit : Nat} (hdepth : depth ≤ limit)
    (path : Path) (jumps : Nat) {before item : List (Placed Nat)}
    (hfront : before.map (·.event) = eventss.flatten.map Event.bound)
    (hitem : item.map (·.event) = events.map Event.bound)
    (hsize : before.length + item.length ≤ walk.size) (rest : List (Placed Nat)) :
    ∃ mark, readItems walk (Value.follow walk (readNode walk limit)) path [] jumps
        (before ++ (item ++ rest)) (walk.size + 1) =
      .error (.value fault (way (.item path values.length)) mark) := by
  -- There is fuel for an item more than those that have values.
  have hlength := length_le_of_denotes hbefore hfront
  obtain ⟨count, hcount⟩ : ∃ count, walk.size + 1 = count + 1 + values.length :=
    ⟨walk.size - values.length, by omega⟩
  obtain ⟨mark, hread⟩ :=
    h.follow walk (.item path values.length) jumps rest hdepth hitem (by omega)
  refine ⟨mark, ?_⟩
  -- First the items with values, as in `readItems_append`, then one more step.
  rw [hcount, readItems_append hbefore walk hdepth path [] jumps hfront (by omega), List.append_nil]
  obtain ⟨event, mark', item, rfl, hend, -⟩ := h.head hitem
  rw [readItems, List.length_reverse, hread]
  · exact List.cons_ne_nil _ _
  · intro mark rest heq
    injection heq with heq
    injection heq with heq
    exact hend heq

/-- **A sequence with an item that has no value.** Those before it have values, and those behind it
do not matter. -/
theorem Fails.sequence (hbefore : List.Forall₂ (Denotes · · depth) eventss values)
    (h : Fails events fault way depth) (hothers : ∀ event ∈ others.flatten, event.isPlain = true) :
    Fails (.sequenceStart .none :: (eventss ++ events :: others).flatten ++ [.sequenceEnd]) fault
      (fun path => way (.item path values.length)) (depth + 1) where
  plain := by
    rw [List.cons_append, List.forall_mem_cons, List.forall_mem_append, List.forall_mem_singleton,
      List.flatten_append, List.flatten_cons, List.forall_mem_append, List.forall_mem_append]
    exact ⟨rfl, ⟨plain_of_denotes hbefore, h.plain, hothers⟩, rfl⟩
  starts := ⟨_, _, rfl, rfl⟩
  reads walk limit path jumps placed rest hdepth hplaced hsize := by
    -- The collection itself takes one of the depth that is left.
    obtain ⟨limit, rfl⟩ : ∃ n, limit = n + 1 := ⟨limit - 1, by omega⟩
    obtain ⟨mark, items, mark', rfl, hitems⟩ := exists_collection hplaced
    -- The events are taken apart in three: the items before, the item without a value, and the
    -- others.
    rw [List.flatten_append, List.flatten_cons, List.map_append, List.map_append] at hitems
    obtain ⟨before, more, rfl, hfront, hmore⟩ := List.map_eq_append_iff.mp hitems
    obtain ⟨item, behind, rfl, hitem, -⟩ := List.map_eq_append_iff.mp hmore
    simp only [List.length_cons, List.length_append] at hsize
    obtain ⟨found, hread⟩ := readItems_of_fails hbefore h walk (by omega : depth ≤ limit) path jumps
      hfront hitem (by omega) (behind ++ ⟨.sequenceEnd, mark'⟩ :: rest)
    refine ⟨found, ?_⟩
    simp only [Event.bound, List.cons_append, List.append_assoc, List.nil_append, readNode, hread]

/-! ### Mappings -/

variable {pairss otherPairs : List (List (Event (List Char)) × List (Event (List Char)))}
  {entries : List (Value × Value)} {key : Value} {text : List Char} {style : ScalarStyle}

/-- Keys with values are passed, and so is the key of the value that ends the reading. -/
theorem readEntries_of_fails (hbefore : Pairs depth pairss entries)
    (hkeys : (entries.map Prod.fst).Pairwise fun key later => later.same key = false)
    (hkey : Denotes [.scalar .none text style] key depth)
    (hnew : ∀ entry ∈ entries, key.same entry.1 = false) (h : Fails events fault way depth)
    (walk : Walk) {limit : Nat} (hdepth : depth ≤ limit) (path : Path) (since : Mark) (jumps : Nat)
    {before pair : List (Placed Nat)}
    (hfront : before.map (·.event) = (pairss.flatMap fun e => e.1 ++ e.2).map Event.bound)
    (hpair : pair.map (·.event) = (.scalar .none text style :: events).map Event.bound)
    (hsize : before.length + pair.length ≤ walk.size) (rest : List (Placed Nat)) :
    ∃ mark, readEntries walk (Value.follow walk (readNode walk limit)) path since [] jumps
        (before ++ (pair ++ rest)) (walk.size + 1) =
      .error (.value fault (way (.entry path (String.ofList text))) mark) := by
  -- The first event is the key, and the others are those of the value.
  obtain ⟨⟨event, mark⟩, item, rfl, rfl, hitem⟩ := List.map_eq_cons_iff.mp hpair
  rw [List.length_cons] at hsize
  have hlength := length_le_of_pairs hbefore hfront
  obtain ⟨count, hcount⟩ : ∃ count, walk.size + 1 = count + 1 + entries.length :=
    ⟨walk.size - entries.length, by omega⟩
  -- The path goes through the text of the key.
  obtain ⟨found, hread⟩ := h.follow walk (.entry path (String.ofList text)) jumps rest hdepth hitem
    (by omega)
  have hkeyRead := hkey.follow walk path jumps (item ++ rest) hdepth
    (show [(⟨.scalar .none text style, mark⟩ : Placed Nat)].map (·.event) = _ from rfl)
    (show 1 ≤ walk.size by omega)
  -- The key is new, so the reader goes on to its value.
  have hfind : entries.reverse.find? (fun entry => key.same entry.1) = none := by
    rw [List.find?_eq_none]
    intro entry hentry
    rw [hnew entry (List.mem_reverse.mp hentry)]
    exact Bool.false_ne_true
  refine ⟨found, ?_⟩
  -- First the pairs with values, as in `readEntries_append`, then one more step.
  rw [hcount, readEntries_append hbefore walk hdepth path since [] hkeys
    (fun _ _ _ hold => absurd hold List.not_mem_nil) jumps hfront (by omega), List.append_nil]
  rw [List.singleton_append] at hkeyRead
  rw [List.cons_append, readEntries]
  · simp only [Event.bound, hkeyRead, hfind, entryPath, hread]
  · exact List.cons_ne_nil _ _
  · intro mark rest heq
    injection heq with heq
    cases heq

/-- **A mapping with a value that is none.** The keys and values before it have values, and so has
its own key, which is a scalar that differs from them; those behind it do not matter. -/
theorem Fails.mapping (hbefore : Pairs depth pairss entries)
    (hkeys : (entries.map Prod.fst).Pairwise fun key later => later.same key = false)
    (hkey : Denotes [.scalar .none text style] key depth)
    (hnew : ∀ entry ∈ entries, key.same entry.1 = false) (h : Fails events fault way depth)
    (hothers : ∀ event ∈ otherPairs.flatMap (fun e => e.1 ++ e.2), event.isPlain = true) :
    Fails (.mappingStart .none ::
        ((pairss ++ ([.scalar .none text style], events) :: otherPairs).flatMap
          fun e => e.1 ++ e.2) ++ [.mappingEnd]) fault
      (fun path => way (.entry path (String.ofList text))) (depth + 1) where
  plain := by
    rw [List.cons_append, List.forall_mem_cons, List.forall_mem_append, List.forall_mem_singleton,
      List.flatMap_append, List.flatMap_cons, List.forall_mem_append, List.forall_mem_append,
      List.forall_mem_append]
    exact ⟨rfl, ⟨plain_of_pairs hbefore, ⟨hkey.plain, h.plain⟩, hothers⟩, rfl⟩
  starts := ⟨_, _, rfl, rfl⟩
  reads walk limit path jumps placed rest hdepth hplaced hsize := by
    obtain ⟨limit, rfl⟩ : ∃ n, limit = n + 1 := ⟨limit - 1, by omega⟩
    obtain ⟨mark, items, mark', rfl, hitems⟩ := exists_collection hplaced
    -- Again in three: the pairs before, the one whose value is none, and the others.
    rw [List.flatMap_append, List.flatMap_cons, List.map_append, List.map_append] at hitems
    obtain ⟨before, more, rfl, hfront, hmore⟩ := List.map_eq_append_iff.mp hitems
    obtain ⟨pair, behind, rfl, hpair, -⟩ := List.map_eq_append_iff.mp hmore
    simp only [List.length_cons, List.length_append] at hsize
    obtain ⟨found, hread⟩ := readEntries_of_fails hbefore hkeys hkey hnew h walk
      (by omega : depth ≤ limit) path mark jumps hfront hpair (by omega)
      (behind ++ ⟨.mappingEnd, mark'⟩ :: rest)
    refine ⟨found, ?_⟩
    simp only [Event.bound, List.cons_append, List.append_assoc, List.nil_append, readNode, hread]

/-! ### Documents -/

/-- **A document without a value.** -/
theorem Fails.document (h : Fails events fault way depth) (hdepth : depth ≤ depthLimit)
    {placed : List (Placed (List Char))} (hplaced : placed.map (·.event) = events) :
    ∃ mark, ofDocument ⟨placed, none, true⟩ = .error (.value fault (way .root) mark) := by
  subst hplaced
  obtain ⟨walk, bound, hbound, hsize, hread⟩ :=
    exists_walk fun p hp => h.plain p.event (List.mem_map_of_mem hp)
  obtain ⟨mark, hfails⟩ := h.follow walk .root 0 [] hdepth hbound hsize
  -- The whole document is this node, and nothing stands behind it.
  rw [List.append_nil] at hfails
  refine ⟨mark, ?_⟩
  rw [hread, hfails]
  rfl

end Value
end Yaml
end ApiStubs
