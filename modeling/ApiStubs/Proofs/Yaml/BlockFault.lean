import ApiStubs.Proofs.Yaml.BlockDocument
import ApiStubs.Proofs.Yaml.NodeFault

/-!
# Texts without a value

A text can be scanned and parsed like one that has a value, and still have none, because of one of
its scalars:

* `Block.Misspells column chars fault way depth` — where they start at this column, the characters
  are a node without a value, because of this fault, to which `way` leads from the path of the node;
* `Flow.MisspellsItem chars fault way depth` — they are such a node in front of a comma or a
  bracket.

A word may be such an item (`Flow.MisspellsItem.word`). All that holds it is misspelt in the same
way: a sequence in brackets (`Misspells.flow`), a sequence behind dashes (`Misspells.sequence`), and
a mapping (`Misspells.mapping`), if whatever else they hold spells values. A text that is misspelt
has no value (`Misspells.ofString_eq`).
-/

namespace ApiStubs
namespace Yaml

variable {chars : List Char} {fault : ValueFault} {way : Path → Path} {depth : Nat}

namespace Flow

/-- **Characters that spell no value as an item**, in front of a comma or a closing bracket. -/
def MisspellsItem (chars : List Char) (fault : ValueFault) (way : Path → Path) (depth : Nat) :
    Prop :=
  ∃ events, WritesItem chars events ∧ Value.Fails events fault way depth

/-- A word for which there is no value. -/
theorem MisspellsItem.word (hword : Plain.IsWord chars) {fault : ScalarFault}
    (h : Scalar.value none chars .plain = .error fault) :
    MisspellsItem chars (.scalar fault) id 0 :=
  ⟨_, .word hword, .scalar h⟩

end Flow

namespace Block

open ApiStubs.Yaml.Flow (forall₂_stages separator)

/-- **Characters that spell no value** at a column. They are scanned as a node, whose tokens are
parsed as a node, in whose events a fault is found. -/
def Misspells (column : Nat) (chars : List Char) (fault : ValueFault) (way : Path → Path)
    (depth : Nat) : Prop :=
  ∃ events, Writes column chars events ∧ Value.Fails events fault way depth

variable {column : Nat} {charss others : List (List Char)}

theorem Misspells.mono {depth' : Nat} (h : Misspells column chars fault way depth)
    (hle : depth ≤ depth') : Misspells column chars fault way depth' := by
  obtain ⟨events, hwrites, hfails⟩ := h
  exact ⟨events, hwrites, hfails.mono hle⟩

/-- **A text that spells no value**, with a line feed at its end, has none. -/
theorem Misspells.ofString_eq (h : Misspells 0 chars fault way depth)
    (hdepth : depth ≤ Value.depthLimit) {text : String} (htext : text.toList = chars ++ ['\n']) :
    ∃ mark, Value.ofString text = .error (.value fault (way .root) mark) := by
  obtain ⟨events, hwrites, hfails⟩ := h
  obtain ⟨placed, hplaced, hread⟩ := hwrites.exists_document htext
  -- What stands in the text is a document of the same events, and reading these ends with the
  -- fault.
  rw [hread]
  exact hfails.document hdepth hplaced

/-! ### Sequences -/

variable {values otherValues : List Value}

/-- Items between square brackets, one of which is misspelt. -/
theorem Misspells.flow (hbefore : List.Forall₂ (Flow.SpellsItem · · depth) charss values)
    (h : Flow.MisspellsItem chars fault way depth)
    (hbehind : List.Forall₂ (Flow.SpellsItem · · depth) others otherValues) (column : Nat) :
    Misspells column ('[' :: separator.intercalate (charss ++ chars :: others) ++ [']']) fault
      (fun path => way (.item path values.length)) (depth + 1) := by
  obtain ⟨events, hwrites, hfails⟩ := h
  -- On both sides the items are written as events that have values.
  obtain ⟨front, hfront, hvalues⟩ :=
    forall₂_stages (hbefore.imp fun _ _ hitem => hitem.exists_writes)
  obtain ⟨rest, hrest, hothers⟩ :=
    forall₂_stages (hbehind.imp fun _ _ hitem => hitem.exists_writes)
  -- The events of the sequence are those of the items before, of the misspelt one, and of the
  -- others.
  exact ⟨_, .of_flow (.sequence (List.rel_append hfront (.cons hwrites hrest))) column,
    .sequence hvalues hfails (Value.plain_of_denotes hothers)⟩

/-- Items behind dashes, one of which is misspelt. -/
theorem Misspells.sequence (hbefore : List.Forall₂ (Spells (column + 2) · · depth) charss values)
    (h : Misspells (column + 2) chars fault way depth)
    (hbehind : List.Forall₂ (Spells (column + 2) · · depth) others otherValues) :
    Misspells column
      ((lineTo column).intercalate ((charss ++ chars :: others).map ('-' :: ' ' :: ·))) fault
      (fun path => way (.item path values.length)) (depth + 1) := by
  obtain ⟨events, hwrites, hfails⟩ := h
  obtain ⟨front, hfront, hvalues⟩ :=
    -- As between brackets: events with values around those that have none.
    forall₂_stages (hbefore.imp fun _ _ hitem => hitem.exists_writes)
  obtain ⟨rest, hrest, hothers⟩ :=
    forall₂_stages (hbehind.imp fun _ _ hitem => hitem.exists_writes)
  exact ⟨_, .sequence (List.rel_append hfront (.cons hwrites hrest)) (by simp),
    .sequence hvalues hfails (Value.plain_of_denotes hothers)⟩

/-! ### Mappings -/

variable {key : List Char} {k : Value} {entries otherEntries : List (Value × Value)}

/-- Keys and values on lines of their own, one of which is misspelt below its key. This key is a
word, and differs from those before it. -/
theorem Misspells.mapping {inner : Nat}
    (hbefore : List.Forall₂ (SpellsPair column depth) charss entries)
    (hkeys : (entries.map Prod.fst).Pairwise fun key later => later.same key = false)
    (hword : Plain.IsWord key) (hshort : key.length ≤ SimpleKey.maxLength)
    (hvalue : Scalar.value none key .plain = .ok k)
    (hnew : ∀ entry ∈ entries, k.same entry.1 = false)
    (h : Misspells inner chars fault way depth) (hinner : column < inner)
    (hbehind : List.Forall₂ (SpellsPair column depth) others otherEntries) :
    Misspells column
      ((lineTo column).intercalate (charss ++ (key ++ ':' :: (lineTo inner ++ chars)) :: others))
      fault (fun path => way (.entry path (String.ofList key))) (depth + 1) := by
  obtain ⟨events, hwrites, hfails⟩ := h
  -- The pairs before this one are valued, since reading goes through them; of those behind it, that
  -- their events are plain is enough.
  obtain ⟨front, hfront, hentries⟩ :=
    forall₂_stages (hbefore.imp fun _ _ hpair => hpair.exists_writes)
  obtain ⟨rest, hrest, hothers⟩ :=
    forall₂_stages (hbehind.imp fun _ _ hpair => hpair.exists_writes)
  -- The misspelt value stands below a key that has a value.
  have hpair : WritesPair column (key ++ ':' :: (lineTo inner ++ chars)) _ :=
    .below hword hshort hwrites hinner
  have hdenotes : Value.Denotes [.scalar .none key .plain] k depth :=
    (Value.Denotes.scalar hvalue).mono (Nat.zero_le depth)
  exact ⟨_, .mapping (List.rel_append hfront (.cons hpair hrest)) (by simp),
    .mapping hentries hkeys hdenotes hnew hfails (Value.plain_of_pairs hothers)⟩

end Block
end Yaml
end ApiStubs
