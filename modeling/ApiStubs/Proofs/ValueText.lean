import ApiStubs.Proofs.ItemLayout
import ApiStubs.Proofs.Reading.Shapes
import ApiStubs.Proofs.Yaml.ScalarText

/-!
# Texts of values

The text of a value is a flow collection or a word, and is itself a way to write the value: read as
YAML, it has this value again (`Value.IsData.block`). So a degraded entry keeps what its parameters
were, and can be repaired from its text:

* `Reading.ofString_valueText` — an entry whose parameters are given by the text of a value is full
  or degraded as the value says, with the texts of its parts or the text of the whole.

Words with other characters than letters, numbers that are no integers, and tags are left out: their
text may be read otherwise.
-/

namespace ApiStubs

namespace Yaml
namespace Value

open Yaml.Flow (Brackets Fills SpellsItem SpellsPair forall₂_map entryChars separator)

/-- **Values that are read back from their text**, with at most `depth` collections in each
other. -/
inductive IsData : Nat → Value → Prop
  | atom {depth : Nat} {v : Value} (h : IsAtom v) : IsData depth v
  | sequence {depth : Nat} {items : List Value} (h : ∀ item ∈ items, IsData depth item) :
    IsData (depth + 1) (.sequence items)
  | mapping {depth : Nat} {entries : List (Value × Value)}
    (hkeys : ∀ entry ∈ entries, IsKey entry.1) (hdiffer : (entries.map Prod.fst).Pairwise (· ≠ ·))
    (h : ∀ entry ∈ entries, IsData depth entry.2) : IsData (depth + 1) (.mapping entries)

/-! ### Texts of collections -/

theorem texts_eq_map (items : List Value) : texts items = items.map text := by
  induction items with
  | nil => rw [texts, List.map_nil]
  | cons item items ih => rw [texts, ih, List.map_cons]

theorem entryTexts_eq_map (entries : List (Value × Value)) :
    entryTexts entries = entries.map fun entry => text entry.1 ++ ": " ++ text entry.2 := by
  induction entries with
  | nil => rw [entryTexts, List.map_nil]
  | cons entry entries ih => rw [entryTexts, ih, List.map_cons]

theorem toList_text_sequence (items : List Value) :
    (text (.sequence items)).toList =
      Brackets.square.opening :: separator.intercalate (items.map fun item => (text item).toList) ++
        [Brackets.square.closing] := by
  rw [text, texts_eq_map]
  simp [separator, Brackets.opening, Brackets.closing, Function.comp_def]

theorem toList_text_mapping (entries : List (Value × Value)) :
    (text (.mapping entries)).toList =
      Brackets.curly.opening ::
        separator.intercalate (entries.map fun entry =>
          entryChars (text entry.1).toList (text entry.2).toList) ++ [Brackets.curly.closing] := by
  rw [text, entryTexts_eq_map]
  simp [separator, entryChars, Brackets.opening, Brackets.closing, Function.comp_def]

/-! ### Texts spell their values -/

variable {depth : Nat} {v : Value}

theorem spells_sequence_text {items : List Value}
    (h : ∀ item ∈ items, SpellsItem (text item).toList item depth) :
    Flow.Spells (text (.sequence items)).toList (.sequence items) (depth + 1) := by
  have hitems : List.Forall₂ (SpellsItem · · depth)
      (items.map fun item => (text item).toList) (items.map id) :=
    forall₂_map h
  rw [List.map_id] at hitems
  rw [toList_text_sequence]
  exact (Fills.sequence hitems).spells

theorem spells_mapping_text {entries : List (Value × Value)}
    (hkeys : ∀ entry ∈ entries, IsKey entry.1) (hdiffer : (entries.map Prod.fst).Pairwise (· ≠ ·))
    (h : ∀ entry ∈ entries, SpellsItem (text entry.2).toList entry.2 depth) :
    Flow.Spells (text (.mapping entries)).toList (.mapping entries) (depth + 1) := by
  have hentries : List.Forall₂ (SpellsPair depth)
      (entries.map fun entry => entryChars (text entry.1).toList (text entry.2).toList)
      (entries.map id) := by
    refine forall₂_map fun entry hentry => ?_
    -- The key is short enough to stand without a question mark, as all keys of data are.
    have hkey := hkeys entry hentry
    exact .implicit (.word hkey.1.isWord (Nat.le_trans hkey.length_le (by decide)) hkey.1.resolve)
      (h entry hentry)
  rw [List.map_id] at hentries
  -- Different keys are told apart, since none of them is a collection or a number with a point.
  have hsame : (entries.map Prod.fst).Pairwise fun key later => later.same key = false := by
    refine hdiffer.imp_of_mem fun hkey hlater hne => ?_
    obtain ⟨entry, hentry, rfl⟩ := List.mem_map.mp hkey
    obtain ⟨next, hnext, rfl⟩ := List.mem_map.mp hlater
    exact (hkeys next hnext).1.same_eq_false (hkeys entry hentry).1 hne.symm
  rw [toList_text_mapping]
  exact (Fills.mapping hentries hsame).spells

/-- A value is spelt by its text, in front of a comma or a bracket. -/
theorem IsData.item (h : IsData depth v) : SpellsItem v.text.toList v depth := by
  -- By induction on the value: what its parts are spelt by makes up what it is spelt by.
  induction h with
  | atom h => exact (SpellsItem.word h.isWord h.resolve).mono (Nat.zero_le _)
  | sequence _ ih => exact (spells_sequence_text ih).item
  | mapping hkeys hdiffer _ ih => exact (spells_mapping_text hkeys hdiffer ih).item

/-- **A value is spelt by its text** at every column. -/
theorem IsData.block (h : IsData depth v) (column : Nat) :
    Block.Spells column v.text.toList v depth := by
  -- Only a scalar is spelt in its own way here, for a collection is in brackets at any column.
  cases h with
  | atom h => exact (Block.Spells.word h.isWord h.resolve).mono (Nat.zero_le _)
  | sequence h => exact .of_flow (spells_sequence_text fun item hitem => (h item hitem).item) column
  | mapping hkeys hdiffer h =>
    exact .of_flow (spells_mapping_text hkeys hdiffer fun entry hentry => (h entry hentry).item)
      column

/-- There is nothing to look through in a value without tags. -/
theorem IsData.bears_iff (h : IsData depth v) {w : Value} : v.Bears w ↔ v = w := by
  -- No constructor of data is a tag, so the value itself is under its tags.
  have hbare : v.bare = v := by
    cases h with
    | atom h => cases h <;> rfl
    | sequence _ => rfl
    | mapping _ _ _ => rfl
  rw [Value.bears_iff, hbare]

/-- A sequence of sequences of two items. -/
def pairs (items : List (Value × Value)) : Value :=
  .sequence (items.map fun item => .sequence [item.1, item.2])

end Value
end Yaml

open Yaml (Value lineTo)
open Yaml.Block (Spells SpellsPair)

/-! ### Parameters -/

namespace Param

/-- A parameter, from the texts of a name and a type. -/
def ofPair (pair : Value × Value) : Param := ⟨pair.1.text, pair.2.text⟩

variable {depth : Nat} {v : Value}

/-- What lists parameters are the sequences of pairs. -/
theorem listWritten_iff (h : v.IsData depth) {params : List Param} :
    ListWritten v params ↔ ∃ items, v = .pairs items ∧ params = items.map ofPair := by
  constructor
  · rintro ⟨items, hitems, hwritten⟩
    rw [h.bears_iff] at hitems
    subst hitems
    -- A scalar is no sequence, so the items are data.
    have hdata : ∃ depth, ∀ item ∈ items, Value.IsData depth item := by
      cases h with
      | atom h => cases h
      | sequence h => exact ⟨_, h⟩
    obtain ⟨depth, hdata⟩ := hdata
    clear h
    -- By induction on the items: none of them has a tag, so each is the pair that it bears.
    induction hwritten with
    | nil => exact ⟨[], rfl, rfl⟩
    | cons hitem _ ih =>
      rw [List.forall_mem_cons] at hdata
      obtain ⟨name, type, hbears, rfl⟩ := hitem
      obtain rfl := hdata.1.bears_iff.mp hbears
      obtain ⟨others, hothers, rfl⟩ := ih hdata.2
      refine ⟨(name, type) :: others, ?_, rfl⟩
      rw [Value.pairs, List.map_cons, ← Value.sequence.inj hothers]
  · -- Each pair bears itself.
    rintro ⟨items, rfl, rfl⟩
    refine ⟨_, h.bears_iff.mpr rfl, ?_⟩
    rw [List.forall₂_map_left_iff, List.forall₂_map_right_iff, List.forall₂_same]
    exact fun item _ => ⟨item.1, item.2, .bare (by simp), rfl⟩

end Param

/-! ### Entries -/

namespace Writing

/-- The lines of an entry with the text of a value below its key. -/
def valueLines (v : Value) : List String :=
  ["Object:", "  functions:", "    - ? [n, r, c, l]", "      : " ++ v.text]

/-- The signature of this entry. -/
def valueSignature : Signature := ⟨"n", "r", "c", "l"⟩

/-- The characters of the entry behind its dash. -/
def valueChars (v : Value) : List Char :=
  '?' :: ' ' :: ("[n, r, c, l]".toList ++ lineTo 6 ++ ':' :: ' ' :: v.text.toList)

theorem toList_valueLines (v : Value) :
    (ofLines (valueLines v)).toList = itemHead ++ (valueChars v ++ ['\n']) := by
  have hlines : valueLines v =
      "Object:" :: "  functions:" :: ("    - " ++ "? [n, r, c, l]") :: ["      : " ++ v.text] := rfl
  have hkey : "? [n, r, c, l]".toList = '?' :: ' ' :: "[n, r, c, l]".toList := rfl
  have hcolon : "      : ".toList = List.replicate 6 ' ' ++ [':', ' '] := rfl
  rw [toList_ofLines, hlines, lineChars_item, lineChars_cons, String.toList_append, hkey, hcolon]
  simp only [valueChars, lineChars, lineTo, List.flatMap_nil, List.append_assoc, List.cons_append,
    List.nil_append]

/-- **The entry is spelt** by its characters. -/
theorem spells_valueChars {depth : Nat} {v : Value} (h : v.IsData (depth + 1)) :
    Spells 6 (valueChars v) (.mapping [(valueSignature.value, v)]) (depth + 2) := by
  -- The signature is data like any other: a sequence of four names.
  have hkey : Yaml.Flow.Spells "[n, r, c, l]".toList valueSignature.value 1 := by
    have hfields : ∀ field ∈ [Value.string "n", .string "r", .string "c", .string "l"],
        Value.IsData 0 field := by
      simp only [List.forall_mem_cons]
      exact ⟨.atom (.name (by decide)), .atom (.name (by decide)), .atom (.name (by decide)),
        .atom (.name (by decide)), List.forall_mem_nil _⟩
    have hspells := Value.spells_sequence_text fun field hfield => (hfields field hfield).item
    rwa [Value.toList_text_sequence] at hspells
  have hpair : SpellsPair 6 (depth + 1) (valueChars v) (valueSignature.value, v) :=
    .explicit (.of_flow (hkey.mono (Nat.le_add_left 1 depth)) 8) (h.block 8)
  exact hpair.mapping

end Writing

namespace Reading

open Writing (ofLines valueLines valueSignature)

/-- **The text of a value can be read as its parameters.** They are as good as the value: each pair
is a parameter with the texts of its parts, and all that is no list of pairs is kept as it was. -/
theorem ofString_valueText {v : Value} (h : v.IsData 100) :
    (∀ items, v = .pairs items →
      ofString "Object" (ofLines (valueLines v)) =
        .ok ⟨[("Object", [.full valueSignature (items.map Param.ofPair)])]⟩) ∧
    ((∀ items, v ≠ .pairs items) →
      ofString "Object" (ofLines (valueLines v)) =
        .ok ⟨[("Object", [.degraded valueSignature v.text])]⟩) := by
  -- The entry has been read whatever the value is; what is left is what its parameters are.
  have hread : ofString "Object" (ofLines (valueLines v)) =
      .ok ⟨[("Object", [Entry.ofSignature valueSignature v])]⟩ := by
    refine ofString_item (Writing.spells_valueChars h) (by decide) ?_ (Writing.toList_valueLines v)
    simp [Entry.ofValue, Value.bare, Signature.ofValue?_value]
  constructor
  -- A list of pairs is one of parameters, so the entry is full.
  · intro items hitems
    have hparams : Param.ListWritten v (items.map Param.ofPair) :=
      (Param.listWritten_iff h).mpr ⟨items, hitems, rfl⟩
    rw [hread, Entry.ofSignature_of_some (Param.listOfValue?_eq_some_iff.mpr hparams)]
  -- A list of parameters would be one of pairs, so the entry is degraded.
  · intro hother
    have hparams : ∀ params, ¬ Param.ListWritten v params := by
      intro params hwritten
      obtain ⟨items, hitems, -⟩ := (Param.listWritten_iff h).mp hwritten
      exact hother items hitems
    rw [hread, Entry.ofSignature_of_none (Param.listOfValue?_eq_none_iff.mpr hparams)]

/-- A list of pairs is read as parameters, whatever the parts of the pairs are, and a list with
another item is kept as it is. Empty collections and keys that are no strings do not matter. -/
theorem ofString_valueText_mixed :
    Value.IsData 100 (.pairs [(.string "a", .int (-3)), (.bool true, .sequence [])]) ∧
    Value.IsData 100 (.sequence [.sequence [.string "a"], .mapping [(.null, .mapping [])]]) ∧
    (∀ items,
      Value.sequence [.sequence [.string "a"], .mapping [(.null, .mapping [])]] ≠ .pairs items) ∧
    ofString "Object"
        "Object:\n  functions:\n    - ? [n, r, c, l]\n      : [[a, -3], [true, []]]\n" =
      .ok ⟨[("Object", [.full ⟨"n", "r", "c", "l"⟩ [⟨"a", "-3"⟩, ⟨"true", "[]"⟩]])]⟩ ∧
    ofString "Object"
        "Object:\n  functions:\n    - ? [n, r, c, l]\n      : [[a], \x7bnull: \x7b\x7d\x7d]\n" =
      .ok ⟨[("Object", [.degraded ⟨"n", "r", "c", "l"⟩ "[[a], \x7bnull: \x7b\x7d\x7d]"])]⟩ := by
  have hname : ∀ depth, Value.IsData depth (.string "a") := fun _ => .atom (.name (by decide))
  have hpairs :
      Value.IsData 100 (.pairs [(.string "a", .int (-3)), (.bool true, .sequence [])]) := by
    refine .sequence (List.forall_mem_cons.mpr ⟨.sequence ?_, List.forall_mem_singleton.mpr
      (.sequence ?_)⟩)
    · exact List.forall_mem_cons.mpr ⟨hname _,
        List.forall_mem_singleton.mpr (.atom (.int (by decide) (by decide)))⟩
    · exact List.forall_mem_cons.mpr ⟨.atom (.bool true),
        List.forall_mem_singleton.mpr (.sequence (List.forall_mem_nil _))⟩
  have hmixed : Value.IsData 100
      (.sequence [.sequence [.string "a"], .mapping [(.null, .mapping [])]]) := by
    refine .sequence (List.forall_mem_cons.mpr ⟨.sequence (List.forall_mem_singleton.mpr (hname _)),
      List.forall_mem_singleton.mpr (.mapping ?_ (List.pairwise_singleton _ _) ?_)⟩)
    · exact List.forall_mem_singleton.mpr ⟨.null, fun _ h => nomatch h⟩
    · exact List.forall_mem_singleton.mpr (.mapping (List.forall_mem_nil _) .nil
        (List.forall_mem_nil _))
  have hother : ∀ items,
      Value.sequence [.sequence [.string "a"], .mapping [(.null, .mapping [])]] ≠ .pairs items := by
    intro items heq
    have hmem : Value.mapping [(.null, .mapping [])] ∈
        items.map fun item => Value.sequence [item.1, item.2] := by
      rw [← Value.sequence.inj heq]
      simp
    -- The mapping among the items is no pair.
    obtain ⟨item, -, hitem⟩ := List.mem_map.mp hmem
    cases hitem
  exact ⟨hpairs, hmixed, hother, (ofString_valueText hpairs).1 _ rfl,
    (ofString_valueText hmixed).2 hother⟩

end Reading
end ApiStubs
