import ApiStubs.Proofs.Reading
import ApiStubs.Proofs.Yaml.BlockDocument

/-!
# Descriptions on one line

`Writing.flow` writes a description in brackets, with every text in quotes. The text has the
value of the description (`Writing.ofString_flow_eq_value`), so it is read back as it was
written:

* `Reading.ofString_flow` — each category with its entries, and no other category.

The texts of the description are arbitrary. Only the names of the categories have to differ,
as the keys of a mapping must.
-/

namespace ApiStubs

open Yaml (Value)
open Yaml.Flow (Brackets Fills Spells SpellsPair forall₂_map pairChars separator)

namespace Writing

/-! ### Collections -/

theorem sequence_toList (items : List String) :
    (sequence items).toList =
      Brackets.square.opening :: separator.intercalate (items.map String.toList) ++
        [Brackets.square.closing] := by
  simp [sequence, separator, Brackets.opening, Brackets.closing]

theorem pair_toList (key value : String) :
    (pair key value).toList = pairChars key.toList value.toList := by
  simp [pair, pairChars]

theorem mapping_toList (pairs : List String) :
    (mapping pairs).toList =
      Brackets.curly.opening :: separator.intercalate (pairs.map String.toList) ++
        [Brackets.curly.closing] := by
  simp [mapping, separator, Brackets.opening, Brackets.closing]

variable {depth : Nat}

theorem spells_sequence {items : List String} {values : List Value}
    (h : List.Forall₂ (fun item v => Spells item.toList v depth) items values) :
    Spells (sequence items).toList (.sequence values) (depth + 1) := by
  rw [sequence_toList]
  -- Items in brackets are read one depth below the brackets.
  exact (Fills.sequence (List.forall₂_map_left_iff.mpr (h.imp fun _ _ hitem => hitem.item))).spells

/-- With one key, there is nothing from which it has to differ. -/
theorem spells_mapping {key item : String} {k v : Value} (hkey : Spells key.toList k depth)
    (hitem : Spells item.toList v depth) :
    -- Both the key and its value may be collections, so the pair is written with a question mark.
    Spells (mapping [pair key item]).toList (.mapping [(k, v)]) (depth + 1) := by
  have hpairs : List.Forall₂ (SpellsPair depth) [pairChars key.toList item.toList] [(k, v)] :=
    .cons (.explicit hkey hitem.item) .nil
  have hfills := Fills.mapping hpairs (List.pairwise_singleton _ _)
  rw [mapping_toList, List.map_singleton, pair_toList]
  exact hfills.spells

/-! ### Entries -/

theorem spells_texts (texts : List String) :
    Spells (sequence (texts.map quoted)).toList (.sequence (texts.map .string)) 1 :=
  spells_sequence (forall₂_map fun text _ => .quoted text)

theorem spells_signature (s : Signature) : Spells (signature s).toList s.value 1 :=
  spells_texts [s.name, s.returnType, s.comment, s.link]

theorem spells_params (ps : List Param) : Spells (params ps).toList (Param.listValue ps) 2 :=
  spells_sequence (forall₂_map fun p _ => spells_texts [p.name, p.type])

/-- **An entry spells its value**, whatever its texts are. -/
theorem spells_flowEntry (entry : Entry) : Spells (flowEntry entry).toList entry.value 3 := by
  -- By the forms of an entry, whose parts are all texts in quotes, so that any text will do.
  cases entry with
  | shorthand name returnType comment =>
    exact (spells_texts [name, returnType, comment]).mono (by decide)
  | full s ps => exact spells_mapping ((spells_signature s).mono (by decide)) (spells_params ps)
  | degraded s raw =>
    exact spells_mapping ((spells_signature s).mono (by decide))
      ((Spells.quoted raw).mono (by decide))

/-! ### Descriptions -/

/-- The functions of a category. -/
def flowSpec (entries : List Entry) : String :=
  mapping [pair (quoted "functions") (sequence (entries.map flowEntry))]

theorem spells_flowSpec (entries : List Entry) :
    Spells (flowSpec entries).toList (Description.specValue entries) 5 :=
  spells_mapping ((Spells.quoted "functions").mono (by decide))
    (spells_sequence (forall₂_map fun entry _ => spells_flowEntry entry))

theorem spells_category (category : String × List Entry) :
    SpellsPair 5 (flowCategory category).toList
      -- A category has its name as the key, in quotes, and is otherwise one more mapping.
      (.string category.1, Description.specValue category.2) := by
  have hcategory : flowCategory category = pair (quoted category.1) (flowSpec category.2) := rfl
  rw [hcategory, pair_toList]
  exact .explicit ((Spells.quoted category.1).mono (by decide)) (spells_flowSpec category.2).item

/-- **The value of a description on one line**, if the names of its categories differ. -/
theorem ofString_flow_eq_value (d : Description) (h : (d.categories.map Prod.fst).Nodup) :
    Value.ofString (flow d) = .ok d.value := by
  have hpairs : List.Forall₂ (SpellsPair 5) ((d.categories.map flowCategory).map String.toList)
      (d.categories.map fun category =>
        (.string category.1, Description.specValue category.2)) := by
    -- Every category is a pair, and no two keys are the same as the names differ.
    rw [List.map_map]
    exact forall₂_map fun category _ => spells_category category
  have hspells := (Fills.mapping hpairs (d.pairwise_keys h)).spells
  exact Yaml.Block.ofString_eq_of_flow hspells (by decide) (mapping_toList _)

end Writing

namespace Reading

/-- **What is written on one line is read back.** Each category is read with exactly its
entries, and nothing else is there to be read. -/
theorem ofString_flow (d : Description) (h : (d.categories.map Prod.fst).Nodup) :
    (∀ category ∈ d.categories,
      ofString category.1 (Writing.flow d) = .ok ⟨[category]⟩) ∧
    (∀ name ∉ d.categories.map Prod.fst,
      ofString name (Writing.flow d) = .error (.missingCategory name)) := by
  -- From here on, only the value counts, so no more is needed of the text.
  have hread : ∀ name, ofString name (Writing.flow d) = ofValue name d.value :=
    fun name => ofString_eq_ofValue name (Writing.ofString_flow_eq_value d h)
  refine ⟨fun category hcategory => ?_, fun name hname => ?_⟩
  · rw [hread, ofValue_value, d.category?_eq_of_mem h hcategory]
  · rw [hread, ofValue_value, d.category?_eq_none hname]

/-- Words, numbers, brackets, comments and line feeds in texts do not matter. -/
theorem ofString_flow_lookalikes :
    (["null", "1.5"] : List String).Nodup ∧
    ofString "1.5" (Writing.flow ⟨[("null", [.shorthand "" "~" "0x1F"]),
      ("1.5", [.full ⟨"f]", "true", "- a: b\n\n# c", "\"é\\"⟩ [⟨"", "? x"⟩],
        .degraded ⟨"g", "", "\x01", ","⟩ "[[x, y]]"])]⟩) =
      .ok ⟨[("1.5", [.full ⟨"f]", "true", "- a: b\n\n# c", "\"é\\"⟩ [⟨"", "? x"⟩],
        .degraded ⟨"g", "", "\x01", ","⟩ "[[x, y]]"])]⟩ := by
  have hnames : (["null", "1.5"] : List String).Nodup := by decide
  refine ⟨hnames, ?_⟩
  refine (ofString_flow _ ?_).1 ("1.5", _) ?_
  · exact hnames
  · exact List.mem_cons_of_mem _ List.mem_cons_self

end Reading
end ApiStubs
