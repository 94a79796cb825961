import ApiStubs.Proofs.Surroundings

/-!
# Descriptions of one item

A text with the category `Object`, which lists one item behind a dash, is read as the entry that the
item describes, in whatever way the item is spelt (`Reading.ofString_item`). The text is one with
nothing around the item (`Writing.eq_text_none`).
-/

namespace ApiStubs

open Yaml (Value lineTo)
open Yaml.Block (Spells)

namespace Writing

/-- A text of lines, each with a line feed. -/
def ofLines (lines : List String) : String := String.join (lines.map (· ++ "\n"))

theorem toList_ofLines (lines : List String) : (ofLines lines).toList = lineChars lines := by
  simp [ofLines, lineChars, List.flatMap_def, Function.comp_def]

/-- What stands before the item. -/
def itemHead : List Char :=
  namedChars "Object" (lineTo 2 ++ namedChars "functions" (lineTo 4 ++ ['-', ' ']))

theorem lineChars_item (item : String) (others : List String) :
    lineChars ("Object:" :: "  functions:" :: ("    - " ++ item) :: others) =
      itemHead ++ (item.toList ++ '\n' :: lineChars others) := by
  have hobject : "Object:".toList = namedChars "Object" [] := rfl
  have hfunctions : "  functions:".toList = List.replicate 2 ' ' ++ namedChars "functions" [] := rfl
  have hdash : "    - ".toList = List.replicate 4 ' ' ++ ['-', ' '] := rfl
  -- Three lines, of which the third one starts the item and ends in a line feed like the others.
  rw [lineChars_cons, lineChars_cons, lineChars_cons, String.toList_append, hobject, hfunctions,
    hdash]
  simp only [itemHead, namedChars, lineTo, List.append_assoc, List.cons_append, List.nil_append]

/-- There is nothing around the item. -/
theorem eq_text_none {item : List Char} {text : String}
    (htext : text.toList = itemHead ++ (item ++ ['\n'])) : text = Surroundings.none.text item := by
  -- All three lists around the item are empty, so that only the way to it is left.
  rw [← String.toList_inj, htext, Surroundings.toList_text]
  simp only [Surroundings.chars, Surroundings.keysChars, Surroundings.itemsChars, Surroundings.none,
    Around.map, Around.fill, itemHead, namedChars, lineTo, List.intercalate_singleton,
    List.map_cons, List.map_nil, List.append_assoc, List.cons_append, List.nil_append]

end Writing

namespace Reading

/-- **One item is read as the one entry** that it describes. -/
theorem ofString_item {item : List Char} {v : Value} {depth : Nat} {entry : Entry}
    (hitem : Spells 6 item v depth) (hdepth : depth + 3 ≤ Value.depthLimit)
    (hentry : Entry.ofValue v = .ok entry) {text : String}
    (htext : text.toList = Writing.itemHead ++ (item ++ ['\n'])) :
    ofString "Object" text = .ok ⟨[("Object", [entry])]⟩ := by
  -- Three collections lie around the item, which its depth leaves room for.
  have hle : depth ≤ 125 := Nat.le_of_add_le_add_right hdepth
  rw [Writing.eq_text_none htext]
  exact ofString_surrounded .none (hitem.mono hle) (Entry.written_of_ofValue hentry)

end Reading
end ApiStubs
