import ApiStubs.Proofs.ItemLayout
import ApiStubs.Proofs.Yaml.IntegerText

/-!
# Integers as texts

A text of an entry may be an integer. One of 64 bits is read as its decimal numeral, in whatever
base it is spelt, and with whatever zeros, letters and signs. So no two integers give the same text,
and no two spellings of one give different texts. A longer one is refused, up to 128 bits, and then
no category can be read (`Reading.ofString_integer`).

This is said of the last field of an item `[x, int, …]`, in all surroundings.
-/

namespace ApiStubs

open Yaml (Value)
open Yaml.Block (Misspells Spells)
open Yaml.Flow (MisspellsItem SpellsItem separator)
open Yaml.Number (FitsIn SpellsInt SpellsNat)

namespace Writing

/-- The item `[x, int, …]` with these characters at its end. -/
def integerItem (spelling : List Char) : List Char :=
  '[' :: separator.intercalate ["x".toList, "int".toList, spelling] ++ [']']

/-- The fields before the integer. -/
theorem spellsItem_fields : List.Forall₂ (SpellsItem · · 0) ["x".toList, "int".toList]
    [.string "x", .string "int"] :=
  .cons (.word (by decide) (by rfl)) (.cons (.word (by decide) (by rfl)) .nil)

variable {spelling : List Char} {n : Int}

/-- An integer of 64 bits is the third field. -/
theorem spells_integerItem (h : SpellsInt spelling n) (hfits : FitsIn 64 n) :
    Spells 6 (integerItem spelling) (.sequence [.string "x", .string "int", .int n]) 1 := by
  -- The spelling is a word without signs that end it, and means its number if that is short enough.
  have hfield : SpellsItem spelling (.int n) 0 :=
    .word h.isWord (Yaml.Scalar.resolve_of_fits h hfits)
  have hfields := List.rel_append spellsItem_fields (.cons hfield .nil)
  exact .of_flow (Yaml.Flow.Fills.sequence hfields).spells 6

/-- A longer integer is a fault in the third field. -/
theorem misspells_integerItem (h : SpellsInt spelling n) (hfits : FitsIn 128 n)
    (hwide : ¬ FitsIn 64 n) :
    Misspells 6 (integerItem spelling) (.scalar (.wideInteger n)) (fun path => .item path 2) 1 := by
  -- The word is the same, but what it means is a fault.
  have hfield : MisspellsItem spelling (.scalar (.wideInteger n)) id 0 :=
    .word h.isWord (Yaml.Scalar.resolve_of_wide h hfits hwide)
  exact .flow spellsItem_fields hfield .nil 6

end Writing

namespace Reading

open Writing (SpeltItem Surroundings integerItem ofLines)

/-- An integer of 64 bits is read as its decimal numeral. -/
theorem ofString_integerItem (s : Surroundings) {spelling : List Char} {n : Int}
    (h : SpellsInt spelling n) (hfits : FitsIn 64 n) :
    ofString "Object" (s.text (integerItem spelling)) =
      .ok ⟨[("Object", s.entries (.shorthand "x" "int" (toString n)))]⟩ := by
  have hspells := (Writing.spells_integerItem h hfits).mono (by decide : 1 ≤ 125)
  refine ofString_surrounded s hspells ?_
  exact .shorthand (.bare nofun)

/-- **Integers are exact or refused**, never wrapped or rounded. One of 64 bits gives its decimal
numeral, which is that of no other, however both are spelt. A longer one, up to 128 bits, is an
error at its place for every category. -/
theorem ofString_integer (s : Surroundings) {spelling : List Char} {n : Int}
    (h : SpellsInt spelling n) (hfits : FitsIn 128 n) :
    (FitsIn 64 n →
      ofString "Object" (s.text (integerItem spelling)) =
        .ok ⟨[("Object", s.entries (.shorthand "x" "int" (toString n)))]⟩ ∧
      ∀ (other : List Char) (m : Int), SpellsInt other m → FitsIn 64 m →
        (ofString "Object" (s.text (integerItem other)) =
          ofString "Object" (s.text (integerItem spelling)) ↔ m = n)) ∧
    (¬ FitsIn 64 n → ∀ category, ∃ mark,
      ofString category (s.text (integerItem spelling)) =
        .error (.syntactic (.value (.scalar (.wideInteger n))
          (.item (.item (.entry (.entry .root "Object") "functions") s.items.before.length) 2)
          mark))) := by
  constructor
  -- If it fits, the item is read and gives the numeral; another one gives another.
  · intro hshort
    have hread := ofString_integerItem s h hshort
    refine ⟨hread, fun other m hother hshort' => ?_⟩
    rw [hread, ofString_integerItem s hother hshort']
    constructor
    · -- What has been read tells the entry, and the entry tells the integer.
      intro heq
      have hlists := congrArg Description.categories (Except.ok.inj heq)
      simp only [List.cons.injEq, Prod.mk.injEq, and_true, true_and] at hlists
      have hentry := Writing.Around.fill_inj.mp hlists
      exact Yaml.Number.toString_injective (Entry.shorthand.inj hentry).2.2
    · rintro rfl
      rfl
  -- If it does not, the fault in the item is the fault of the text.
  · intro hwide category
    have hmisspells := (Writing.misspells_integerItem h hfits hwide).mono (by decide : 1 ≤ 125)
    exact ofString_misspelt s hmisspells category

/-- The fields of `[foo, bool, does foo]`. -/
theorem spellsItem_phrase : List.Forall₂ (SpellsItem · · 124)
    ["foo".toList, "bool".toList, "does foo".toList]
    [.string "foo", .string "bool", .string "does foo"] := by
  have hphrase : Yaml.Plain.IsPhrase "does foo".toList :=
    .space (.word (by decide : Yaml.Plain.IsWord "does".toList)) 0
      (by decide : Yaml.Plain.IsLaterWord "foo".toList)
  have hname : SpellsItem "foo".toList (.string "foo") 0 := .word (by decide) (by rfl)
  have htype : SpellsItem "bool".toList (.string "bool") 0 := .word (by decide) (by rfl)
  -- Fields behind a space need a phrase, which only the comment is.
  have hcomment : SpellsItem "does foo".toList (.string "does foo") 0 := .phrase hphrase (by rfl)
  exact .cons (hname.mono (by decide)) (.cons (htype.mono (by decide))
    (.cons (hcomment.mono (by decide)) .nil))

/-- Surroundings of several kinds. -/
def mixedSurroundings : Surroundings where
  categories := ⟨[.ofCategory ("- 1", []) (by decide)], [.ofCategory ("~", []) (by decide)]⟩
  keys := ⟨[.ofText "k" "functions: []" (by decide)], []⟩
  items := ⟨[.ofFields spellsItem_phrase (.shorthand (.bare nofun))],
    [.ofEntry (.degraded ⟨"f", "g", "", "# h"⟩ "[[")]⟩
  categories_differ := by
    simp [Writing.Differ, Writing.Around.map, Writing.Around.fill, Writing.SpeltPair.ofCategory,
      Value.same]
  keys_differ := by
    simp [Writing.Differ, Writing.Around.map, Writing.Around.fill, Writing.SpeltPair.ofText,
      Value.same]

/-- The lines of the text with these surroundings. -/
def mixedLines (spelling : String) : List String :=
  ["\"- 1\":", "  functions: []", "Object:", "  \"k\": \"functions: []\"", "  functions:",
    "    - [foo, bool, does foo]", "    - [x, int, " ++ spelling ++ "]",
    "    - ? [\"f\", \"g\", \"\", \"# h\"]", "      : \"[[\"", "\"~\":", "  functions: []"]

/-- Zeros, letters of both cases and a plus sign do not count, and one above the highest integer of
64 bits is refused, even if another category is asked for. -/
theorem ofString_integer_mixed :
    SpellsInt "0x00fF".toList 255 ∧ SpellsInt "+255".toList 255 ∧
    SpellsInt "18446744073709551616".toList 18446744073709551616 ∧
    ofString "Object" (ofLines (mixedLines "0x00fF")) =
      .ok ⟨[("Object", [.shorthand "foo" "bool" "does foo", .shorthand "x" "int" "255",
        .degraded ⟨"f", "g", "", "# h"⟩ "[["])]⟩ ∧
    ofString "Object" (ofLines (mixedLines "+255")) =
      ofString "Object" (ofLines (mixedLines "0x00fF")) ∧
    ∃ mark, ofString "~" (ofLines (mixedLines "18446744073709551616")) =
      .error (.syntactic (.value (.scalar (.wideInteger 18446744073709551616))
        (.item (.item (.entry (.entry .root "Object") "functions") 1) 2) mark)) := by
  -- The text of the surroundings with each spelling in its place, as lines.
  have htext : ∀ spelling ∈ ["0x00fF", "+255", "18446744073709551616"],
      mixedSurroundings.text (integerItem spelling.toList) = ofLines (mixedLines spelling) := by
    decide +kernel
  have hsmall : SpellsInt "0x00fF".toList 255 :=
    .unsigned (@SpellsNat.inBase 'x' 16 (by decide) 2 ['f', 'F'] 255 (by decide))
  have hplus : SpellsInt "+255".toList 255 := .plus (.decimal 255)
  have hwide : SpellsInt "18446744073709551616".toList 18446744073709551616 := by
    -- The number one above the limit is spelt as it is shown.
    have hshow : toString (18446744073709551616 : Int) = "18446744073709551616" := by decide +kernel
    exact hshow ▸ Yaml.Number.spellsInt_toString 18446744073709551616
  rw [← htext _ (by decide), ← htext "+255" (by decide), ← htext "18446744073709551616" (by decide)]
  obtain ⟨hread, hsame⟩ :=
    (ofString_integer mixedSurroundings hsmall (by decide)).1 (by decide)
  refine ⟨hsmall, hplus, hwide, hread, ?_, ?_⟩
  · exact (hsame _ 255 hplus (by decide)).mpr rfl
  · exact (ofString_integer mixedSurroundings hwide (by decide)).2 (by decide) "~"

end Reading
end ApiStubs
