import ApiStubs.Proofs.BlockLayout
import ApiStubs.Proofs.Reading.Shapes
import ApiStubs.Proofs.Yaml.BlockFault
import ApiStubs.Proofs.Yaml.ScalarText

/-!
# Items among others

A description has more in it than one item. `Writing.Surroundings` holds all the rest: other items
before and behind it, other keys beside the functions, and other categories, each with its
characters and with what they spell. One place is left for an item behind a dash.

* `Surroundings.spells` — with an item in this place, the text has the value that the item spells,
  among all others;
* `Surroundings.misspells` — if the item spells none, the text has no value, and the error names the
  place of the item.

So an item is read the same way wherever it stands (`Reading.ofString_surrounded`), and a fault in
it is found for every category (`Reading.ofString_misspelt`).
-/

namespace ApiStubs

open Yaml (Path SpellsKey Value ValueFault lineTo)
open Yaml.Block (Misspells Spells SpellsPair)
open Yaml.Flow (forall₂_map separator)

namespace Writing

/-! ### Around a member of a list -/

/-- A list without one of its members. -/
structure Around (α : Type) where
  before : List α
  behind : List α

namespace Around

variable {α β γ : Type}

/-- The whole list, with this member. -/
def fill (around : Around α) (member : α) : List α := around.before ++ member :: around.behind

/-- What the members are mapped to. -/
def map (around : Around α) (f : α → β) : Around β := ⟨around.before.map f, around.behind.map f⟩

theorem fill_ne_nil (around : Around α) (member : α) : around.fill member ≠ [] := by simp [fill]

theorem fill_inj {around : Around α} {member other : α} :
    around.fill member = around.fill other ↔ member = other := by
  constructor
  · intro h
    exact (List.cons.inj (List.append_cancel_left h)).1
  · rintro rfl
    rfl

theorem map_fill (around : Around α) (f : α → β) (member : α) :
    (around.fill member).map f = (around.map f).fill (f member) := by simp [fill, map]

theorem map_map (around : Around α) (f : α → β) (g : β → γ) :
    (around.map f).map g = around.map (g ∘ f) := by simp [map]

/-- What relates the images of all members but one, and two more things, relates the lists with
these two. -/
theorem forall₂_fill {R : β → γ → Prop} {f : α → β} {g : α → γ} (around : Around α)
    (h : ∀ member, R (f member) (g member)) {b : β} {c : γ} (hfill : R b c) :
    List.Forall₂ R ((around.map f).fill b) ((around.map g).fill c) :=
  List.rel_append (forall₂_map fun member _ => h member)
    (.cons hfill (forall₂_map fun member _ => h member))

end Around

/-! ### Keys -/

/-- No two keys of a mapping are the same. -/
def Differ (keys : List Value) : Prop :=
  keys.Pairwise fun key later => later.same key = false

/-- The keys in front of one of them differ from it, as from each other. -/
theorem Differ.before {around : Around Value} {key : Value} (h : Differ (around.fill key)) :
    Differ around.before ∧ ∀ other ∈ around.before, key.same other = false := by
  -- What differs is in front, behind, or one of each, and the key is the first of those behind.
  obtain ⟨hbefore, -, hcross⟩ := List.pairwise_append.mp h
  exact ⟨hbefore, fun other hother => hcross other hother key List.mem_cons_self⟩

theorem isKey_object : Value.IsKey (.string "Object") :=
  Value.IsName.isKey (by decide) (by decide)

theorem isKey_functions : Value.IsKey (.string "functions") :=
  Value.IsName.isKey (by decide) (by decide)

/-- A key and its value, as they are spelt in a mapping at a column. -/
structure SpeltPair (column depth : Nat) where
  chars : List Char
  key : Value
  value : Value
  /-- The characters are the key with the value. -/
  spells : SpellsPair column depth chars (key, value)

/-- A category on lines of its own, if its name is short enough. -/
def SpeltPair.ofCategory (category : String × List Entry)
    (hshort : (quoted category.1).length ≤ 1000) : SpeltPair 0 127 where
  chars := categoryChars category
  key := .string category.1
  value := Description.specValue category.2
  spells := (spells_categoryChars hshort).mono (by decide)

/-- A text under a short key, in quotes. -/
def SpeltPair.ofText (key text : String) (hshort : (quoted key).length ≤ 1000) :
    SpeltPair 2 126 where
  chars := (quoted key).toList ++ ':' :: ' ' :: (quoted text).toList
  key := .string key
  value := .string text
  spells := .inline (.quoted key (Nat.le_trans hshort (by decide)))
    ((Yaml.Flow.Spells.quoted text).mono (Nat.zero_le _))

namespace SpeltPair

variable {column inner depth : Nat} {pairs : Around (SpeltPair column depth)} {name : String}
  {chars : List Char}

/-- All pairs spell a mapping together, with one more that has its value below its key. -/
theorem spells_fill (hdiffer : Differ ((pairs.map (·.key)).fill (.string name)))
    (hname : Value.IsKey (.string name)) {v : Value} (h : Spells inner chars v depth)
    (hinner : column < inner) :
    Spells column
      ((lineTo column).intercalate
        ((pairs.map (·.chars)).fill (namedChars name (lineTo inner ++ chars))))
      (.mapping ((pairs.map fun pair => (pair.key, pair.value)).fill (.string name, v)))
      (depth + 1) := by
  -- The name is a word that is resolved as a string and short enough for a key.
  have hkey : SpellsKey name.toList (.string name) :=
    .word hname.1.isWord (Nat.le_trans hname.length_le (by decide)) hname.1.resolve
  have hpair :
      SpellsPair column depth (namedChars name (lineTo inner ++ chars)) (.string name, v) :=
    .below hkey h hinner
  -- The pairs are spelt one by one, and their keys differ by assumption.
  refine .mapping ?_ (Around.fill_ne_nil _ _) ?_
  · exact pairs.forall₂_fill (fun other => other.spells) hpair
  · rw [Around.map_fill, Around.map_map]
    exact hdiffer

/-- All pairs are misspelt together, if the value of one more is. -/
theorem misspells_fill (hdiffer : Differ ((pairs.map (·.key)).fill (.string name)))
    (hname : Value.IsKey (.string name)) {fault : ValueFault} {way : Path → Path}
    (h : Misspells inner chars fault way depth) (hinner : column < inner) :
    Misspells column
      ((lineTo column).intercalate
        ((pairs.map (·.chars)).fill (namedChars name (lineTo inner ++ chars)))) fault
      (fun path => way (.entry path name)) (depth + 1) := by
  have hspells : ∀ others : List (SpeltPair column depth),
      List.Forall₂ (SpellsPair column depth) (others.map (·.chars))
        (others.map fun pair => (pair.key, pair.value)) :=
    fun others => forall₂_map fun other _ => other.spells
  -- What comes before the value has to be right; what comes after it is not looked at.
  obtain ⟨hbefore, hnew⟩ := hdiffer.before
  have hmisspells := Misspells.mapping (hspells pairs.before) (by rwa [List.map_map])
    hname.1.isWord (Nat.le_trans hname.length_le (by decide)) hname.1.resolve
    (List.forall_mem_map.mpr fun pair hpair => hnew _ (List.mem_map_of_mem hpair)) h hinner
    (hspells pairs.behind)
  -- The way goes through the text of the key, which is the name.
  rwa [String.ofList_toList] at hmisspells

/-- Their mapping has the value of the additional one under its key. -/
theorem maps_fill (hdiffer : Differ ((pairs.map (·.key)).fill (.string name))) (v : Value) :
    Value.Maps name ((pairs.map fun pair => (pair.key, pair.value)).fill (.string name, v)) v := by
  -- If a key in front were the name, it would be the same as it.
  refine ⟨_, _, rfl, List.forall_mem_map.mpr fun pair hpair heq => ?_⟩
  have hother : (Value.string name).same pair.key = false :=
    hdiffer.before.2 _ (List.mem_map_of_mem hpair)
  rw [show pair.key = .string name from heq] at hother
  simp [Value.same] at hother

end SpeltPair

/-! ### Surroundings -/

/-- An item of the functions of a category, as it is spelt, and the entry that it is. Three
collections lie around it, which leaves 125 for the item itself before the limit is reached. -/
structure SpeltItem where
  chars : List Char
  value : Value
  entry : Entry
  /-- The characters are the value. -/
  spells : Spells 6 chars value 125
  /-- The value is the entry. -/
  written : Entry.Written value entry

/-- Fields in brackets that are an entry. -/
def SpeltItem.ofFields {charss : List (List Char)} {values : List Value} {entry : Entry}
    (h : List.Forall₂ (Yaml.Flow.SpellsItem · · 124) charss values)
    (hentry : Entry.Written (.sequence values) entry) : SpeltItem where
  chars := '[' :: separator.intercalate charss ++ [']']
  value := .sequence values
  entry := entry
  spells := .of_flow (Yaml.Flow.Fills.sequence h).spells 6
  written := hentry

/-- An entry on lines of its own. -/
def SpeltItem.ofEntry (entry : Entry) : SpeltItem where
  chars := entryChars entry
  value := entry.value
  entry := entry
  spells := (spells_entryChars entry).mono (by decide)
  written := entry.written_value

/-- **All that stands around an item** of the category `Object`, if it is valid: the other
categories, the other keys of this one, and the other items. -/
structure Surroundings where
  categories : Around (SpeltPair 0 127)
  keys : Around (SpeltPair 2 126)
  items : Around SpeltItem
  /-- There is no other category of this name, and no two others have the same name. -/
  categories_differ : Differ ((categories.map (·.key)).fill (.string "Object"))
  /-- There are no other functions, and no two other keys are the same. -/
  keys_differ : Differ ((keys.map (·.key)).fill (.string "functions"))

namespace Surroundings

/-- Nothing but the item. -/
def none : Surroundings where
  categories := ⟨[], []⟩
  keys := ⟨[], []⟩
  items := ⟨[], []⟩
  categories_differ := List.pairwise_singleton _ _
  keys_differ := List.pairwise_singleton _ _

/-! The characters around the item, from the inside out. -/

variable (s : Surroundings)

/-- The characters of all items. -/
def itemsChars (item : List Char) : List Char :=
  (lineTo 4).intercalate (((s.items.map (·.chars)).fill item).map ('-' :: ' ' :: ·))

/-- The characters of all keys of the category `Object`. -/
def keysChars (item : List Char) : List Char :=
  (lineTo 2).intercalate
    ((s.keys.map (·.chars)).fill (namedChars "functions" (lineTo 4 ++ s.itemsChars item)))

/-- The characters of all categories. -/
def chars (item : List Char) : List Char :=
  (lineTo 0).intercalate
    ((s.categories.map (·.chars)).fill (namedChars "Object" (lineTo 2 ++ s.keysChars item)))

/-- **The text** with an item among all others. -/
def text (item : List Char) : String := String.ofList (s.chars item ++ ['\n'])

/-- The values of all items. -/
def itemsValue (v : Value) : Value := .sequence ((s.items.map (·.value)).fill v)

/-- The value of the category `Object`. -/
def keysValue (v : Value) : Value :=
  .mapping ((s.keys.map fun pair => (pair.key, pair.value)).fill
    (.string "functions", s.itemsValue v))

/-- The value of the whole text. -/
def value (v : Value) : Value :=
  .mapping ((s.categories.map fun pair => (pair.key, pair.value)).fill
    (.string "Object", s.keysValue v))

/-- All entries of the category `Object`. -/
def entries (entry : Entry) : List Entry := (s.items.map (·.entry)).fill entry

variable {s} {item : List Char} {v : Value}

theorem toList_text : (s.text item).toList = s.chars item ++ ['\n'] := String.toList_ofList

theorem forall₂_items (items : List SpeltItem) :
    List.Forall₂ (Spells 6 · · 125) (items.map (·.chars)) (items.map (·.value)) :=
  forall₂_map fun item _ => item.spells

/-- **The text spells** what the item spells, among all others. -/
theorem spells (s : Surroundings) (h : Spells 6 item v 125) :
    Spells 0 (s.chars item) (s.value v) 128 := by
  -- From the inside out: all items, all keys of their category, and all categories.
  have hitems : Spells 4 (s.itemsChars item) (s.itemsValue v) 126 := by
    refine .sequence ?_ (Around.fill_ne_nil _ _)
    exact s.items.forall₂_fill (fun other => other.spells) h
  have hkeys : Spells 2 (s.keysChars item) (s.keysValue v) 127 :=
    SpeltPair.spells_fill s.keys_differ isKey_functions hitems (by decide)
  exact SpeltPair.spells_fill s.categories_differ isKey_object hkeys (by decide)

/-- **The text is misspelt** where the item is, whatever the others are. -/
theorem misspells (s : Surroundings) {fault : ValueFault} {way : Path → Path}
    (h : Misspells 6 item fault way 125) :
    Misspells 0 (s.chars item) fault (fun path =>
      way (.item (.entry (.entry path "Object") "functions") s.items.before.length)) 128 := by
  have hitems : Misspells 4 (s.itemsChars item) fault
      (fun path => way (.item path s.items.before.length)) 126 := by
    have hlist := Misspells.sequence (forall₂_items s.items.before) h
      (forall₂_items s.items.behind)
    rwa [List.length_map] at hlist
  -- Each mapping around them adds its key to the way.
  have hkeys : Misspells 2 (s.keysChars item) fault
      (fun path => way (.item (.entry path "functions") s.items.before.length)) 127 :=
    SpeltPair.misspells_fill s.keys_differ isKey_functions hitems (by decide)
  exact SpeltPair.misspells_fill s.categories_differ isKey_object hkeys (by decide)

end Surroundings
end Writing

namespace Reading

open Writing (SpeltPair Surroundings)

variable {s : Surroundings} {item : List Char} {v : Value}

/-- **An item is read where it stands**, as one of all entries of the category. -/
theorem ofString_surrounded (s : Surroundings) {entry : Entry} (h : Spells 6 item v 125)
    (hentry : Entry.Written v entry) :
    ofString "Object" (s.text item) = .ok ⟨[("Object", s.entries entry)]⟩ := by
  -- The two names are found whatever stands beside them, as all the keys differ.
  have hfinds : Finds "Object" (s.value v) (s.itemsValue v) :=
    ⟨_, _, _, .bare nofun, SpeltPair.maps_fill s.categories_differ _, .bare nofun,
      SpeltPair.maps_fill s.keys_differ _⟩
  -- One entry for each item, also for the one that the others stand around.
  have hwritten : List.Forall₂ Entry.Written ((s.items.map (·.value)).fill v) (s.entries entry) :=
    s.items.forall₂_fill (fun other => other.written) hentry
  calc ofString "Object" (s.text item)
      = ofValue "Object" (s.value v) :=
        ofString_eq_ofValue _ ((s.spells h).ofString_eq (by decide) Surroundings.toList_text)
    _ = describe "Object" (EntryList.ofItems 0 ((s.items.map (·.value)).fill v)) :=
        ofValue_of_finds hfinds (.bare nofun)
    _ = .ok ⟨[("Object", s.entries entry)]⟩ := by
        rw [EntryList.ofItems_of_written hwritten]
        rfl

/-- **A fault in an item is found for every category**, and told with the place of it. -/
theorem ofString_misspelt (s : Surroundings) {fault : ValueFault} {way : Path → Path}
    (h : Misspells 6 item fault way 125) (category : String) :
    ∃ mark, ofString category (s.text item) = .error (.syntactic (.value fault
      (way (.item (.entry (.entry .root "Object") "functions") s.items.before.length)) mark)) := by
  -- Without a value there is nothing to look for, so it does not matter which category was asked
  -- for.
  obtain ⟨mark, hvalue⟩ := (s.misspells h).ofString_eq (by decide) Surroundings.toList_text
  exact ⟨mark, ofString_of_error category hvalue⟩

end Reading
end ApiStubs
