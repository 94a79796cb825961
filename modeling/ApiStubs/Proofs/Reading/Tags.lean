import ApiStubs.Proofs.Reading.Shapes

/-!
# Tags do not matter

Tags are looked through wherever a shape is inspected and left out of every text, so what is
read of a value does not change when tags come or go:

* `Value.Retagged` — two values that are the same but for tags, at any nodes;
* `Value.untagged` — a value without any tags, the one thing that such values have in common
  (`Value.retagged_iff`).

The text of a value is that of the value without tags (`Value.text_untagged`), and so is the
entry that it describes (`Entry.ofValue_untagged`). Hence two values whose lists of functions
are the same but for tags are read alike (`Reading.ofValue_eq_of_retagged`), whatever else they
hold.
-/

namespace ApiStubs

open Yaml (Value)

namespace Yaml.Value

/-! ### Values without tags -/

/-- **The same value but for tags.** At any node, a tag may have been put around it or taken
away, among the items of a sequence and among the keys and values of a mapping alike. -/
inductive Retagged : Value → Value → Prop
  | refl (v : Value) : Retagged v v
  | symm {v w : Value} (h : Retagged v w) : Retagged w v
  | trans {u v w : Value} (huv : Retagged u v) (hvw : Retagged v w) : Retagged u w
  | tag (name : String) (v : Value) : Retagged v (tagged name v)
  | item (before : List Value) {v w : Value} (h : Retagged v w) (after : List Value) :
      Retagged (sequence (before ++ v :: after)) (sequence (before ++ w :: after))
  | key (before : List (Value × Value)) {k l : Value} (h : Retagged k l) (v : Value)
      (after : List (Value × Value)) :
      Retagged (mapping (before ++ (k, v) :: after)) (mapping (before ++ (l, v) :: after))
  | entry (before : List (Value × Value)) (k : Value) {v w : Value} (h : Retagged v w)
      (after : List (Value × Value)) :
      Retagged (mapping (before ++ (k, v) :: after)) (mapping (before ++ (k, w) :: after))

mutual

/-- A value without the tags in it, at whatever depth. -/
def untagged : Value → Value
  | sequence items => sequence (untaggedItems items)
  | mapping entries => mapping (untaggedEntries entries)
  | tagged _ v => untagged v
  | v => v

/-- Items without the tags in them. -/
def untaggedItems : List Value → List Value
  | [] => []
  | item :: rest => untagged item :: untaggedItems rest

/-- Keys and values without the tags in them. -/
def untaggedEntries : List (Value × Value) → List (Value × Value)
  | [] => []
  | (key, value) :: rest => (untagged key, untagged value) :: untaggedEntries rest

end

theorem untaggedItems_append (before after : List Value) :
    untaggedItems (before ++ after) = untaggedItems before ++ untaggedItems after := by
  induction before with
  | nil => rfl
  | cons item before ih => simp only [List.cons_append, untaggedItems, ih]

theorem untaggedEntries_append (before after : List (Value × Value)) :
    untaggedEntries (before ++ after) = untaggedEntries before ++ untaggedEntries after := by
  induction before with
  | nil => rfl
  | cons entry before ih =>
    obtain ⟨key, value⟩ := entry
    simp only [List.cons_append, untaggedEntries, ih]

theorem Retagged.untagged_eq {v w : Value} (h : Retagged v w) : v.untagged = w.untagged := by
  -- By induction on how tags come and go. At a node of its own, a change in a part is a change of
  -- one member.
  induction h with
  | refl v => rfl
  | symm _ ih => exact ih.symm
  | trans _ _ ihuv ihvw => exact ihuv.trans ihvw
  | tag name v => simp only [untagged]
  | item before _ after ih => simp only [untagged, untaggedItems_append, untaggedItems, ih]
  | key before _ v after ih => simp only [untagged, untaggedEntries_append, untaggedEntries, ih]
  | entry before k _ after ih =>
    simp only [untagged, untaggedEntries_append, untaggedEntries, ih]

mutual

/-- All tags can be taken away. -/
theorem retagged_untagged : ∀ v : Value, Retagged v v.untagged
  | null | bool _ | int _ | float _ | string _ => .refl _
  | sequence items => retagged_items [] items
  | mapping entries => retagged_entries [] entries
  | tagged name v => .trans (.symm (.tag name v)) (retagged_untagged v)

/-- One item after another loses its tags. -/
theorem retagged_items (before : List Value) : ∀ items : List Value,
    Retagged (sequence (before ++ items)) (sequence (before ++ untaggedItems items))
  | [] => .refl _
  | item :: items => by
    -- The items in front have lost their tags, and this one does so before the others.
    have hitems := retagged_items (before ++ [item.untagged]) items
    rw [List.append_assoc, List.append_assoc] at hitems
    exact .trans (.item before (retagged_untagged item) items) hitems

/-- One key after another and its value lose their tags. -/
theorem retagged_entries (before : List (Value × Value)) : ∀ entries : List (Value × Value),
    Retagged (mapping (before ++ entries)) (mapping (before ++ untaggedEntries entries))
  | [] => .refl _
  | (key, value) :: entries => by
    -- As for items, but in two steps, first at the key and then at its value.
    have hentries := retagged_entries (before ++ [(key.untagged, value.untagged)]) entries
    rw [List.append_assoc, List.append_assoc] at hentries
    exact .trans (.key before (retagged_untagged key) value entries)
      (.trans (.entry before key.untagged (retagged_untagged value) entries) hentries)

end

/-- **Values are the same but for tags** iff they are equal without any. -/
theorem retagged_iff {v w : Value} : v.Retagged w ↔ v.untagged = w.untagged := by
  -- Without tags, both are one value, to which each is related.
  refine ⟨Retagged.untagged_eq, fun h => ?_⟩
  exact .trans (retagged_untagged v) (h ▸ .symm (retagged_untagged w))

/-! ### Looking through tags -/

mutual

/-- **Tags are no part of a text.** -/
theorem text_untagged : ∀ v : Value, v.untagged.text = v.text
  | null | bool _ | int _ | float _ | string _ => by simp only [untagged]
  | sequence items => by simp only [untagged, text, texts_untagged items]
  | mapping entries => by simp only [untagged, text, entryTexts_untagged entries]
  | tagged _ v => by simp only [untagged, text, text_untagged v]

theorem texts_untagged : ∀ items : List Value, texts (untaggedItems items) = texts items
  | [] => by simp only [untaggedItems]
  | item :: items => by
    simp only [untaggedItems, texts, text_untagged item, texts_untagged items]

theorem entryTexts_untagged : ∀ entries : List (Value × Value),
    entryTexts (untaggedEntries entries) = entryTexts entries
  | [] => by simp only [untaggedEntries]
  | (key, value) :: entries => by
    simp only [untaggedEntries, entryTexts, text_untagged key, text_untagged value,
      entryTexts_untagged entries]

end

theorem bare_untagged (v : Value) : v.untagged.bare = v.bare.untagged := by
  -- Tags on top are gone on both sides; below them, each kind of value keeps its kind.
  induction v using bare.induct with
  | case1 name v ih => simp only [untagged, bare, ih]
  | case2 v h =>
    cases v with
    | tagged name w => exact absurd rfl (h name w)
    | _ => simp only [untagged, bare]

theorem bare_ne_tagged (v : Value) (name : String) (w : Value) : v.bare ≠ tagged name w := by
  induction v using bare.induct with
  | case1 other v ih => exact ih
  | case2 v h =>
    cases v with
    | tagged other u => exact absurd rfl (h other u)
    | _ =>
      intro heq
      cases heq

end Yaml.Value

/-! ### Reading through tags -/

theorem Param.ofValue?_untagged (item : Value) : ofValue? item.untagged = ofValue? item := by
  unfold ofValue?
  rw [Value.bare_untagged]
  -- The kind of the value below the tags decides, and it is the same with and without the others.
  cases hbare : item.bare with
  | sequence fields =>
    match fields with
    | [] | [_] | _ :: _ :: _ :: _ => rfl
    | [name, type] =>
      simp only [Value.untagged, Value.untaggedItems, Value.text_untagged]
  | tagged name v => exact absurd hbare (item.bare_ne_tagged name v)
  | _ => rfl

theorem Param.mapM_untaggedItems (items : List Value) :
    (Value.untaggedItems items).mapM ofValue? = items.mapM ofValue? := by
  -- The number of items is the same, and each is looked at for itself.
  induction items with
  | nil => rfl
  | cons item items ih =>
    rw [Value.untaggedItems, List.mapM_cons, List.mapM_cons, ofValue?_untagged, ih]

theorem Param.listOfValue?_untagged (value : Value) :
    listOfValue? value.untagged = listOfValue? value := by
  unfold listOfValue?
  rw [Value.bare_untagged]
  cases hbare : value.bare with
  | sequence items => exact mapM_untaggedItems items
  | tagged name v => exact absurd hbare (value.bare_ne_tagged name v)
  | _ => rfl

theorem Signature.ofValue?_untagged (key : Value) : ofValue? key.untagged = ofValue? key := by
  unfold ofValue?
  rw [Value.bare_untagged]
  cases hbare : key.bare with
  | sequence fields =>
    match fields with
    | [] | [_] | [_, _] | [_, _, _] | _ :: _ :: _ :: _ :: _ :: _ => rfl
    | [name, returnType, comment, link] =>
      simp only [Value.untagged, Value.untaggedItems, Value.text_untagged]
  | tagged name v => exact absurd hbare (key.bare_ne_tagged name v)
  | _ => rfl

namespace Entry

theorem ofSignature_untagged (s : Signature) (value : Value) :
    ofSignature s value.untagged = ofSignature s value := by
  rw [ofSignature, Param.listOfValue?_untagged, Value.text_untagged, ofSignature]

/-- **Tags do not change an entry**, nor what is wrong with an item. -/
theorem ofValue_untagged (item : Value) : ofValue item.untagged = ofValue item := by
  unfold ofValue
  rw [Value.bare_untagged]
  cases hbare : item.bare with
  | sequence fields =>
    -- Fewer than three fields are refused without a look at them.
    match fields with
    | [] | [_] | [_, _] => rfl
    | name :: returnType :: comment :: others =>
      simp only [Value.untagged, Value.untaggedItems, Value.text_untagged]
  | mapping entries =>
    match entries with
    -- Other than one key is refused, too.
    | [] | _ :: _ :: _ => rfl
    | [(key, value)] =>
      -- The key and the value are looked through in turn.
      simp only [Value.untagged, Value.untaggedEntries, Signature.ofValue?_untagged,
        ofSignature_untagged]
  | tagged name v => exact absurd hbare (item.bare_ne_tagged name v)
  | _ => rfl

end Entry

theorem EntryList.ofItems_untagged (index : Nat) (items : List Value) :
    ofItems index (Value.untaggedItems items) = ofItems index items := by
  induction items generalizing index with
  | nil => rfl
  | cons item items ih => simp only [Value.untaggedItems, ofItems, Entry.ofValue_untagged, ih]

namespace Reading

/-- What is read where functions are listed: entries, if they are listed in a sequence. -/
def ofFunctions (category : String) (functions : Value) : Except LoadError Description :=
  match functions.bare with
  | .sequence items => describe category (EntryList.ofItems 0 items)
  | _ => .error (.functionsNotSequence category)

theorem ofFunctions_untagged (category : String) (functions : Value) :
    ofFunctions category functions.untagged = ofFunctions category functions := by
  unfold ofFunctions
  rw [Value.bare_untagged]
  cases hbare : functions.bare with
  | sequence items => simp only [Value.untagged, EntryList.ofItems_untagged]
  | tagged name v => exact absurd hbare (functions.bare_ne_tagged name v)
  | _ => rfl

theorem ofValue_eq_ofFunctions {category : String} {root functions : Value}
    (h : Finds category root functions) :
    ofValue category root = ofFunctions category functions := by
  rw [ofValue, entriesOfValue, functionsOf_of_finds h, itemsOf, ofFunctions]
  cases functions.bare <;> rfl

/-- **Tags and all that is not selected do not matter.** If two values list functions for a
category that are the same but for tags, the same is read of both: the same entries with the
same texts, or the same error about the same item. -/
theorem ofValue_eq_of_retagged {category : String} {v w functions functions' : Value}
    (hv : Finds category v functions) (hw : Finds category w functions')
    (h : functions.Retagged functions') : ofValue category v = ofValue category w := by
  rw [ofValue_eq_ofFunctions hv, ofValue_eq_ofFunctions hw, ← ofFunctions_untagged,
    h.untagged_eq, ofFunctions_untagged]

/-- A full entry stays one with tags on its key, on a field, on a parameter and on its type, next
to a key that is no category because of its tag. -/
theorem ofValue_tagged_parameter :
    let signature : Value := .sequence [.string "f", .null, .string "", .string "/f"]
    let parameter : Value := .sequence [.string "a", .int 1]
    let tagged : Value := .tagged "p" (.sequence [.string "a", .tagged "t" (.tagged "u" (.int 1))])
    let functions : Value := .sequence [.mapping [(signature, .sequence [parameter])]]
    let functions' : Value :=
      .tagged "l" (.sequence [.mapping [(.tagged "k" signature, .sequence [tagged])]])
    let v : Value := .mapping [(.string "C", .mapping [(.string "functions", functions)])]
    let w : Value := .tagged "d" (.mapping [(.tagged "x" (.string "C"), .null),
      (.string "C", .tagged "s" (.mapping [(.int 0, .null), (.string "functions", functions')]))])
    Finds "C" v functions ∧ Finds "C" w functions' ∧ functions.Retagged functions' ∧
      ofValue "C" v = ofValue "C" w ∧
      ofValue "C" w = .ok ⟨[("C", [.full ⟨"f", "null", "", "/f"⟩ [⟨"a", "1"⟩]])]⟩ := by
  intro signature parameter tagged functions functions' v w
  have hv : Finds "C" v functions :=
    ⟨_, _, _, Value.bears_bare v, ⟨[], [], rfl, nofun⟩, Value.bears_bare _, ⟨[], [], rfl, nofun⟩⟩
  -- Each of the two mappings has one other key in front. A tagged name is not the name.
  have hw : Finds "C" w functions' := by
    refine ⟨_, _, _, Value.bears_bare w, ⟨[_], [], rfl, ?_⟩, Value.bears_bare _, ⟨[_], [], rfl, ?_⟩⟩
    · exact List.forall_mem_singleton.mpr nofun
    · exact List.forall_mem_singleton.mpr nofun
  have hretagged : functions.Retagged functions' := Value.retagged_iff.mpr rfl
  have hread : ofValue "C" v = ofValue "C" w := ofValue_eq_of_retagged hv hw hretagged
  refine ⟨hv, hw, hretagged, hread, ?_⟩
  -- The first of them is short enough to be read by computation.
  rw [← hread, ofValue_eq_ofFunctions hv]
  rfl

end Reading
end ApiStubs
