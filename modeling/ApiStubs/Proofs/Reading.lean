import ApiStubs.Reading

/-!
# Descriptions as values

Every entry, category and description is the meaning of a value that says no more than it:

* `Entry.ofValue_value` — an entry is read from its value;
* `Reading.ofValue_value` — from the value of a description, a category is read if it has it,
  whatever the other categories are.

What is read does not depend on how the value was written, so every layout whose text has this
value is read back as it was written.
-/

namespace ApiStubs

open Yaml (Value)

namespace Param

/-- A parameter as a value. -/
def value (param : Param) : Value := .sequence [.string param.name, .string param.type]

theorem ofValue?_value (param : Param) : ofValue? param.value = some param := by
  simp [ofValue?, value, Value.bare, Value.text]

/-- Parameters as a value. -/
def listValue (params : List Param) : Value := .sequence (params.map value)

theorem listOfValue?_listValue (params : List Param) :
    listOfValue? (listValue params) = some params := by
  have hparams : (params.map value).mapM ofValue? = some params := by
    induction params with
    | nil => rfl
    | cons param params ih =>
      rw [List.map_cons, List.mapM_cons, ofValue?_value, ih]
      rfl
  simp only [listOfValue?, listValue, Value.bare, hparams]

end Param

namespace Signature

/-- A signature as a value. -/
def value (s : Signature) : Value :=
  .sequence [.string s.name, .string s.returnType, .string s.comment, .string s.link]

theorem ofValue?_value (s : Signature) : ofValue? s.value = some s := by
  simp [ofValue?, value, Value.bare, Value.text]

end Signature

namespace Entry

/-- An entry as a value. -/
def value : Entry → Value
  | shorthand name returnType comment =>
    .sequence [.string name, .string returnType, .string comment]
  | full signature params => .mapping [(signature.value, Param.listValue params)]
  | degraded signature raw => .mapping [(signature.value, .string raw)]

/-- **An entry is read from its value.** Parameters are never taken for a text, nor a text for
parameters. -/
theorem ofValue_value (entry : Entry) : ofValue entry.value = .ok entry := by
  -- By form: what a full entry lists is no text, and the text of a degraded one lists nothing.
  cases entry with
  | shorthand name returnType comment => simp [ofValue, value, Value.bare, Value.text]
  | full signature params =>
    simp [ofValue, value, Value.bare, Signature.ofValue?_value, ofSignature,
      Param.listOfValue?_listValue]
  | degraded signature raw =>
    simp [ofValue, value, Value.bare, Signature.ofValue?_value, ofSignature,
      Param.listOfValue?, Value.text]

end Entry

namespace EntryList

/-- Entries are all read from their values. -/
theorem ofItems_values (index : Nat) (entries : List Entry) :
    ofItems index (entries.map Entry.value) = ⟨entries, none⟩ := by
  induction entries generalizing index with
  | nil => rfl
  | cons entry entries ih => simp only [List.map_cons, ofItems, Entry.ofValue_value, ih]

end EntryList

namespace Description

/-- The functions of a category as a value. -/
def specValue (entries : List Entry) : Value :=
  .mapping [(.string "functions", .sequence (entries.map Entry.value))]

/-- A description as a value. -/
def value (d : Description) : Value :=
  .mapping (d.categories.map fun category => (.string category.1, specValue category.2))

/-- Among categories with different names, each is the first one of its name. -/
theorem category?_eq_of_mem (d : Description) (h : (d.categories.map Prod.fst).Nodup)
    {category : String × List Entry} (hcategory : category ∈ d.categories) :
    d.category? category.1 = some category.2 := by
  -- Different names are names that differ pairwise, which is what the search compares.
  rw [List.Nodup, List.pairwise_map] at h
  have hfind : d.categories.find? (fun listed => listed.1 == category.1) = some category := by
    -- The name that is looked for is that of the first category, or differs from it.
    revert h hcategory
    induction d.categories with
    | nil => exact fun _ hmem => nomatch hmem
    | cons first others ih =>
      intro hne hmem
      rw [List.pairwise_cons] at hne
      rcases List.mem_cons.mp hmem with rfl | hmem
      · exact List.find?_cons_of_pos (beq_self_eq_true _)
      · rw [List.find?_cons_of_neg (by simpa using hne.1 category hmem), ih hne.2 hmem]
  rw [category?, hfind]
  rfl

theorem category?_eq_none (d : Description) {name : String}
    (hname : name ∉ d.categories.map Prod.fst) : d.category? name = none := by
  rw [category?, Option.map_eq_none_iff, List.find?_eq_none]
  rintro category hcategory heq
  exact hname (List.mem_map.mpr ⟨category, hcategory, eq_of_beq heq⟩)

/-- Texts are the same as keys only if they are equal, so no two keys of a description are. -/
theorem pairwise_keys (d : Description) (h : (d.categories.map Prod.fst).Nodup) :
    ((d.categories.map fun category =>
      (Value.string category.1, specValue category.2)).map Prod.fst).Pairwise
        fun key later => later.same key = false := by
  rw [List.Nodup, List.pairwise_map] at h
  -- Both are statements about pairs of names, in which only the sides are exchanged.
  rw [List.map_map, List.pairwise_map]
  refine h.imp fun hne => ?_
  simp only [Function.comp_apply, Value.same, beq_eq_false_iff_ne]
  exact hne.symm

/-- The functions of a category are found under their name. -/
theorem lookup_functions (entries : List Entry) :
    Value.lookup "functions" [(.string "functions", .sequence (entries.map Entry.value))] =
      some (.sequence (entries.map Entry.value)) := by
  simp [Value.lookup]

/-- The value of a category is found under its name. -/
theorem lookup_value (name : String) (categories : List (String × List Entry)) :
    Value.lookup name (categories.map fun category => (.string category.1, specValue category.2)) =
      ((categories.find? fun category => category.1 == name).map (·.2)).map specValue := by
  rw [Value.lookup, List.find?_map, Option.map_map, Option.map_map]
  rfl

end Description

namespace Reading

/-- The entries of a text are those of its value. -/
theorem entriesOfString_eq_ofValue (category : String) {content : String} {root : Value}
    (h : Value.ofString content = .ok root) :
    entriesOfString category content = entriesOfValue category root := by
  unfold entriesOfString
  rw [h]

/-- A text is read by its value. -/
theorem ofString_eq_ofValue (category : String) {content : String} {root : Value}
    (h : Value.ofString content = .ok root) :
    ofString category content = ofValue category root := by
  unfold ofString
  rw [entriesOfString_eq_ofValue category h]
  rfl

/-- A text without a value is not read, and the answer says why it has none. -/
theorem ofString_of_error (category : String) {content : String} {error : Yaml.Error}
    (h : Value.ofString content = .error error) :
    ofString category content = .error (.syntactic error) := by
  unfold ofString entriesOfString
  rw [h]
  rfl

/-- **A category is read from the value of a description.** The first one of that name is
taken, and what the others hold does not matter. -/
theorem ofValue_value (name : String) (d : Description) :
    ofValue name d.value =
      match d.category? name with
      | some entries => .ok ⟨[(name, entries)]⟩
      | none => .error (.missingCategory name) := by
  -- The search among values is the search among categories.
  have hlookup := Description.lookup_value name d.categories
  rw [← Description.category?] at hlookup
  cases hcategory : d.category? name with
  | none =>
    -- Without the category, the first look-up fails.
    rw [hcategory, Option.map_none] at hlookup
    simp [ofValue, entriesOfValue, functionsOf, Description.value, Value.bare, hlookup,
      Except.map, Except.bind]
  | some entries =>
    rw [hcategory, Option.map_some] at hlookup
    -- With it, the path leads on to its functions, and all of these are entries.
    have hfunctions : functionsOf name d.value = .ok (entries.map Entry.value) := by
      simp only [functionsOf, Description.value, Value.bare, hlookup]
      simp only [Description.specValue, Value.bare, Description.lookup_functions]
    rw [ofValue, entriesOfValue, hfunctions, Except.map, EntryList.ofItems_values]
    rfl

end Reading
end ApiStubs
