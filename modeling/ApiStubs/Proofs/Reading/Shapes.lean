import ApiStubs.Proofs.Reading
import Mathlib.Data.List.Forall2

/-!
# What is accepted

The rules by which a value describes the functions of a category, said without the reader:

* `Value.Bears` — a value under any number of tags;
* `Value.Maps` — the value that a mapping has for a key that is a string without a tag;
* `Entry.Shaped` — items that are entries, and `Entry.Written` — which entries they are;
* `Malformation.Of` — what is wrong with an item that is none;
* `Reading.Unlisted` — why a value has no list of functions for a category, the first reason
  on the way to it.

`Reading.Answers` puts them together: the first thing that is wrong, or all entries. The reader
gives exactly this answer (`Reading.answer_iff`). It is an answer to the value alone, so what
stands behind a malformed item does not matter, and an entry depends on nothing but its item.
-/

namespace ApiStubs

open Yaml (Value)

/-! ### Values under tags -/

namespace Yaml.Value

/-- **What is under the tags.** `v.Bears w` says that `v` is `w` under some number of tags, and
that `w` itself is not under one. -/
inductive Bears : Value → Value → Prop
  | bare {v : Value} (h : ∀ name w, v ≠ tagged name w) : Bears v v
  | tagged (name : String) {v w : Value} (h : Bears v w) : Bears (tagged name v) w

/-- A mapping, under any number of tags. -/
def IsMapping (v : Value) : Prop := ∃ entries, v.Bears (mapping entries)

/-- A sequence, under any number of tags. -/
def IsSequence (v : Value) : Prop := ∃ items, v.Bears (sequence items)

/-- The value of the first entry for a string without a tag. -/
def Maps (key : String) (entries : List (Value × Value)) (v : Value) : Prop :=
  ∃ before after, entries = before ++ (string key, v) :: after ∧
    ∀ entry ∈ before, entry.1 ≠ string key

theorem bears_bare (v : Value) : v.Bears v.bare := by
  -- A tag more is one more step, and where there is none, both sides are the value itself.
  induction v using bare.induct with
  | case1 name v ih => exact .tagged name ih
  | case2 v h =>
    have hbare : v.bare = v := by
      cases v with
      | tagged name w => exact absurd rfl (h name w)
      | _ => rfl
    rw [hbare]
    exact .bare h

theorem Bears.bare_eq {v w : Value} (h : v.Bears w) : v.bare = w := by
  induction h with
  | @bare v h =>
    cases v with
    | tagged name w => exact absurd rfl (h name w)
    | _ => rfl
  | tagged name _ ih => exact ih

theorem bears_iff {v w : Value} : v.Bears w ↔ v.bare = w :=
  ⟨Bears.bare_eq, fun h => h ▸ bears_bare v⟩

theorem lookup_cons_self (key : String) (v : Value) (rest : List (Value × Value)) :
    lookup key ((string key, v) :: rest) = some v := by
  simp [lookup]

theorem lookup_cons_of_ne {key : String} {entry : Value × Value} (rest : List (Value × Value))
    -- Only a string can be the key, and any other string is passed like any other value.
    (h : entry.1 ≠ string key) : lookup key (entry :: rest) = lookup key rest := by
  obtain ⟨k, v⟩ := entry
  cases k with
  | string s =>
    have hne : s ≠ key := fun heq => h (congrArg string heq)
    simp [lookup, hne]
  | _ => rfl

/-- Entries with other keys in front of a mapping are passed. -/
theorem lookup_append_of_ne {key : String} {before : List (Value × Value)}
    (rest : List (Value × Value)) (h : ∀ entry ∈ before, entry.1 ≠ string key) :
    lookup key (before ++ rest) = lookup key rest := by
  induction before with
  | nil => rfl
  | cons entry before ih =>
    rw [List.cons_append, lookup_cons_of_ne _ (h entry List.mem_cons_self),
      ih fun entry hentry => h entry (List.mem_cons_of_mem _ hentry)]

/-- A key is missing, or there is a first entry for it. -/
theorem maps_or_missing (key : String) (entries : List (Value × Value)) :
    (∀ entry ∈ entries, entry.1 ≠ string key) ∨ ∃ v, Maps key entries v := by
  induction entries with
  | nil => exact .inl fun _ hentry => nomatch hentry
  | cons entry entries ih =>
    by_cases hkey : entry.1 = string key
    · -- This is the first entry, with nothing in front of it.
      exact .inr ⟨entry.2, [], entries, by rw [← hkey]; rfl, fun _ hentry => nomatch hentry⟩
    · -- The search goes on behind an entry with another key.
      rcases ih with hmissing | ⟨v, before, after, rfl, hbefore⟩
      · exact .inl (List.forall_mem_cons.mpr ⟨hkey, hmissing⟩)
      · exact .inr ⟨v, entry :: before, after, rfl, List.forall_mem_cons.mpr ⟨hkey, hbefore⟩⟩

theorem Maps.lookup_eq {key : String} {entries : List (Value × Value)} {v : Value}
    (h : Maps key entries v) : lookup key entries = some v := by
  obtain ⟨before, after, rfl, hbefore⟩ := h
  rw [lookup_append_of_ne _ hbefore, lookup_cons_self]

theorem lookup_eq_none {key : String} {entries : List (Value × Value)}
    (h : ∀ entry ∈ entries, entry.1 ≠ string key) : lookup key entries = none := by
  have hnone := lookup_append_of_ne [] h
  rwa [List.append_nil] at hnone

end Yaml.Value

/-! ### Entries -/

/-- A sequence of two items is a parameter with their texts. -/
def Param.Written (item : Value) (param : Param) : Prop :=
  ∃ name type, item.Bears (.sequence [name, type]) ∧ param = ⟨name.text, type.text⟩

/-- A sequence of such sequences lists parameters, one for each item. -/
def Param.ListWritten (value : Value) (params : List Param) : Prop :=
  ∃ items, value.Bears (.sequence items) ∧ List.Forall₂ Param.Written items params

/-- A sequence of four items is a signature with their texts. -/
def Signature.Written (key : Value) (s : Signature) : Prop :=
  ∃ name returnType comment link, key.Bears (.sequence [name, returnType, comment, link]) ∧
    s = ⟨name.text, returnType.text, comment.text, link.text⟩

namespace Entry

/-- **The shape of entries**: a sequence of three items or more, or a mapping with just one key,
which is a sequence of four. -/
def Shaped (item : Value) : Prop :=
  (∃ fields, item.Bears (.sequence fields) ∧ 3 ≤ fields.length) ∨
    ∃ key value fields, item.Bears (.mapping [(key, value)]) ∧ key.Bears (.sequence fields) ∧
      fields.length = 4

/-- **The entry that an item is.** A full entry lists parameters in its value; a degraded one has
any other value there, whose text is kept. -/
inductive Written : Value → Entry → Prop
  | shorthand {item name returnType comment : Value} {others : List Value}
      (h : item.Bears (.sequence (name :: returnType :: comment :: others))) :
      Written item (.shorthand name.text returnType.text comment.text)
  | full {item key value : Value} {s : Signature} {params : List Param}
      (h : item.Bears (.mapping [(key, value)])) (hkey : Signature.Written key s)
      (hparams : Param.ListWritten value params) : Written item (.full s params)
  | degraded {item key value : Value} {s : Signature}
      (h : item.Bears (.mapping [(key, value)])) (hkey : Signature.Written key s)
      (hparams : ∀ params, ¬ Param.ListWritten value params) :
      Written item (.degraded s value.text)

end Entry

/-- **What is wrong with an item** that has not the shape of an entry. -/
inductive Malformation.Of : Value → Malformation → Prop
  | tooFewFields {item : Value} {fields : List Value} (h : item.Bears (.sequence fields))
      (hfew : fields.length < 3) : Of item .tooFewFields
  | notOneKey {item : Value} {entries : List (Value × Value)}
      (h : item.Bears (.mapping entries)) (hmany : entries.length ≠ 1) : Of item .notOneKey
  | wrongKey {item key value : Value} (h : item.Bears (.mapping [(key, value)]))
      (hkey : ∀ fields, key.Bears (.sequence fields) → fields.length ≠ 4) : Of item .wrongKey
  | wrongShape {item : Value} (hsequence : ¬ item.IsSequence) (hmapping : ¬ item.IsMapping) :
      Of item .wrongShape

theorem Param.ofValue?_eq_some_iff {item : Value} {param : Param} :
    ofValue? item = some param ↔ Written item param := by
  unfold ofValue? Written
  simp only [Value.bears_iff]
  constructor
  · intro h
    split at h
    · next name type hbare => exact ⟨name, type, hbare, (Option.some.inj h).symm⟩
    · cases h
  · rintro ⟨name, type, hbare, rfl⟩
    rw [hbare]

theorem Param.mapM_ofValue?_iff {items : List Value} {params : List Param} :
    items.mapM ofValue? = some params ↔ List.Forall₂ Written items params := by
  -- By induction on the items, of which each has to be a parameter.
  induction items generalizing params with
  | nil => simp [eq_comm]
  | cons item items ih =>
    simp only [List.mapM_cons, bind, Option.bind_eq_some_iff, List.forall₂_cons_left_iff, pure,
      Option.some.injEq]
    constructor
    · rintro ⟨param, hitem, others, hothers, rfl⟩
      exact ⟨param, others, ofValue?_eq_some_iff.mp hitem, ih.mp hothers, rfl⟩
    · rintro ⟨param, others, hitem, hothers, rfl⟩
      exact ⟨param, ofValue?_eq_some_iff.mpr hitem, others, ih.mpr hothers, rfl⟩

theorem Param.listOfValue?_eq_some_iff {value : Value} {params : List Param} :
    listOfValue? value = some params ↔ ListWritten value params := by
  unfold listOfValue? ListWritten
  simp only [Value.bears_iff]
  constructor
  · intro h
    split at h
    · next items hbare => exact ⟨items, hbare, mapM_ofValue?_iff.mp h⟩
    · cases h
  · rintro ⟨items, hbare, hitems⟩
    rw [hbare]
    exact mapM_ofValue?_iff.mpr hitems

theorem Param.listOfValue?_eq_none_iff {value : Value} :
    listOfValue? value = none ↔ ∀ params, ¬ ListWritten value params := by
  -- Not to be read means to be none of the lists that could be read, and those are the ones that
  -- are written.
  rw [Option.eq_none_iff_forall_ne_some]
  exact forall_congr' fun params => listOfValue?_eq_some_iff.not

theorem Signature.ofValue?_eq_some_iff {key : Value} {s : Signature} :
    ofValue? key = some s ↔ Written key s := by
  unfold ofValue? Written
  simp only [Value.bears_iff]
  constructor
  · intro h
    split at h
    · next name returnType comment link hbare =>
      exact ⟨name, returnType, comment, link, hbare, (Option.some.inj h).symm⟩
    · cases h
  · rintro ⟨name, returnType, comment, link, hbare, rfl⟩
    rw [hbare]

/-- A key gives a signature iff it is a sequence of four items. -/
theorem Signature.exists_written_iff {key : Value} :
    (∃ s, Written key s) ↔ ∃ fields, key.Bears (.sequence fields) ∧ fields.length = 4 := by
  constructor
  · rintro ⟨s, name, returnType, comment, link, h, -⟩
    exact ⟨_, h, rfl⟩
  · rintro ⟨fields, h, hlength⟩
    obtain ⟨name, returnType, comment, link, rfl⟩ := List.length_eq_four.mp hlength
    exact ⟨_, name, returnType, comment, link, h, rfl⟩

theorem Signature.ofValue?_eq_none_iff {key : Value} :
    ofValue? key = none ↔ ∀ fields, key.Bears (.sequence fields) → fields.length ≠ 4 := by
  rw [Option.eq_none_iff_forall_ne_some]
  have hsome : (∀ s, ofValue? key ≠ some s) ↔ ¬ ∃ s, Written key s := by
    rw [not_exists]
    exact forall_congr' fun s => ofValue?_eq_some_iff.not
  rw [hsome, exists_written_iff]
  simp only [not_exists, not_and, ne_eq]

namespace Entry

theorem ofSignature_of_some {s : Signature} {value : Value} {params : List Param}
    (h : Param.listOfValue? value = some params) : ofSignature s value = .full s params := by
  rw [ofSignature, h]

theorem ofSignature_of_none {s : Signature} {value : Value}
    (h : Param.listOfValue? value = none) : ofSignature s value = .degraded s value.text := by
  rw [ofSignature, h]

/-- An item has the shape of an entry iff it is one. -/
theorem shaped_iff {item : Value} : Shaped item ↔ ∃ entry, Written item entry := by
  constructor
  -- The shape says less than the entry, which is found by what the fields and the value are.
  · rintro (⟨fields, hfields, hlength⟩ | ⟨key, value, fields, hitem, hfields, hlength⟩)
    · match fields, hlength with
      | _ :: _ :: _ :: _, _ => exact ⟨_, .shorthand hfields⟩
    · obtain ⟨s, hkey⟩ := Signature.exists_written_iff.mpr ⟨fields, hfields, hlength⟩
      by_cases hparams : ∃ params, Param.ListWritten value params
      · obtain ⟨params, hparams⟩ := hparams
        exact ⟨_, .full hitem hkey hparams⟩
      · exact ⟨_, .degraded hitem hkey (not_exists.mp hparams)⟩
  · -- An entry has the shape by its own form, and its signature has four items.
    rintro ⟨entry, hentry⟩
    cases hentry with
    | shorthand h => exact .inl ⟨_, h, Nat.le_add_left 3 _⟩
    | full h hkey _ | degraded h hkey _ =>
      obtain ⟨fields, hfields, hlength⟩ := Signature.exists_written_iff.mp ⟨_, hkey⟩
      exact .inr ⟨_, _, fields, h, hfields, hlength⟩

theorem Written.ofValue_eq {item : Value} {entry : Entry} (h : Written item entry) :
    ofValue item = .ok entry := by
  -- Each form leads through one branch of the reader.
  cases h with
  | shorthand h => rw [ofValue, h.bare_eq]
  | full h hkey hparams =>
    rw [ofValue, h.bare_eq]
    simp only [Signature.ofValue?_eq_some_iff.mpr hkey,
      ofSignature_of_some (Param.listOfValue?_eq_some_iff.mpr hparams)]
  | degraded h hkey hparams =>
    rw [ofValue, h.bare_eq]
    simp only [Signature.ofValue?_eq_some_iff.mpr hkey,
      ofSignature_of_none (Param.listOfValue?_eq_none_iff.mpr hparams)]

end Entry

theorem Malformation.Of.ofValue_eq {item : Value} {reason : Malformation}
    (h : Malformation.Of item reason) : Entry.ofValue item = .error reason := by
  unfold Entry.ofValue
  -- By the reasons: each of them is what one branch of the reader refuses.
  cases h with
  | @tooFewFields fields h hfew =>
    rw [h.bare_eq]
    match fields, hfew with
    | [], _ | [_], _ | [_, _], _ => rfl
  | @notOneKey entries h hmany =>
    rw [h.bare_eq]
    match entries, hmany with
    | [], _ | _ :: _ :: _, _ => rfl
  | wrongKey h hkey =>
    rw [h.bare_eq]
    simp only [Signature.ofValue?_eq_none_iff.mpr hkey]
  -- Neither a sequence nor a mapping, the value under the tags is one of the others.
  | wrongShape hsequence hmapping =>
    have hbears := item.bears_bare
    revert hbears
    cases item.bare with
    | sequence items => exact fun hbears => absurd ⟨items, hbears⟩ hsequence
    | mapping entries => exact fun hbears => absurd ⟨entries, hbears⟩ hmapping
    | _ => exact fun _ => rfl

namespace Entry

/-- What has not the shape of an entry lacks it in one of four ways. -/
theorem exists_malformation {item : Value} (h : ¬ Shaped item) :
    ∃ reason, Malformation.Of item reason := by
  -- By what is under the tags: a sequence is too short, and a mapping has a wrong number of
  -- entries, or a wrong key.
  by_cases hsequence : item.IsSequence
  · obtain ⟨fields, hfields⟩ := hsequence
    have hfew : fields.length < 3 := by
      by_contra hlength
      exact h (.inl ⟨fields, hfields, by omega⟩)
    exact ⟨_, .tooFewFields hfields hfew⟩
  by_cases hmapping : item.IsMapping
  · obtain ⟨entries, hentries⟩ := hmapping
    by_cases hone : entries.length = 1
    · obtain ⟨⟨key, value⟩, rfl⟩ := List.length_eq_one_iff.mp hone
      exact ⟨_, .wrongKey hentries fun fields hfields hlength =>
        h (.inr ⟨key, value, fields, hentries, hfields, hlength⟩)⟩
    · exact ⟨_, .notOneKey hentries hone⟩
  · exact ⟨_, .wrongShape hsequence hmapping⟩

/-- **An item is one entry or has one fault**, according to its shape. -/
theorem written_or_malformed (item : Value) :
    (Shaped item ∧ ∃! entry, Written item entry) ∨
      (¬ Shaped item ∧ ∃! reason, Malformation.Of item reason) := by
  -- What follows the rules is what the reader gives, so nothing else does.
  by_cases hshaped : Shaped item
  · obtain ⟨entry, hentry⟩ := shaped_iff.mp hshaped
    refine .inl ⟨hshaped, entry, hentry, fun entry' hentry' => ?_⟩
    exact Except.ok.inj (hentry'.ofValue_eq.symm.trans hentry.ofValue_eq)
  · obtain ⟨reason, hreason⟩ := exists_malformation hshaped
    refine .inr ⟨hshaped, reason, hreason, fun reason' hreason' => ?_⟩
    exact Except.error.inj (hreason'.ofValue_eq.symm.trans hreason.ofValue_eq)

/-- What is read as an entry is this entry. -/
theorem written_of_ofValue {item : Value} {entry : Entry} (h : ofValue item = .ok entry) :
    Written item entry := by
  rcases written_or_malformed item with ⟨-, entry', hentry', -⟩ | ⟨-, reason, hreason, -⟩
  · rw [hentry'.ofValue_eq] at h
    obtain rfl : entry' = entry := Except.ok.inj h
    exact hentry'
  · rw [hreason.ofValue_eq] at h
    cases h

/-- The value of an entry is this entry. -/
theorem written_value (entry : Entry) : Written entry.value entry :=
  written_of_ofValue (ofValue_value entry)

/-- The value of an entry has the shape of one. -/
theorem shaped_value (entry : Entry) : Shaped entry.value :=
  shaped_iff.mpr ⟨entry, entry.written_value⟩

end Entry

/-! ### Lists of entries -/

namespace EntryList

theorem ofItems_of_written {items : List Value} {entries : List Entry}
    (h : List.Forall₂ Entry.Written items entries) (index : Nat) :
    ofItems index items = ⟨entries, none⟩ := by
  induction h generalizing index with
  | nil => rfl
  | cons hitem _ ih => simp only [ofItems, hitem.ofValue_eq, ih]

/-- The first malformed item is told with its number, whatever comes after it. -/
theorem fault_ofItems {before : List Value} {item : Value} {reason : Malformation}
    (hbefore : ∀ x ∈ before, Entry.Shaped x) (hitem : Malformation.Of item reason)
    (after : List Value) (index : Nat) :
    (ofItems index (before ++ item :: after)).fault = some (index + before.length, reason) := by
  -- By induction on the items in front, with the number of the first of them for any start.
  induction before generalizing index with
  | nil => simp only [List.nil_append, ofItems, hitem.ofValue_eq, List.length_nil, Nat.add_zero]
  | cons first before ih =>
    -- An entry in front does not stop the reader, it only counts.
    obtain ⟨hfirst, hbefore⟩ := List.forall_mem_cons.mp hbefore
    obtain ⟨entry, hentry⟩ := Entry.shaped_iff.mp hfirst
    have hrest := ih hbefore (index + 1)
    simp only [List.cons_append, ofItems, hentry.ofValue_eq, hrest, List.length_cons]
    congr 2
    omega

/-- All items are entries, or one of them is the first that is none. -/
theorem written_or_malformed (items : List Value) :
    (∃ entries, List.Forall₂ Entry.Written items entries) ∨
      ∃ before item after, items = before ++ item :: after ∧
        (∀ x ∈ before, Entry.Shaped x) ∧ ¬ Entry.Shaped item := by
  -- By induction from the front: the first item that is none ends the search.
  induction items with
  | nil => exact .inl ⟨[], .nil⟩
  | cons item items ih =>
    by_cases hshaped : Entry.Shaped item
    · obtain ⟨entry, hentry⟩ := Entry.shaped_iff.mp hshaped
      rcases ih with ⟨entries, hentries⟩ | ⟨before, bad, after, rfl, hbefore, hbad⟩
      · exact .inl ⟨entry :: entries, .cons hentry hentries⟩
      · exact .inr ⟨item :: before, bad, after, rfl,
          List.forall_mem_cons.mpr ⟨hshaped, hbefore⟩, hbad⟩
    · exact .inr ⟨[], item, items, rfl, fun _ h => (nomatch h), hshaped⟩

end EntryList

/-! ### Categories -/

namespace Reading

/-- **Where functions are listed**: the value for `functions` in the mapping that a value has for
the category. -/
def Finds (category : String) (root functions : Value) : Prop :=
  ∃ categories spec keys, root.Bears (.mapping categories) ∧
    Value.Maps category categories spec ∧ spec.Bears (.mapping keys) ∧
    Value.Maps "functions" keys functions

/-- **Why no functions are listed.** What is missing is told from the outside in. -/
inductive Unlisted (category : String) (root : Value) : LoadError → Prop
  | rootNotMapping (h : ¬ root.IsMapping) : Unlisted category root .rootNotMapping
  | missingCategory {categories : List (Value × Value)} (hroot : root.Bears (.mapping categories))
      (h : ∀ entry ∈ categories, entry.1 ≠ .string category) :
      Unlisted category root (.missingCategory category)
  | categoryNotMapping {categories : List (Value × Value)} {spec : Value}
      (hroot : root.Bears (.mapping categories)) (hspec : Value.Maps category categories spec)
      (h : ¬ spec.IsMapping) : Unlisted category root (.categoryNotMapping category)
  | missingFunctions {categories keys : List (Value × Value)} {spec : Value}
      (hroot : root.Bears (.mapping categories)) (hspec : Value.Maps category categories spec)
      (hkeys : spec.Bears (.mapping keys)) (h : ∀ entry ∈ keys, entry.1 ≠ .string "functions") :
      Unlisted category root (.missingFunctions category)
  | functionsNotSequence {functions : Value} (hfunctions : Finds category root functions)
      (h : ¬ functions.IsSequence) : Unlisted category root (.functionsNotSequence category)

/-- **The answer to a value.** A category that has no list of functions, the first item that is
no entry, with its number, or all entries, one for each item. -/
inductive Answers (category : String) (root : Value) : Except LoadError Description → Prop
  | unlisted {error : LoadError} (h : Unlisted category root error) :
      Answers category root (.error error)
  | malformed {functions item : Value} {before after : List Value} {reason : Malformation}
      (hfunctions : Finds category root functions)
      (hitems : functions.Bears (.sequence (before ++ item :: after)))
      (hbefore : ∀ x ∈ before, Entry.Shaped x) (hshaped : ¬ Entry.Shaped item)
      (hitem : Malformation.Of item reason) :
      Answers category root (.error (.malformedEntry before.length reason))
  | entries {functions : Value} {items : List Value} {entries : List Entry}
      (hfunctions : Finds category root functions) (hitems : functions.Bears (.sequence items))
      (hentries : List.Forall₂ Entry.Written items entries) :
      Answers category root (.ok ⟨[(category, entries)]⟩)

variable {category : String} {root : Value}

/-- The items of what is listed for a category. -/
def itemsOf (category : String) (functions : Value) : Except LoadError (List Value) :=
  match functions.bare with
  | .sequence items => .ok items
  | _ => .error (.functionsNotSequence category)

/-- Where functions are listed, the rest of the value does not matter. -/
theorem functionsOf_of_finds {functions : Value} (h : Finds category root functions) :
    functionsOf category root = itemsOf category functions := by
  obtain ⟨categories, spec, keys, hroot, hspec, hkeys, hfunctions⟩ := h
  simp only [functionsOf, hroot.bare_eq, hspec.lookup_eq, hkeys.bare_eq, hfunctions.lookup_eq]
  rfl

theorem bare_ne_mapping {v : Value} (h : ¬ v.IsMapping) (entries : List (Value × Value)) :
    v.bare ≠ .mapping entries :=
  fun hbare => h ⟨entries, hbare ▸ v.bears_bare⟩

theorem bare_ne_sequence {v : Value} (h : ¬ v.IsSequence) (items : List Value) :
    v.bare ≠ .sequence items :=
  fun hbare => h ⟨items, hbare ▸ v.bears_bare⟩

theorem functionsOf_of_unlisted {error : LoadError} (h : Unlisted category root error) :
    functionsOf category root = .error error := by
  -- Each reason is the point at which the reader leaves the path to the functions.
  cases h with
  | rootNotMapping h =>
    rw [functionsOf]
    split
    · next entries hbare => exact absurd hbare (bare_ne_mapping h entries)
    · rfl
  | missingCategory hroot h =>
    simp only [functionsOf, hroot.bare_eq, Value.lookup_eq_none h]
  | categoryNotMapping hroot hspec h =>
    simp only [functionsOf, hroot.bare_eq, hspec.lookup_eq]
    split
    · next entries hbare => exact absurd hbare (bare_ne_mapping h entries)
    · rfl
  | missingFunctions hroot hspec hkeys h =>
    simp only [functionsOf, hroot.bare_eq, hspec.lookup_eq, hkeys.bare_eq, Value.lookup_eq_none h]
  | functionsNotSequence hfunctions h =>
    rw [functionsOf_of_finds hfunctions, itemsOf]
    split
    · next items hbare => exact absurd hbare (bare_ne_sequence h items)
    · rfl

/-- A value lists the functions of a category, or there is a reason why it does not. -/
theorem finds_or_unlisted (category : String) (root : Value) :
    (∃ functions items, Finds category root functions ∧ functions.Bears (.sequence items)) ∨
      ∃ error, Unlisted category root error := by
  -- From the outside in; the first step that fails is the reason.
  by_cases hroot : root.IsMapping
  case neg => exact .inr ⟨_, .rootNotMapping hroot⟩
  obtain ⟨categories, hroot⟩ := hroot
  rcases Value.maps_or_missing category categories with hmissing | ⟨spec, hspec⟩
  case inl => exact .inr ⟨_, .missingCategory hroot hmissing⟩
  by_cases hkeys : spec.IsMapping
  case neg => exact .inr ⟨_, .categoryNotMapping hroot hspec hkeys⟩
  obtain ⟨keys, hkeys⟩ := hkeys
  rcases Value.maps_or_missing "functions" keys with hmissing | ⟨functions, hfunctions⟩
  case inl => exact .inr ⟨_, .missingFunctions hroot hspec hkeys hmissing⟩
  have hfinds : Finds category root functions :=
    ⟨categories, spec, keys, hroot, hspec, hkeys, hfunctions⟩
  by_cases hitems : functions.IsSequence
  case neg => exact .inr ⟨_, .functionsNotSequence hfinds hitems⟩
  obtain ⟨items, hitems⟩ := hitems
  exact .inl ⟨functions, items, hfinds, hitems⟩

/-- The answer where functions are listed. -/
theorem ofValue_of_finds {functions : Value} {items : List Value}
    (hfunctions : Finds category root functions) (hitems : functions.Bears (.sequence items)) :
    ofValue category root = describe category (EntryList.ofItems 0 items) := by
  rw [ofValue, entriesOfValue, functionsOf_of_finds hfunctions, itemsOf, hitems.bare_eq]
  rfl

/-- The rules leave no value without an answer. -/
theorem exists_answer (category : String) (root : Value) :
    ∃ answer, Answers category root answer := by
  rcases finds_or_unlisted category root with ⟨functions, items, hfunctions, hitems⟩ |
    ⟨error, herror⟩
  · -- Functions are listed, so the answer is up to their items.
    rcases EntryList.written_or_malformed items with ⟨entries, hentries⟩ |
      ⟨before, item, after, rfl, hbefore, hshaped⟩
    · exact ⟨_, .entries hfunctions hitems hentries⟩
    · obtain ⟨reason, hitem⟩ := Entry.exists_malformation hshaped
      exact ⟨_, .malformed hfunctions hitems hbefore hshaped hitem⟩
  · -- No functions are listed, and the reason is the answer.
    exact ⟨_, .unlisted herror⟩

/-- The reader gives each answer that the rules allow. -/
theorem ofValue_of_answers {answer : Except LoadError Description}
    (h : Answers category root answer) : ofValue category root = answer := by
  cases h with
  | unlisted h =>
    rw [ofValue, entriesOfValue, functionsOf_of_unlisted h]
    rfl
  | malformed hfunctions hitems hbefore _ hitem =>
    rw [ofValue_of_finds hfunctions hitems, describe, EntryList.result,
      EntryList.fault_ofItems hbefore hitem, Nat.zero_add]
    rfl
  | entries hfunctions hitems hentries =>
    rw [ofValue_of_finds hfunctions hitems, EntryList.ofItems_of_written hentries]
    rfl

/-- **The reader follows the rules, and the rules alone.** An item is one entry or has one fault.
The answer to a value is the only one that the rules allow, and the answer to a text is that to
its value, or tells why it has none. -/
theorem answer_iff (category : String) :
    (∀ item, (Entry.Shaped item ∧ ∃! entry, Entry.Written item entry) ∨
      (¬ Entry.Shaped item ∧ ∃! reason, Malformation.Of item reason)) ∧
    (∀ root answer, ofValue category root = answer ↔ Answers category root answer) ∧
    ∀ content answer, ofString category content = answer ↔
      (∃ error, Value.ofString content = .error error ∧ answer = .error (.syntactic error)) ∨
        ∃ root, Value.ofString content = .ok root ∧ Answers category root answer := by
  -- For values, an answer that is allowed is the one that is given; and some answer is allowed.
  have hvalue : ∀ root answer,
      ofValue category root = answer ↔ Answers category root answer := by
    refine fun root answer => ⟨fun h => ?_, ofValue_of_answers⟩
    obtain ⟨answer', hanswer⟩ := exists_answer category root
    rw [← h, ofValue_of_answers hanswer]
    exact hanswer
  refine ⟨Entry.written_or_malformed, hvalue, fun content answer => ?_⟩
  -- Of the two parts of the answer to a text, one is excluded by whether the text has a value.
  cases hcontent : Value.ofString content with
  | error error =>
    rw [ofString_of_error category hcontent]
    constructor
    · rintro rfl
      exact .inl ⟨error, rfl, rfl⟩
    · rintro (⟨_, ⟨⟩, rfl⟩ | ⟨_, ⟨⟩, -⟩)
      rfl
  | ok root =>
    rw [ofString_eq_ofValue category hcontent, hvalue]
    constructor
    · exact fun h => .inr ⟨root, rfl, h⟩
    · rintro (⟨_, ⟨⟩, -⟩ | ⟨_, ⟨⟩, h⟩)
      exact h

end Reading
end ApiStubs
