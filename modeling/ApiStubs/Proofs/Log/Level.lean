import ApiStubs.Log.Filter
import Mathlib.Data.List.TakeWhile

/-!
# How much of a log is shown

A filter has levels if whether it shows a record is decided by how severe the record is, and by
nothing else than where it comes from (`Filter.HasLevels`). Filters with levels can be compared:

* `Filter.filter_shows` — what a filter shows is what one with higher levels shows, less the
  records above its own levels. So there is only more to see with higher levels, in the same order.

Most filters of a run have levels. `Effective` tells which, for an environment that is unset, empty
or unreadable, or that names one level, for all records or for those of a target.
-/

namespace ApiStubs

namespace Text

/-- A text without blanks has none at its ends. -/
theorem trimBlanks_eq_self {text : List Char} (h : ∀ c ∈ text, isBlank c = false) :
    trimBlanks text = text := by
  -- The same is dropped at the start and, in reverse, at the end: nothing.
  have hdrop : ∀ chars : List Char, (∀ c ∈ chars, isBlank c = false) →
      chars.dropWhile isBlank = chars := by
    intro chars hchars
    cases chars with
    | nil => rfl
    | cons c chars => rw [List.dropWhile_cons, hchars c List.mem_cons_self]; rfl
  have hreverse : ∀ c ∈ text.reverse, isBlank c = false := by simpa using h
  rw [trimBlanks, hdrop text h, dropTrailingBlanks, hdrop _ hreverse, List.reverse_reverse]

theorem byteLength_append (text rest : List Char) :
    byteLength (text ++ rest) = byteLength text + byteLength rest := by
  induction text with
  | nil => simp [byteLength]
  | cons c text ih => rw [List.cons_append, byteLength, byteLength, ih, Nat.add_assoc]

end Text

namespace Log

namespace Threshold

/-- How far a threshold reaches: the number of the least severe level that is shown, and 0 if none
is. -/
def rank (threshold : Threshold) : Nat := threshold.elim 0 Level.rank

theorem admits_iff {threshold : Threshold} {level : Level} :
    threshold.admits level = true ↔ level.rank ≤ threshold.rank := by
  cases threshold with
  -- Without a level, nothing is shown, and no level has the number 0.
  | none => cases level <;> simp [admits, rank, Level.rank]
  | some least => simp [admits, rank]

end Threshold

namespace Filter

/-! ### Filters with levels -/

/-- **The levels of a filter**: by origin, the level up to which records are shown. -/
def HasLevels (filter : Filter) (levels : String → Threshold) : Prop :=
  ∀ r : Record, filter.shows r = (levels r.origin).admits r.level

/-- **Higher levels show more.** Nothing that is shown with lower levels is missing or out of
order, and what is new is above these levels. -/
theorem filter_shows {filter filter' : Filter} {levels levels' : String → Threshold}
    (h : filter.HasLevels levels) (h' : filter'.HasLevels levels')
    (hle : ∀ origin, (levels origin).rank ≤ (levels' origin).rank) (records : List Record) :
    records.filter filter.shows =
      (records.filter filter'.shows).filter fun r => (levels r.origin).admits r.level := by
  rw [List.filter_filter]
  refine List.filter_congr fun r _ => ?_
  -- Shown with the lower levels means shown with the higher ones too, by the order of the numbers.
  rw [h r, h' r, Bool.eq_iff_iff, Bool.and_eq_true, Threshold.admits_iff, Threshold.admits_iff]
  exact ⟨fun hr => ⟨hr, Nat.le_trans hr (hle r.origin)⟩, And.left⟩

/-- One directive that is about no field and no span. -/
theorem shows_singleton (target : Option String) (threshold : Threshold) (r : Record) :
    (Filter.mk [⟨target, false, none, threshold⟩]).shows r =
      ((target.all fun t => t.toList.isPrefixOf r.origin.toList) && threshold.admits r.level) := by
  cases h : target.all fun t => t.toList.isPrefixOf r.origin.toList <;>
    simp [shows, directiveFor?, Directive.concerns, h]

theorem hasLevels_only (threshold : Threshold) : (only threshold).HasLevels fun _ => threshold :=
  shows_singleton none threshold

/-! ### One directive -/

/-- A text without commas is one piece. -/
theorem pieces_eq_singleton {text : String} (hne : text ≠ "") (h : ',' ∉ text.toList) :
    pieces text = [text.toList] := by
  -- The library has the law for what is put together again, which one piece is without a comma.
  have hsplit : text.toList.splitOn ',' = [text.toList] := by
    have hone : ∀ piece ∈ [text.toList], ',' ∉ piece := by simpa using h
    simpa using List.splitOn_intercalate ',' hone (List.cons_ne_nil _ _)
  rw [pieces, hsplit]
  simp [hne]

theorem ofString?_eq_singleton {text : String} {d : Directive} (hne : text ≠ "")
    (h : ',' ∉ text.toList) (hread : Directive.ofChars? text.toList = some d) :
    ofString? text = some ⟨[d]⟩ := by
  rw [ofString?, pieces_eq_singleton hne h]
  simp [hread]

end Filter

/-- A word of a directive: no sign and no blank is in it, and a directive can start with it. -/
structure IsWord (word : String) : Prop where
  starts : ∃ c rest, word.toList = c :: rest ∧ Directive.mayStartWith c = true
  inner : ∀ c ∈ word.toList, c ∉ [',', '=', '['] ∧ Text.isBlank c = false

namespace IsWord

variable {word target : String} {threshold : Threshold}

theorem ne_empty (h : IsWord word) : word ≠ "" := by
  rintro rfl
  obtain ⟨c, rest, heq, -⟩ := h.starts
  cases heq

/-- The target of a directive ends behind a word. -/
theorem isTarget (h : IsWord word) : ∀ c ∈ word.toList, (c != '=' && c != '[') = true := by
  intro c hc
  have hsigns := (h.inner c hc).1
  simp_all

theorem comma_not_mem (h : IsWord word) : ',' ∉ word.toList :=
  fun hc => (h.inner _ hc).1 (by simp)

/-- What starts with a word and has no blanks is read as a target and what follows it. -/
theorem ofChars?_eq (h : IsWord word) {behind : List Char}
    (hbehind : ∀ c ∈ behind, Text.isBlank c = false) :
    Directive.ofChars? (word.toList ++ behind) =
      Directive.ofTarget? (word.toList ++ behind) (word.toList ++ behind) := by
  have hblanks : ∀ c ∈ word.toList ++ behind, Text.isBlank c = false :=
    List.forall_mem_append.mpr ⟨fun c hc => (h.inner c hc).2, hbehind⟩
  -- Nothing is trimmed, and the first character starts a target. It does not open a span.
  rw [Directive.ofChars?, Text.trimBlanks_eq_self hblanks]
  obtain ⟨c, rest, hchars, hstarts⟩ := h.starts
  have hbracket : c ≠ '[' := by
    have hsigns := h.isTarget c (by rw [hchars]; exact List.mem_cons_self)
    simp_all
  rw [hchars, List.cons_append]
  simp only [hbracket, hstarts, if_true, if_false]

/-- A level alone is about all records. -/
theorem ofChars?_level (h : IsWord word) (hlevel : Threshold.ofWord? word.toList = some threshold) :
    Directive.ofChars? word.toList = some ⟨none, false, none, threshold⟩ := by
  have hread := @ofChars?_eq word h [] (List.forall_mem_nil _)
  rw [List.append_nil] at hread
  -- The word goes on to the end of the text, so what is read is a level and no target.
  have hdrop : word.toList.dropWhile (fun c => c != '=' && c != '[') = [] :=
    List.dropWhile_eq_nil_iff.mpr h.isTarget
  rw [hread, Directive.ofTarget?]
  simp only [hdrop, hlevel]

/-- A level behind a target and an equals sign is about the records of that target. -/
theorem ofChars?_target (h : IsWord target) (hword : IsWord word)
    (hlevel : Threshold.ofWord? word.toList = some threshold) :
    Directive.ofChars? (target.toList ++ '=' :: word.toList) =
      some ⟨some target, false, none, threshold⟩ := by
  have hblanks : ∀ c ∈ '=' :: word.toList, Text.isBlank c = false :=
    List.forall_mem_cons.mpr ⟨by decide, fun c hc => (hword.inner c hc).2⟩
  have htake : (target.toList ++ '=' :: word.toList).takeWhile (fun c => c != '=' && c != '[') =
      target.toList := by
    rw [List.takeWhile_append_of_pos h.isTarget]
    simp
  have hdrop : (target.toList ++ '=' :: word.toList).dropWhile (fun c => c != '=' && c != '[') =
      '=' :: word.toList := by
    rw [List.dropWhile_append_of_pos h.isTarget]
    simp
  -- The level is cut out of the whole by its position, one byte behind the target.
  have hlength : Text.byteLength (target.toList ++ ['=']) = Text.byteLength target.toList + 1 :=
    Text.byteLength_append _ _
  have hbehind : Text.dropBytes (Text.byteLength target.toList + 1)
      (target.toList ++ '=' :: word.toList) = word.toList := by
    have hrest := Text.dropBytes_byteLength (target.toList ++ ['=']) word.toList
    rwa [hlength, List.append_assoc] at hrest
  -- There is something behind the sign. Nothing there would mean all levels.
  have hsome : word.toList.isEmpty = false := by simpa using hword.ne_empty
  rw [h.ofChars?_eq hblanks, Directive.ofTarget?, htake, hdrop]
  simp [Text.takeBytes_byteLength, Directive.thresholdAt?, hbehind, Directive.thresholdOf?, hsome,
    hlevel]

end IsWord

/-! ### The filters of runs -/

/-- **The levels that a run shows**, by the values that the environment can have. -/
inductive Effective (verbose : Bool) : Option String → (String → Threshold) → Prop
  /-- Nothing is asked for. -/
  | unset : Effective verbose none fun _ => some (if verbose then .debug else .warn)
  /-- What is asked for cannot be read. -/
  | unreadable {text : String} (h : Filter.ofString? text = none) :
      Effective verbose (some text) fun _ => some (if verbose then .debug else .warn)
  /-- Directives are asked for, of which there are none. -/
  | empty : Effective verbose (some "") fun _ => some .error
  /-- A level for all records. -/
  | level {word : String} {threshold : Threshold} (hword : IsWord word)
      (h : Threshold.ofWord? word.toList = some threshold) :
      Effective verbose (some word) fun _ => threshold
  /-- A level for the records whose origin starts with a target. Others are not shown. -/
  | target {target word : String} {threshold : Threshold} (htarget : IsWord target)
      (hword : IsWord word) (h : Threshold.ofWord? word.toList = some threshold) :
      Effective verbose (some (target ++ "=" ++ word)) fun origin =>
        if target.toList.isPrefixOf origin.toList then threshold else none

/-- **What the environment asks for is what is shown**, and it comes before what the arguments
ask for. -/
theorem Effective.hasLevels {verbose : Bool} {environment : Option String}
    {levels : String → Threshold} (h : Effective verbose environment levels) :
    (Filter.ofRun verbose environment).HasLevels levels := by
  cases h with
  | unset => exact Filter.hasLevels_only _
  | unreadable h =>
    rw [Filter.ofRun, Option.bind_some, h]
    exact Filter.hasLevels_only _
  | empty => exact Filter.hasLevels_only _
  | level hword h =>
    -- One level, as it has no comma in it, is one directive.
    rw [Filter.ofRun, Option.bind_some, Filter.ofString?_eq_singleton hword.ne_empty
      hword.comma_not_mem (hword.ofChars?_level h)]
    exact Filter.hasLevels_only _
  | @target target word threshold htarget hword h =>
    -- Neither the target nor the level has a comma in it, nor has the sign between them.
    have hwhole : (target ++ "=" ++ word).toList = target.toList ++ '=' :: word.toList := by simp
    have hne : target ++ "=" ++ word ≠ "" := by
      rw [ne_eq, ← String.toList_eq_nil_iff, hwhole]
      simp
    have hcomma : ',' ∉ (target ++ "=" ++ word).toList := by
      rw [hwhole, List.mem_append, List.mem_cons, not_or, not_or]
      exact ⟨htarget.comma_not_mem, by decide, hword.comma_not_mem⟩
    have hread : Filter.ofString? (target ++ "=" ++ word) =
        some ⟨[⟨some target, false, none, threshold⟩]⟩ :=
      Filter.ofString?_eq_singleton hne hcomma (by
        rw [hwhole]
        exact htarget.ofChars?_target hword h)
    rw [Filter.ofRun, Option.bind_some, hread]
    intro r
    show (Filter.mk _).shows r = _
    rw [Filter.shows_singleton, Option.all_some]
    -- Origins outside of the target are about no directive, and then nothing is shown.
    cases hwithin : target.toList.isPrefixOf r.origin.toList with
    | true => simp [hwithin]
    | false => simp [hwithin, Threshold.admits]

end Log
end ApiStubs
