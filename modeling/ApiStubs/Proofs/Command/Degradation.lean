import ApiStubs.Proofs.Command.Verbosity
import ApiStubs.Proofs.FlowLayout
import ApiStubs.Proofs.Reading.Shapes

/-!
# Records about degraded entries

A degraded entry is written without its parameters, and a record of the log is the only trace of
that. A run that shows these records shows all of them, up to the first item that is no entry: one
for each degraded entry, in the order of the items, with the name and the text that the description
has. A record with the number of items follows if all of them are entries, and only then
(`Run.inWorkspace_degradations`).

* `EntryList.Reads` — how far items are read;
* `Run.perform_loaded` — the records of a run that has found the items.
-/

namespace ApiStubs

open Yaml (Value)

namespace EntryList

/-! ### How far items are read -/

/-- **How far items are read**: all of them, if all are entries, or those in front of the first one
that is none. -/
inductive Reads : List Value → List Entry → Bool → Prop
  | all {items : List Value} {entries : List Entry}
      (h : List.Forall₂ Entry.Written items entries) : Reads items entries true
  | before {items : List Value} {entries : List Entry} {item : Value}
      (h : List.Forall₂ Entry.Written items entries) (hitem : ¬ Entry.Shaped item)
      (others : List Value) : Reads (items ++ item :: others) entries false

variable {items : List Value} {entries : List Entry} {complete : Bool}

theorem exists_reads (items : List Value) : ∃ entries complete, Reads items entries complete := by
  rcases written_or_malformed items with ⟨entries, hentries⟩ |
    ⟨before, item, others, rfl, hbefore, hitem⟩
  · exact ⟨entries, true, .all hentries⟩
  · -- Each item in front has an entry.
    obtain ⟨entries, hentries⟩ : ∃ entries, List.Forall₂ Entry.Written before entries := by
      induction before with
      | nil => exact ⟨[], .nil⟩
      | cons first before ih =>
        obtain ⟨hfirst, hbefore⟩ := List.forall_mem_cons.mp hbefore
        obtain ⟨entry, hentry⟩ := Entry.shaped_iff.mp hfirst
        obtain ⟨entries, hentries⟩ := ih hbefore
        exact ⟨entry :: entries, .cons hentry hentries⟩
    exact ⟨entries, false, .before hentries hitem others⟩

/-- The reader reads so far. -/
theorem Reads.ofItems (h : Reads items entries complete) (index : Nat) :
    ∃ fault, EntryList.ofItems index items = ⟨entries, fault⟩ ∧ fault.isNone = complete := by
  cases h with
  | all h => exact ⟨none, ofItems_of_written h index, rfl⟩
  | @before items _ item h hitem others =>
    -- The items in front are read one by one, and the first one that is none stops the reader.
    induction h generalizing index with
    | nil =>
      obtain ⟨reason, hreason⟩ := Entry.exists_malformation hitem
      exact ⟨some (index, reason), by simp only [List.nil_append, EntryList.ofItems,
        hreason.ofValue_eq], rfl⟩
    | cons hfirst _ ih =>
      obtain ⟨fault, hrest, hfault⟩ := ih (index + 1)
      exact ⟨fault, by simp only [List.cons_append, EntryList.ofItems, hfirst.ofValue_eq, hrest],
        hfault⟩

theorem Reads.length_eq (h : Reads items entries true) : entries.length = items.length := by
  cases h with
  | all h => exact h.length_eq.symm

/-- All items are read iff all of them are entries. -/
theorem Reads.complete_iff (h : Reads items entries complete) :
    complete = true ↔ ∀ item ∈ items, Entry.Shaped item := by
  cases h with
  | all h =>
    refine iff_of_true rfl ?_
    -- By induction on the entries, each of which its item has the form for.
    induction h with
    | nil => exact fun _ hmem => nomatch hmem
    | cons hfirst _ ih => exact List.forall_mem_cons.mpr ⟨Entry.shaped_iff.mpr ⟨_, hfirst⟩, ih⟩
  | before h hitem others =>
    -- The item that is no entry is among the items.
    refine iff_of_false Bool.false_ne_true fun hall => hitem (hall _ ?_)
    simp

end EntryList

namespace Command
namespace Run

open Log (Record Filter Effective)

/-! ### Runs that have found the items -/

/-- An input that spells a text is read as that. -/
theorem readInput_of_supplies {input : ByteArray} {w : Workspace} {source : Endpoint}
    {bytes : ByteArray} {content : String} (hbytes : source.Supplies input w bytes)
    (hcontent : String.fromUTF8? bytes = some content) :
    (readInput (workspaceHost input) source).run w = (.ok content, w) := by
  have hdecode : decode bytes = .ok content := by rw [decode, hcontent]
  -- The content is the same text at either input.
  cases source with
  | standard =>
    obtain rfl : bytes = input := hbytes
    show (Except.mapError _ (decode bytes), w) = _
    rw [hdecode]
    rfl
  | file path =>
    rw [readInput_file input hbytes, hdecode]
    rfl

theorem entriesOfString_of_finds {category content : String} {root functions : Value}
    {items : List Value} (hroot : Value.ofString content = .ok root)
    (hfinds : Reading.Finds category root functions) (hitems : functions.Bears (.sequence items)) :
    Reading.entriesOfString category content = .ok (EntryList.ofItems 0 items) := by
  rw [Reading.entriesOfString_eq_ofValue category hroot, Reading.entriesOfValue,
    Reading.functionsOf_of_finds hfinds, Reading.itemsOf, hitems.bare_eq]
  rfl

/-- What a run reports behind the items: what it makes of them, and that it has. -/
def IsLater (r : Record) : Prop :=
  (∃ function, r = .rendering function) ∨
    ∃ category functions output, r = .written category functions output

/-- The records of loading are shown where the levels of their origin reach as far. -/
theorem shows_loading {filter : Filter} {levels : String → Log.Threshold}
    (hlevels : filter.HasLevels levels)
    (hlevel : levels "tts_stubgen::loader" = some .debug ∨
      levels "tts_stubgen::loader" = some .trace) (category : String) (list : EntryList) :
    (loadRecords category list).filter filter.shows = loadRecords category list := by
  -- All of these records are debug records of the loader, and the levels let these pass.
  have hshows : ∀ r : Record, r.origin = "tts_stubgen::loader" → r.level = .debug →
      filter.shows r = true := by
    intro r horigin hdebug
    rw [hlevels r, horigin, hdebug]
    rcases hlevel with h | h <;> rw [h] <;> rfl
  rw [List.filter_eq_self]
  -- They are records of degraded entries, and the one of the number of items at the end.
  intro r hr
  unfold loadRecords irregularities at hr
  rcases List.mem_append.mp hr with hr | hr
  · obtain ⟨entry, -, hentry⟩ := List.mem_filterMap.mp hr
    cases entry with
    | degraded signature raw =>
      cases hentry
      exact hshows _ rfl rfl
    | _ => cases hentry
  · split at hr
    · rw [List.mem_singleton] at hr
      subst hr
      exact hshows _ rfl rfl
    · cases hr

/-- The records of loading, by how far the items are read. -/
theorem loadRecords_of_reads {items : List Value} {entries : List Entry} {complete : Bool}
    (h : EntryList.Reads items entries complete) (category : String) :
    loadRecords category (EntryList.ofItems 0 items) =
      irregularities entries ++ if complete then [.loaded category items.length] else [] := by
  obtain ⟨fault, hitems, rfl⟩ := h.ofItems 0
  rw [hitems, loadRecords]
  -- No item is left out if there is no fault, so there are as many entries as items.
  cases fault with
  | none => rw [h.length_eq]
  | some fault => rfl

/-- **The records of a run that has found the items.** Those of loading stand together, and nothing
follows them if there is a fault. -/
theorem perform_loaded {input : ByteArray} {w : Workspace} {o : Options} {content : String}
    {list : EntryList} (hread : (readInput (workspaceHost input) o.input).run w = (.ok content, w))
    (hlist : Reading.entriesOfString o.stub.category content = .ok list) :
    ∃ report after later, (perform (workspaceHost input) o).run w = (report, after) ∧
      report.records = inputRecords o.input ++ (loadRecords o.stub.category list ++ later) ∧
      (∀ r ∈ later, IsLater r) ∧ (list.fault.isNone = false → later = []) := by
  -- Only a fault of the items keeps the run from going on, so the cases are those of the fault.
  let category := o.stub.category
  obtain ⟨entries, fault⟩ := list
  cases fault with
  -- A malformed item: the error ends the run behind the records of loading.
  | some fault =>
    obtain ⟨index, reason⟩ := fault
    have hproduce : produce o content = (loadRecords category ⟨entries, some (index, reason)⟩,
        .error (.load o.input (.malformedEntry index reason))) := by
      unfold produce
      dsimp only
      rw [hlist]
      rfl
    refine ⟨_, w, [], perform_unmade hread hproduce, ?_, List.forall_mem_nil _, fun _ => rfl⟩
    rw [List.append_nil]
  -- All items are entries: a stub file is made of them, and each has a record of that.
  | none =>
    let rendered : List Record := entries.map (.rendering ·.name)
    -- The description has the category that was asked for, which is all that is needed for a stub
    -- file.
    obtain ⟨made, hartifact⟩ : ∃ made, artifact o.stub ⟨[(category, entries)]⟩ = .ok made := by
      simp [artifact, Stub.file, Description.category?, category]
    have hproduce : produce o content =
        (loadRecords category ⟨entries, none⟩ ++ rendered, .ok made) := by
      unfold produce
      dsimp only
      rw [hlist, ← hartifact]
      rfl
    have hrendered : ∀ r ∈ rendered, IsLater r := by
      intro r hr
      obtain ⟨entry, -, rfl⟩ := List.mem_map.mp hr
      exact .inl ⟨_, rfl⟩
    have hwhole : (⟨entries, none⟩ : EntryList).fault.isNone ≠ false := by
      intro hfault
      cases hfault
    -- Behind these, only a write that succeeds adds one more record.
    obtain ⟨written, after, hwrite, hwritten⟩ := writeOutput_run input w made.text o.output
    rcases hwritten with ⟨error, rfl, -⟩ | ⟨output, rfl, -⟩
    · exact ⟨_, after, rendered, perform_unwritten hread hproduce hwrite, rfl, hrendered,
        fun hfault => absurd hfault hwhole⟩
    · refine ⟨_, after, rendered ++ [outputRecord o made], perform_written hread hproduce hwrite,
        ?_, ?_, fun hfault => absurd hfault hwhole⟩
      · simp only [category, List.append_assoc]
      · rw [List.forall_mem_append]
        refine ⟨hrendered, fun r hr => ?_⟩
        rw [List.mem_singleton] at hr
        exact .inr ⟨_, _, _, hr⟩

/-- **A run that shows records about degraded entries shows all of them, up to the first error.** In
front of them there can be a record of reading, and behind them those of what is made of the
entries, which there are only if all items are entries. -/
theorem inWorkspace_degradations {arguments : List String} {given : Given} {input : ByteArray}
    {w : Workspace} {bytes : ByteArray} {content : String} {root functions : Value}
    {items : List Value} {environment : Option String} {levels : String → Log.Threshold}
    (hask : Request.ofArguments arguments = .run given)
    (hbytes : (Endpoint.ofPath (given.input.getD "api.yaml")).Supplies input w bytes)
    (hcontent : String.fromUTF8? bytes = some content) (hroot : Value.ofString content = .ok root)
    (hfinds : Reading.Finds (given.category.getD "Object") root functions)
    (hitems : functions.Bears (.sequence items))
    (hlevels : (Filter.ofRun given.verbose environment).HasLevels levels)
    (hlevel : levels "tts_stubgen::loader" = some .debug ∨
      levels "tts_stubgen::loader" = some .trace) :
    let category := given.category.getD "Object"
    let irregular : Entry → Option Record := fun entry =>
      match entry with
      | .degraded signature raw => some (.irregular signature.name raw)
      | _ => none
    ∃ (entries : List Entry) (complete : Bool) (before later : List Record)
        (status : Nat) (output chain : String) (after : Workspace),
      EntryList.Reads items entries complete ∧
      (complete = true ↔ ∀ item ∈ items, Entry.Shaped item) ∧
      (complete = true → Reading.ofString category content = .ok ⟨[(category, entries)]⟩) ∧
      inWorkspace arguments input environment w = (⟨status, output,
        String.join ((before ++ entries.filterMap irregular ++
          (if complete then [Record.loaded category items.length] else []) ++
            later).map Record.line) ++ chain⟩, after) ∧
      (∀ r ∈ before, ∃ path, r = .reading path) ∧
      (∀ r ∈ later, IsLater r) ∧ (complete = false → later = []) ∧
      (status = 0 ∧ chain = "" ∨ status = 1 ∧ ∃ error : RunError, chain = error.text) := by
  intro category irregular
  let o := Options.ofGiven given
  let filter := Filter.ofRun given.verbose environment
  -- From here on, the items decide: how far they are read, and what the run reports of that.
  obtain ⟨entries, complete, hreads⟩ := EntryList.exists_reads items
  have hlist : Reading.entriesOfString category content = .ok (EntryList.ofItems 0 items) :=
    entriesOfString_of_finds hroot hfinds hitems
  obtain ⟨report, after, later, hperform, hrecords, hlater, hnone⟩ :=
    @perform_loaded _ _ o _ _ (readInput_of_supplies hbytes hcontent) hlist
  obtain ⟨status, output, chain, hstatus, houtcome⟩ := outcome_spec report
  obtain ⟨fault, hlistItems, hfault⟩ := hreads.ofItems 0
  refine ⟨entries, complete, (inputRecords o.input).filter filter.shows, later.filter filter.shows,
    status, output, chain, after, hreads, hreads.complete_iff, ?_, ?_, ?_, ?_, ?_, hstatus⟩
  · -- The records are about the entries that the description has.
    rintro rfl
    rw [Option.isNone_iff_eq_none] at hfault
    rw [Reading.ofString, hlist, hlistItems, hfault]
    rfl
  · -- Filtering leaves the records of loading as they are, and others before and behind them.
    have hshown : report.records.filter filter.shows =
        (inputRecords o.input).filter filter.shows ++ irregularities entries ++
          (if complete then [.loaded category items.length] else []) ++
            later.filter filter.shows := by
      rw [hrecords, List.filter_append, List.filter_append, shows_loading hlevels hlevel,
        loadRecords_of_reads hreads]
      simp only [List.append_assoc]
      rfl
    rw [inWorkspace_of_run hask hperform, houtcome]
    show (Outcome.mk _ _ (String.join ((report.records.filter filter.shows).map _) ++ _), _) = _
    rw [hshown]
    rfl
  · -- Before loading, only reading is reported, and only of a file.
    intro r hr
    have hr := (List.mem_filter.mp hr).1
    revert hr
    cases o.input with
    | standard =>
      intro hr
      cases hr
    | file path =>
      intro hr
      exact ⟨path, List.mem_singleton.mp hr⟩
  · exact fun r hr => hlater r (List.mem_filter.mp hr).1
  · rintro rfl
    rw [hnone (by rw [hlistItems]; exact hfault)]
    rfl

/-- Two degraded entries, with one between them that is not. -/
theorem inWorkspace_degradations_two :
    let entries : List Entry := [.degraded ⟨"f", "int", "", "/f"⟩ "x", .shorthand "g" "int" "",
      .degraded ⟨"h", "nil", "", "/h"⟩ "[[y]]"]
    let bytes := (Writing.flow ⟨[("Object", entries)]⟩).toUTF8
    ∃ front behind, (inWorkspace ["-v", "-i", "-", "-o", "-"] bytes none ⟨[], []⟩).1.errors =
      front ++ "DEBUG irregular parameter data function=f raw=x\n" ++
        "DEBUG irregular parameter data function=h raw=[[y]]\n" ++
        "DEBUG loaded category category=\"Object\" functions=3\n" ++ behind := by
  intro entries bytes
  let d : Description := ⟨[("Object", entries)]⟩
  have hnames : (d.categories.map Prod.fst).Nodup := by decide
  have hcontent : String.fromUTF8? bytes = some (Writing.flow d) :=
    dif_pos (Writing.flow d).isValidUTF8
  have hroot := Writing.ofString_flow_eq_value d hnames
  have hfinds : Reading.Finds "Object" d.value (.sequence (entries.map Entry.value)) :=
    ⟨_, _, _, .bare nofun, ⟨[], [], rfl, nofun⟩, .bare nofun, [], [], rfl, nofun⟩
  obtain ⟨read, complete, before, later, status, output, chain, after, hreads, hcomplete, hmodel,
    hrun, -⟩ := @inWorkspace_degradations ["-v", "-i", "-", "-o", "-"]
      ⟨some "-", some "-", none, none, false, true⟩ bytes ⟨[], []⟩ bytes _ _ _ _ none _ rfl rfl
      hcontent hroot hfinds (.bare nofun) (Effective.hasLevels .unset) (.inl rfl)
  obtain rfl : complete = true := by
    rw [hcomplete]
    intro item hitem
    obtain ⟨entry, -, rfl⟩ := List.mem_map.mp hitem
    exact entry.shaped_value
  -- The entries that are read are those that have been written.
  obtain rfl : read = entries := by
    have hwritten := (Reading.ofString_flow d hnames).1 ("Object", entries) (by simp [d])
    have hsame := Except.ok.inj ((hmodel rfl).symm.trans hwritten)
    simpa using hsame
  refine ⟨String.join (before.map Record.line), String.join (later.map Record.line) ++ chain, ?_⟩
  rw [hrun]
  have hlog : String.join ((irregularities entries ++ [Record.loaded "Object" 3]).map Record.line) =
      "DEBUG irregular parameter data function=f raw=x\n" ++
        "DEBUG irregular parameter data function=h raw=[[y]]\n" ++
        "DEBUG loaded category category=\"Object\" functions=3\n" := by
    decide +kernel
  show String.join
    ((before ++ irregularities entries ++ [Record.loaded "Object" 3] ++ later).map _) ++ chain = _
  rw [List.append_assoc before, List.map_append, List.map_append, String.join_append,
    String.join_append, hlog]
  simp only [String.append_assoc]

end Run
end Command
end ApiStubs
