import ApiStubs.Command.Run
import ApiStubs.Proofs.Command.Workspace

/-!
# The effect of a run

Whatever the arguments, the input, the files and the wish for records are, a run does one of
two things:

* it fails, with nothing on standard output and every file as it was;
* it succeeds, and the stub file that it has made is at exactly one place: all of standard
  output, or all of one file (`Run.Succeeds`).

A question for help or for the version is answered without a look at any file.
`Run.inWorkspace_effect` says so. It rests on one lemma for each step of a run: reading the
input (`Run.readInput_run`), making the stub file (`Run.produce_ok`) and writing the output
(`Run.writeOutput_run`).
-/

namespace ApiStubs
namespace Command

namespace Endpoint

/-- **The bytes of an input**: those of standard input, or those of a file. -/
def Supplies (input : ByteArray) (w : Workspace) : Endpoint → ByteArray → Prop
  | standard, bytes => bytes = input
  | file path, bytes => w.read path = .ok bytes

/-- **A text at an output.** It is all of standard output and no file changes, or it is all
of one file, nothing else changes and standard output is empty. -/
def Receives (w : Workspace) (text : String) : Endpoint → String → Workspace → Prop
  | standard, output, after => output = text ∧ after = w
  | file path, output, after => output = "" ∧ w.Replaced path text.toUTF8 after

end Endpoint

namespace Run

/-! ### The steps of a run -/

/-- Reading the input changes nothing, and gives the text that its bytes spell. -/
theorem readInput_run (input : ByteArray) (w : Workspace) (source : Endpoint) :
    ∃ result, (readInput (workspaceHost input) source).run w = (result, w) ∧
      ∀ content, result = .ok content →
        ∃ bytes, source.Supplies input w bytes ∧ String.fromUTF8? bytes = some content := by
  have hdecode : ∀ bytes content, decode bytes = .ok content →
      String.fromUTF8? bytes = some content := by
    intro bytes content h
    unfold decode at h
    cases hbytes : String.fromUTF8? bytes with
    | none => rw [hbytes] at h; cases h
    | some text => rw [hbytes] at h; cases h; rfl
  -- Both inputs are decoded alike, and a fault of either is an error of the run.
  cases source with
  | standard =>
    -- Standard input is always there, so that only its bytes can be wrong.
    refine ⟨(decode input).mapError .readStandard, rfl, fun content h => ⟨input, rfl, ?_⟩⟩
    cases hinput : decode input with
    | error fault => rw [hinput] at h; cases h
    | ok text => rw [hinput] at h; cases h; exact hdecode input _ hinput
  | file path =>
    -- A file can be missing, and then it is not decoded.
    refine ⟨((w.read path).bind decode).mapError (.readFile path), rfl, fun content h => ?_⟩
    cases hread : w.read path with
    | error fault => rw [hread] at h; cases h
    | ok bytes =>
      rw [hread] at h
      change (decode bytes).mapError _ = _ at h
      cases hbytes : decode bytes with
      | error fault => rw [hbytes] at h; cases h
      | ok text => rw [hbytes] at h; cases h; exact ⟨bytes, hread, hdecode bytes _ hbytes⟩

/-- A file that can be written is written, and nothing is left for standard output. -/
theorem writeOutput_file {w after : Workspace} {path text : String} (input : ByteArray)
    (h : w.write path text.toUTF8 = .ok after) :
    (writeOutput (workspaceHost input) text (.file path)).run w = (.ok "", after) := by
  have hhost : (workspaceHost input).writeFile path text w = (.ok (), after) := by
    simp only [workspaceHost, h]
  simp only [writeOutput, StateT.run, bind, StateT.bind, hhost]
  rfl

/-- What is written arrives at the output, or nothing changes. -/
theorem writeOutput_run (input : ByteArray) (w : Workspace) (text : String) (sink : Endpoint) :
    ∃ result after, (writeOutput (workspaceHost input) text sink).run w = (result, after) ∧
      ((∃ error, result = .error error ∧ after = w) ∨
        ∃ output, result = .ok output ∧ sink.Receives w text output after) := by
  cases sink with
  -- Standard output takes the text as it is, and the workspace is not looked at.
  | standard => exact ⟨.ok text, w, rfl, .inr ⟨text, rfl, rfl, rfl⟩⟩
  | file path =>
    -- A file receives it if the write succeeds, which then leaves nothing to print.
    cases hwrite : w.write path text.toUTF8 with
    | error fault =>
      have hhost : (workspaceHost input).writeFile path text w = (.error fault, w) := by
        simp only [workspaceHost, hwrite]
      refine ⟨.error (.writeFile path fault), w, ?_, .inl ⟨_, rfl, rfl⟩⟩
      simp only [writeOutput, StateT.run, bind, StateT.bind, hhost]
      rfl
    | ok after =>
      exact ⟨.ok "", after, writeOutput_file input hwrite,
        .inr ⟨"", rfl, rfl, Workspace.replaced_of_write hwrite⟩⟩

/-- What is read of a category is a description of just that. -/
theorem ofString_eq_singleton {category content : String} {description : Description}
    (h : Reading.ofString category content = .ok description) :
    ∃ entries, description = ⟨[(category, entries)]⟩ := by
  unfold Reading.ofString at h
  -- A text that cannot be read at all describes nothing.
  cases hlist : Reading.entriesOfString category content with
  | error error => rw [hlist] at h; cases h
  | ok list =>
    rw [hlist] at h
    change list.result.map _ = _ at h
    -- With one malformed item, there is no description either.
    cases hresult : list.result with
    | error error => rw [hresult] at h; cases h
    | ok entries => rw [hresult] at h; cases h; exact ⟨entries, rfl⟩

/-- **What has been read can be laid out.** The category that was asked for is there. -/
theorem file_of_ofString {settings : Stub.Settings} {content : String}
    {description : Description}
    (h : Reading.ofString settings.category content = .ok description) :
    ∃ entries, description = ⟨[(settings.category, entries)]⟩ ∧
      Stub.file settings description = .ok (Stub.text settings entries) := by
  obtain ⟨entries, rfl⟩ := ofString_eq_singleton h
  refine ⟨entries, rfl, ?_⟩
  simp [Stub.file, Description.category?]

/-- A stub file that is made is that of the description that was read. -/
theorem produce_ok {o : Options} {content : String} {records : List Log.Record}
    {made : Artifact} (h : produce o content = (records, .ok made)) :
    ∃ description, Reading.ofString o.stub.category content = .ok description ∧
      Stub.file o.stub description = .ok made.text := by
  -- Both read the same entries, of which the run also keeps records.
  unfold produce at h
  unfold Reading.ofString
  cases hlist : Reading.entriesOfString o.stub.category content with
  | error error => simp [hlist] at h
  | ok list =>
    simp only [hlist] at h
    cases hdescription : Reading.describe o.stub.category list with
    | error error => simp [hdescription] at h
    | ok description =>
      simp only [hdescription, Prod.mk.injEq] at h
      refine ⟨description, hdescription, ?_⟩
      unfold artifact at h
      cases hfile : Stub.file o.stub description with
      | error failure => simp [hfile] at h
      | ok text =>
        simp only [hfile, Except.ok.injEq] at h
        rw [← h.2]

/-! ### Runs -/

section Steps

variable {input : ByteArray} {w after : Workspace} {o : Options} {content : String}
  {records : List Log.Record} {made : Artifact} {error : RunError}

/-! A step that fails ends the run. The records are those of the steps before it. -/

theorem perform_unread
    (hread : (readInput (workspaceHost input) o.input).run w = (.error error, w)) :
    (perform (workspaceHost input) o).run w = (⟨inputRecords o.input, .error error⟩, w) := by
  rw [StateT.run] at hread
  simp only [perform, StateT.run, bind, StateT.bind, hread]
  rfl

theorem perform_unmade
    (hread : (readInput (workspaceHost input) o.input).run w = (.ok content, w))
    (hproduce : produce o content = (records, .error error)) :
    (perform (workspaceHost input) o).run w =
      (⟨inputRecords o.input ++ records, .error error⟩, w) := by
  rw [StateT.run] at hread
  simp only [perform, StateT.run, bind, StateT.bind, hread, hproduce]
  rfl

theorem perform_unwritten
    (hread : (readInput (workspaceHost input) o.input).run w = (.ok content, w))
    (hproduce : produce o content = (records, .ok made))
    (hwrite : (writeOutput (workspaceHost input) made.text o.output).run w =
      (.error error, after)) :
    (perform (workspaceHost input) o).run w =
      (⟨inputRecords o.input ++ records, .error error⟩, after) := by
  rw [StateT.run] at hread hwrite
  simp only [perform, StateT.run, bind, StateT.bind, hread, hproduce, hwrite]
  rfl

theorem perform_written {text : String}
    (hread : (readInput (workspaceHost input) o.input).run w = (.ok content, w))
    (hproduce : produce o content = (records, .ok made))
    (hwrite : (writeOutput (workspaceHost input) made.text o.output).run w = (.ok text, after)) :
    (perform (workspaceHost input) o).run w =
      (⟨inputRecords o.input ++ records ++ [outputRecord o made], .ok text⟩, after) := by
  rw [StateT.run] at hread hwrite
  simp only [perform, StateT.run, bind, StateT.bind, hread, hproduce, hwrite]
  rfl

end Steps

/-- **All that a run can do.** It fails and changes nothing, or every step has succeeded and
the text has arrived at the output. -/
theorem perform_run (input : ByteArray) (w : Workspace) (o : Options) :
    ∃ report after, (perform (workspaceHost input) o).run w = (report, after) ∧
      ((∃ error, report.result = .error error ∧ after = w) ∨
        ∃ bytes content description text output,
          o.input.Supplies input w bytes ∧ String.fromUTF8? bytes = some content ∧
          Reading.ofString o.stub.category content = .ok description ∧
          Stub.file o.stub description = .ok text ∧
          report.result = .ok output ∧ o.output.Receives w text output after) := by
  -- Step by step: a step that fails ends the run, and only the last one can change a file.
  obtain ⟨source, hread, hsource⟩ := readInput_run input w o.input
  cases source with
  | error error => exact ⟨_, w, perform_unread hread, .inl ⟨error, rfl, rfl⟩⟩
  | ok content =>
    obtain ⟨bytes, hbytes, hcontent⟩ := hsource content rfl
    cases hproduce : produce o content with
    | mk records made =>
      cases made with
      | error error => exact ⟨_, w, perform_unmade hread hproduce, .inl ⟨error, rfl, rfl⟩⟩
      | ok made =>
        obtain ⟨description, hdescription, hfile⟩ := produce_ok hproduce
        obtain ⟨written, after, hwrite, hwritten⟩ := writeOutput_run input w made.text o.output
        -- A write that fails leaves the workspace as it was, which is said by its own lemma.
        rcases hwritten with ⟨error, rfl, rfl⟩ | ⟨output, rfl, hreceived⟩
        · exact ⟨_, after, perform_unwritten hread hproduce hwrite, .inl ⟨error, rfl, rfl⟩⟩
        · exact ⟨_, after, perform_written hread hproduce hwrite,
            .inr ⟨bytes, content, description, made.text, output, hbytes, hcontent,
              hdescription, hfile, rfl, hreceived⟩⟩

/-- The outcome of arguments that ask for a run is that of its report. -/
theorem inWorkspace_of_run {arguments : List String} {given : Given} {input : ByteArray}
    {environment : Option String} {w after : Workspace} {report : Report}
    (hrequest : Request.ofArguments arguments = .run given)
    (hperform : (perform (workspaceHost input) (Options.ofGiven given)).run w =
      (report, after)) :
    inWorkspace arguments input environment w =
      (outcome (.ofRun (Options.ofGiven given).verbose environment) report, after) := by
  rw [StateT.run] at hperform
  rw [inWorkspace, hrequest]
  simp only [answer, StateT.run, bind, StateT.bind]
  rw [hperform]
  rfl

/-- **A successful run.** The bytes of the input spell a text, which describes the category;
the stub file of this category, made as the arguments say, is at the output. One category
decides what is read, what is made and, unless the arguments name an output, where it goes. -/
def Succeeds (given : Given) (input : ByteArray) (w : Workspace) (output : String)
    (after : Workspace) : Prop :=
  let category := given.category.getD "Object"
  let settings : Stub.Settings :=
    ⟨category, given.baseUrl.getD Stub.defaultBaseUrl, ! given.noMeta⟩
  ∃ bytes content description text,
    (Endpoint.ofPath (given.input.getD "api.yaml")).Supplies input w bytes ∧
    String.fromUTF8? bytes = some content ∧
    Reading.ofString category content = .ok description ∧
    Stub.file settings description = .ok text ∧
    (Endpoint.ofPath (given.output.getD (category ++ ".lua"))).Receives w text output after

/-- **A run leaves no trace or has one effect.** If the status is not 0, standard output is
empty and nothing has changed. If it is 0, a question has been answered, or the stub file is
at the output. It is there for every description that can be read, since a category that was
read is never missing afterwards. -/
theorem inWorkspace_effect (arguments : List String) (input : ByteArray)
    (environment : Option String) (w : Workspace) :
    ∃ outcome after, inWorkspace arguments input environment w = (outcome, after) ∧
      (outcome.status ≠ 0 → outcome.output = "" ∧ after = w) ∧
      (outcome.status = 0 →
        (∃ question, Request.ofArguments arguments = .answer question ∧
          outcome.output = question.answer ∧ after = w) ∨
        (∃ given, Request.ofArguments arguments = .run given ∧
          Succeeds given input w outcome.output after)) ∧
      (∀ (settings : Stub.Settings) (content : String) (description : Description),
        Reading.ofString settings.category content = .ok description →
          ∃ text, Stub.file settings description = .ok text) := by
  -- A category that was read is there to be laid out.
  have hreachable : ∀ (settings : Stub.Settings) (content : String) (description : Description),
      Reading.ofString settings.category content = .ok description →
        ∃ text, Stub.file settings description = .ok text := by
    intro settings content description h
    obtain ⟨entries, -, hfile⟩ := file_of_ofString h
    exact ⟨_, hfile⟩
  cases hrequest : Request.ofArguments arguments with
  -- Wrong arguments are reported before anything else is looked at.
  | misuse =>
    refine ⟨⟨2, "", ""⟩, w, ?_, fun _ => ⟨rfl, rfl⟩, nofun, hreachable⟩
    rw [inWorkspace, hrequest]
    rfl
  | answer question =>
    refine ⟨⟨0, question.answer, ""⟩, w, ?_, fun h => absurd rfl h,
      fun _ => .inl ⟨question, rfl, rfl, rfl⟩, hreachable⟩
    rw [inWorkspace, hrequest]
    rfl
  | run given =>
    let o := Options.ofGiven given
    obtain ⟨report, after, hperform, heffect⟩ := perform_run input w o
    refine ⟨_, after, inWorkspace_of_run hrequest hperform, ?_⟩
    -- The records of the run go to standard error, whatever its result is.
    rcases heffect with ⟨error, hresult, rfl⟩ |
      ⟨bytes, content, description, text, output, hbytes, hcontent, hdescription, hfile,
        hresult, hreceived⟩
    · -- A failed run prints nothing on standard output.
      have hfailed : outcome (.ofRun o.verbose environment) report =
          ⟨1, "", Log.Filter.text (.ofRun o.verbose environment) report.records ++ error.text⟩ := by
        rw [outcome, hresult]
      rw [hfailed]
      exact ⟨fun _ => ⟨rfl, rfl⟩, nofun, hreachable⟩
    · -- A run that ends has passed all its steps, and its output is what was received.
      have hended : outcome (.ofRun o.verbose environment) report =
          ⟨0, output, Log.Filter.text (.ofRun o.verbose environment) report.records⟩ := by
        rw [outcome, hresult]
      rw [hended]
      exact ⟨fun h => absurd rfl h, fun _ => .inr ⟨given, rfl, bytes, content, description, text,
        hbytes, hcontent, hdescription, hfile, hreceived⟩, hreachable⟩

end Run
end Command
end ApiStubs
