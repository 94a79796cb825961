import ApiStubs.Proofs.Command.Arguments
import ApiStubs.Proofs.Command.Run

/-!
# Pipes and files

A run that reads a file and writes another does what a run between standard input and standard
output does with the same bytes. They have the same status; the file that is written is what the
pipe prints; and where they fail, they do so for the same causes, of which only the first line
tells where the input came from.

* `Run.inWorkspace_pipe` — this, for all bytes, all other options and all ways to write them.

Arguments are read one after another, but what one of them says does not depend on those before it
(`Request.read_eq_foldlM`). So paths can be put in front of any arguments that give none
(`Request.ofArguments_paths`). From there on the two runs differ in the places that they read from
and write to, and what is between these does not look at either (`Run.produce_spec`).
-/

namespace ApiStubs
namespace Command

/-! ### Arguments say choices -/

namespace Request

/-- What the choices of an argument are followed by: more arguments, its value in the next one, or
an end that is no run. -/
inductive ArgumentEnd : (Given → ArgumentResult) → Prop
  | next : ArgumentEnd .next
  | value (s : Setting) : ArgumentEnd (.value · s)
  | done {request : Request} (h : ∀ g, request ≠ .run g) : ArgumentEnd fun _ => .done request

/-- **An argument is choices and an end**, whatever has been said before. -/
def Says (read : Given → ArgumentResult) : Prop :=
  ∃ (choices : List Choice) (after : Given → ArgumentResult), ArgumentEnd after ∧
    ∀ g, read g = (choices.foldlM Given.add? g).elim (.done .misuse) after

theorem Says.done {request : Request} (h : ∀ g, request ≠ .run g) : Says fun _ => .done request :=
  ⟨[], _, .done h, fun _ => rfl⟩

theorem Says.value (s : Setting) : Says (.value · s) :=
  ⟨[], _, .value s, fun _ => rfl⟩

theorem Says.choice (c : Choice) : Says fun g => .ofGiven? (g.add? c) := by
  refine ⟨[c], _, .next, fun g => ?_⟩
  show ArgumentResult.ofGiven? (g.add? c) = _
  rw [List.foldlM_cons]
  cases g.add? c <;> rfl

theorem says_readLetters (letters : List Char) : Says (readLetters · letters) := by
  have hmisuse : ∀ g, misuse ≠ run g := nofun
  -- By induction on the letters of the argument, of which a switch is the only one that others
  -- follow.
  induction letters with
  | nil => exact ⟨[], _, .next, fun _ => rfl⟩
  | cons letter rest ih =>
    simp only [readLetters]
    cases Flag.ofLetter? letter with
    | none => exact .done hmisuse
    | some flag =>
      cases flag with
      | question q => exact .done nofun
      | setting s =>
        dsimp only
        split
        · -- Nothing is behind the letter, so its value is the next argument.
          exact .value s
        · -- What is behind the letter is its value, with or without an equals sign.
          exact .choice (.value s _)
        · exact .choice (.value s _)
      | switch s =>
        -- The switch is added before the choices of the other letters.
        obtain ⟨choices, after, hend, hrest⟩ := ih
        refine ⟨.on s :: choices, after, hend, fun g => ?_⟩
        dsimp only
        rw [List.foldlM_cons, Given.add?]
        cases g.turnOn? s with
        | none => rfl
        | some g => exact hrest g

theorem says_readName (chars : List Char) : Says (readName · chars) := by
  have hmisuse : ∀ g, misuse ≠ run g := nofun
  simp only [readName]
  cases Flag.ofName? (String.ofList (chars.takeWhile (· != '='))) with
  | none => exact .done hmisuse
  | some flag =>
    -- Whether there is an equals sign decides if the argument can hold a value.
    cases chars.dropWhile (· != '=') with
    | nil =>
      cases flag with
      | setting s => exact .value s
      | switch s => exact .choice (.on s)
      | question q => exact .done nofun
    | cons c value =>
      cases flag with
      | setting s => exact .choice (.value s _)
      | switch s => exact .done hmisuse
      | question q => exact .done hmisuse

theorem says_readArgument (argument : String) : Says (readArgument · argument) := by
  simp only [readArgument]
  split
  · exact says_readName _
  · exact says_readLetters _
  · -- No argument stands alone, without a dash.
    exact .done fun _ => Request.noConfusion

/-- Choices after choices. -/
theorem elim_foldlM_append (g : Given) (choices others : List Choice) (after : Given → Request) :
    ((choices ++ others).foldlM Given.add? g).elim .misuse after =
      (choices.foldlM Given.add? g).elim .misuse
        fun g => (others.foldlM Given.add? g).elim .misuse after := by
  rw [List.foldlM_append]
  cases choices.foldlM Given.add? g <;> rfl

/-- **Arguments are choices and an end**, whatever has been said before. The end is a run with all
that has been said, or another request, which does not depend on that. -/
theorem read_eq_foldlM (arguments : List String) :
    ∃ (choices : List Choice) (after : Given → Request),
      (after = .run ∨ ∃ request, (∀ g, request ≠ .run g) ∧ after = fun _ => request) ∧
      ∀ g, read g arguments = (choices.foldlM Given.add? g).elim .misuse after := by
  have hmisuse : ∀ g : Given, misuse ≠ run g := fun _ => Request.noConfusion
  -- The value of an argument can be in the next one, so two of them can be read in one step.
  induction hlength : arguments.length using Nat.strongRecOn generalizing arguments with
  | ind length ih =>
    cases arguments with
    | nil => exact ⟨[], .run, .inl rfl, fun _ => rfl⟩
    | cons argument rest =>
      rw [List.length_cons] at hlength
      simp only [read]
      -- Two dashes alone end the options, and nothing is allowed behind them.
      by_cases hdashes : argument = "--"
      · simp only [if_pos hdashes]
        cases rest with
        | nil => exact ⟨[], .run, .inl rfl, fun _ => rfl⟩
        | cons _ _ => exact ⟨[], _, .inr ⟨_, hmisuse, rfl⟩, fun _ => rfl⟩
      -- What the argument says is fixed, so that only its end decides how the rest is read.
      obtain ⟨choices, after, hend, hargument⟩ := says_readArgument argument
      simp only [if_neg hdashes, hargument]
      cases hend with
      | next =>
        -- All of the argument has been read, and its choices come first.
        obtain ⟨others, after, hafter, hrest⟩ := ih rest.length (by omega) rest rfl
        refine ⟨choices ++ others, after, hafter, fun g => ?_⟩
        rw [elim_foldlM_append]
        cases choices.foldlM Given.add? g with
        | none => rfl
        | some g => exact hrest g
      | @done request hrequest =>
        refine ⟨choices, fun _ => request, .inr ⟨_, hrequest, rfl⟩, fun g => ?_⟩
        cases choices.foldlM Given.add? g <;> rfl
      | value s =>
        -- The value is in the next argument, if there is one that can be a value.
        cases rest with
        | nil =>
          refine ⟨choices, fun _ => misuse, .inr ⟨_, hmisuse, rfl⟩, fun g => ?_⟩
          cases choices.foldlM Given.add? g <;> rfl
        | cons v rest =>
          by_cases hv : isValue v = true
          · rw [List.length_cons] at hlength
            obtain ⟨others, after, hafter, hrest⟩ := ih rest.length (by omega) rest rfl
            refine ⟨choices ++ .value s v :: others, after, hafter, fun g => ?_⟩
            rw [elim_foldlM_append]
            cases choices.foldlM Given.add? g with
            | none => rfl
            | some g =>
              simp only [Option.elim_some, hv, if_true, List.foldlM_cons, Given.add?]
              cases g.assign? s v with
              | none => rfl
              | some g => exact hrest g
          · refine ⟨choices, fun _ => misuse, .inr ⟨_, hmisuse, rfl⟩, fun g => ?_⟩
            cases choices.foldlM Given.add? g with
            | none => rfl
            | some g => simp [hv]

/-- Arguments that ask for a run are choices, all of which can be added. -/
theorem exists_choices_of_run {arguments : List String} {g : Given}
    (h : ofArguments arguments = .run g) :
    ∃ choices : List Choice, choices.foldlM Given.add? .nothing = some g ∧
      ∀ g', read g' arguments = (choices.foldlM Given.add? g').elim .misuse .run := by
  obtain ⟨choices, after, hafter, hread⟩ := read_eq_foldlM arguments
  rw [ofArguments, hread] at h
  -- If one choice could not be added, the arguments would be wrong.
  cases hsaid : choices.foldlM Given.add? .nothing with
  | none =>
    rw [hsaid] at h
    cases h
  | some g' =>
    rw [hsaid] at h
    -- The end can be no other request, for no such request is a run.
    rcases hafter with rfl | ⟨request, hrequest, rfl⟩
    · cases h
      exact ⟨choices, hsaid, hread⟩
    · exact absurd h (hrequest g)

/-- **Paths can be put in front** of arguments that give none. -/
theorem ofArguments_paths {arguments : List String} {g : Given} {input output : String}
    (h : ofArguments arguments = .run g) (hinput : g.input = none) (houtput : g.output = none)
    (hin : input ≠ "") (hinApart : StandsApart input) (hout : output ≠ "")
    (houtApart : StandsApart output) :
    ofArguments (["-i", input, "-o", output] ++ arguments) =
      .run { g with input := some input, output := some output } := by
  obtain ⟨choices, hsaid, hread⟩ := exists_choices_of_run h
  let paths : List Choice := [.value .input input, .value .output output]
  have hpaths : paths.foldlM Given.add? g =
      some { g with input := some input, output := some output } := by
    simp [paths, Given.add?, Given.assign?, hinput, houtput, hin, hout]
  have hspells : List.Forall₂ Choice.Spells paths [["-i", input], ["-o", output]] :=
    .cons (.letterApart rfl hinApart) (.cons (.letterApart rfl houtApart) .nil)
  have hne : ∀ s v, Choice.value s v ∈ paths → v ≠ "" := by
    simp only [paths, List.mem_cons, List.not_mem_nil, or_false]
    rintro s v (heq | heq) <;> cases heq
    · exact hin
    · exact hout
  -- The paths are read first, but may as well be added last, where nothing has given them.
  calc ofArguments (["-i", input, "-o", output] ++ arguments)
      = ((paths ++ choices).foldlM Given.add? .nothing).elim .misuse .run := by
        show read .nothing ([["-i", input], ["-o", output]].flatten ++ arguments) = _
        rw [read_flatten_spells hspells hne, elim_foldlM_append]
        simp only [hread]
    _ = ((choices ++ paths).foldlM Given.add? .nothing).elim .misuse .run := by
        rw [Given.foldlM_add?_perm _ List.perm_append_comm]
    _ = .run { g with input := some input, output := some output } := by
        rw [List.foldlM_append, hsaid, Option.bind_eq_bind, Option.bind_some, hpaths]
        rfl

/-- A long name with a value behind it can also give an empty value. -/
theorem read_nameEquals (g : Given) (s : Setting) (v : String) (rest : List String) :
    read g (("--" ++ s.name ++ "=" ++ v) :: rest) =
      (g.assign? s v).elim .misuse (read · rest) := by
  rw [nameEquals_eq_ofList]
  refine read_of_ofGiven? rest (name_ne_end (by simp)) ?_
  rw [readArgument_name, readName_settingEquals]

theorem read_switchName (g : Given) (s : Switch) (rest : List String) :
    read g (("--" ++ s.name) :: rest) = (g.turnOn? s).elim .misuse (read · rest) := by
  rw [name_eq_ofList]
  refine read_of_ofGiven? rest (name_ne_end (switchName_ne_nil s)) ?_
  rw [readArgument_name, readName_switch]

/-- **Options that give no paths can be written**, whatever their values are. -/
theorem exists_ofArguments_eq (category baseUrl : Option String) (noMeta verbose : Bool) :
    ∃ arguments, ofArguments arguments =
      .run ⟨none, none, category, baseUrl, noMeta, verbose⟩ := by
  -- One argument for each option that has a value, which is written behind an equals sign so that
  -- any value can be given.
  obtain ⟨first, hfirst⟩ : ∃ first, ∀ rest, read .nothing (first ++ rest) =
      read ⟨none, none, category, none, false, false⟩ rest := by
    cases category with
    | none => exact ⟨[], fun _ => rfl⟩
    | some v => exact ⟨["--category=" ++ v], read_nameEquals .nothing .category v⟩
  obtain ⟨second, hsecond⟩ : ∃ second, ∀ rest,
      read ⟨none, none, category, none, false, false⟩ (second ++ rest) =
        read ⟨none, none, category, baseUrl, false, false⟩ rest := by
    cases baseUrl with
    | none => exact ⟨[], fun _ => rfl⟩
    | some v => exact ⟨["--base-url=" ++ v], read_nameEquals _ .baseUrl v⟩
  obtain ⟨third, hthird⟩ : ∃ third, ∀ rest,
      read ⟨none, none, category, baseUrl, false, false⟩ (third ++ rest) =
        read ⟨none, none, category, baseUrl, noMeta, false⟩ rest := by
    cases noMeta with
    | false => exact ⟨[], fun _ => rfl⟩
    | true => exact ⟨["--no-meta"], read_switchName _ .noMeta⟩
  obtain ⟨fourth, hfourth⟩ : ∃ fourth, ∀ rest,
      read ⟨none, none, category, baseUrl, noMeta, false⟩ (fourth ++ rest) =
        read ⟨none, none, category, baseUrl, noMeta, verbose⟩ rest := by
    cases verbose with
    | false => exact ⟨[], fun _ => rfl⟩
    | true => exact ⟨["--verbose"], read_switchName _ .verbose⟩
  refine ⟨first ++ (second ++ (third ++ (fourth ++ []))), ?_⟩
  rw [ofArguments, hfirst, hsecond, hthird, hfourth]
  rfl

end Request

/-! ### Two places for the same bytes -/

theorem Endpoint.ofPath_of_head {path : String} (h : path.toList.head? ≠ some '-') :
    Endpoint.ofPath path = .file path := by
  have hpath : path ≠ "-" := by
    rintro rfl
    exact h rfl
  rw [ofPath, if_neg hpath]

namespace RunError

/-- An error as it is shown, from what failed and why. -/
def shown (headline : String) (causes : List String) : String :=
  "Error: " ++ headline ++
    (match causes with
      | [] => ""
      | causes => "\n\nCaused by:\n" ++ "\n".intercalate (causeLines causes)) ++ "\n"

theorem text_eq_shown (error : RunError) : error.text = shown error.headline error.causes := rfl

end RunError

namespace Run

/-- **What is made of a text** does not depend on where it came from, nor on where it goes. Only
an error names the input. -/
theorem produce_spec (settings : Stub.Settings) (content : String) :
    ∃ records,
      (∃ error, Reading.ofString settings.category content = .error error ∧
        ∀ o : Options, o.stub = settings →
          produce o content = (records, .error (.load o.input error))) ∨
      (∃ description made, Reading.ofString settings.category content = .ok description ∧
        Stub.file settings description = .ok made.text ∧
        ∀ o : Options, o.stub = settings → produce o content = (records, .ok made)) := by
  -- The options are only looked at for the settings of the stub, once the items are known.
  cases hlist : Reading.entriesOfString settings.category content with
  | error error =>
    -- The text itself is wrong, so there is nothing to keep records of.
    refine ⟨[], .inl ⟨error, by rw [Reading.ofString, hlist]; rfl, ?_⟩⟩
    rintro o rfl
    unfold produce
    dsimp only
    rw [hlist]
  | ok list =>
    have hstring : Reading.ofString settings.category content =
        Reading.describe settings.category list := by
      rw [Reading.ofString, hlist]
      rfl
    cases hdescription : Reading.describe settings.category list with
    | error error =>
      -- An item is malformed, which ends the run behind the records of loading.
      refine ⟨loadRecords settings.category list, .inl ⟨error, hstring.trans hdescription, ?_⟩⟩
      rintro o rfl
      unfold produce
      dsimp only
      rw [hlist]
      dsimp only
      rw [hdescription]
    | ok description =>
      -- What has been read has the category, so it can be laid out.
      obtain ⟨entries, -, hfile⟩ := file_of_ofString (hstring.trans hdescription)
      obtain ⟨made, hartifact, htext⟩ : ∃ made, artifact settings description = .ok made ∧
          made.text = Stub.text settings entries := by
        rw [artifact, hfile]
        exact ⟨_, rfl, rfl⟩
      let records : List Log.Record := list.entries.map (.rendering ·.name)
      refine ⟨loadRecords settings.category list ++ records, .inr ?_⟩
      refine ⟨description, made, hstring.trans hdescription, by rw [hfile, htext], ?_⟩
      rintro o rfl
      unfold produce
      dsimp only
      rw [hlist]
      dsimp only
      rw [hdescription]
      dsimp only
      rw [hartifact]

/-- **Why bytes give no stub file**: what could not be done with them, what standard input is called
then, and the causes. -/
inductive Refused (category : String) (bytes : ByteArray) (task name : String)
    (causes : List String) : Prop
  | undecoded (h : String.fromUTF8? bytes = none) (htask : task = "read") (hname : name = "stdin")
      (hcauses : causes = ["stream did not contain valid UTF-8"])
  | unloaded (content : String) (error : LoadError) (h : String.fromUTF8? bytes = some content)
      (herror : Reading.ofString category content = .error error) (htask : task = "load")
      (hname : name = "-") (hcauses : causes = error.chain)

theorem readInput_file (input : ByteArray) {w : Workspace} {path : String} {bytes : ByteArray}
    (h : w.read path = .ok bytes) :
    (readInput (workspaceHost input) (.file path)).run w =
      ((decode bytes).mapError (.readFile path), w) := by
  have hhost : (workspaceHost input).readFile path w = (.ok bytes, w) := by
    simp only [workspaceHost, h]
  simp only [readInput, StateT.run, bind, StateT.bind, hhost]
  rfl

/-- **A pipe does what a run between files does**, with the same bytes and the same other options,
if the one file can be read and the other can be opened. Either both succeed, and the file is what
the pipe prints. Or both fail for the same causes, and nothing is written. -/
theorem inWorkspace_pipe {source target : String} {bytes : ByteArray} {w : Workspace}
    (hsource : source ≠ "") (hsourceDash : source.toList.head? ≠ some '-')
    (htarget : target ≠ "") (htargetDash : target.toList.head? ≠ some '-')
    (hread : w.read source = .ok bytes) (hopen : ∃ after, w.write target .empty = .ok after)
    (category baseUrl : Option String) (noMeta verbose : Bool) :
    let given : Given := ⟨none, none, category, baseUrl, noMeta, verbose⟩
    let settings : Stub.Settings :=
      ⟨category.getD "Object", baseUrl.getD Stub.defaultBaseUrl, ! noMeta⟩
    (∃ options, Request.ofArguments options = .run given) ∧
    ∀ options, Request.ofArguments options = .run given →
      ∀ (input : ByteArray) (environment : Option String) (w' : Workspace),
        ∃ file pipe after,
          inWorkspace (["-i", source, "-o", target] ++ options) input environment w =
            (file, after) ∧
          inWorkspace (["-i", "-", "-o", "-"] ++ options) bytes environment w' = (pipe, w') ∧
          file.status = pipe.status ∧
          ((pipe.status = 0 ∧ file.output = "" ∧ w.Replaced target pipe.output.toUTF8 after ∧
              ∃ content description, String.fromUTF8? bytes = some content ∧
                Reading.ofString settings.category content = .ok description ∧
                Stub.file settings description = .ok pipe.output) ∨
            (pipe.status = 1 ∧ after = w ∧ file.output = "" ∧ pipe.output = "" ∧
              ∃ records task name causes, Refused settings.category bytes task name causes ∧
                file.errors = (Log.Filter.ofRun verbose environment).text
                    (.reading source :: records) ++
                  RunError.shown ("failed to " ++ task ++ " " ++ source) causes ∧
                pipe.errors = (Log.Filter.ofRun verbose environment).text records ++
                  RunError.shown ("failed to " ++ task ++ " " ++ name) causes)) := by
  intro given settings
  refine ⟨Request.exists_ofArguments_eq category baseUrl noMeta verbose, ?_⟩
  intro options hoptions input environment w'
  have hfile : Request.ofArguments (["-i", source, "-o", target] ++ options) =
      .run { given with input := some source, output := some target } :=
    Request.ofArguments_paths hoptions rfl rfl hsource (.inr hsourceDash) htarget (.inr htargetDash)
  have hpipe : Request.ofArguments (["-i", "-", "-o", "-"] ++ options) =
      .run { given with input := some "-", output := some "-" } :=
    Request.ofArguments_paths hoptions rfl rfl (by decide) (.inl rfl) (by decide) (.inl rfl)
  -- Both runs have the same settings, and differ in their endpoints.
  let files := Options.ofGiven { given with input := some source, output := some target }
  let pipes := Options.ofGiven { given with input := some "-", output := some "-" }
  have hinput : files.input = .file source := Endpoint.ofPath_of_head hsourceDash
  have houtput : files.output = .file target := Endpoint.ofPath_of_head htargetDash
  have hfileRead : (readInput (workspaceHost input) files.input).run w =
      ((decode bytes).mapError (.readFile source), w) := by
    rw [hinput, readInput_file input hread]
  have hpipeRead : (readInput (workspaceHost bytes) pipes.input).run w' =
      ((decode bytes).mapError .readStandard, w') := rfl
  cases hdecode : String.fromUTF8? bytes with
  | none =>
    -- The bytes are no text, and each run says which input that was.
    have hfault : decode bytes = .error .notUtf8 := by rw [decode, hdecode]
    rw [hfault] at hfileRead hpipeRead
    refine ⟨_, _, w, inWorkspace_of_run hfile (perform_unread hfileRead),
      inWorkspace_of_run hpipe (perform_unread hpipeRead), rfl,
      .inr ⟨rfl, rfl, rfl, rfl, [], _, _, _, .undecoded hdecode rfl rfl rfl, ?_, ?_⟩⟩
    · rw [hinput]
      exact congrArg (_ ++ ·) (RunError.text_eq_shown (.readFile source .notUtf8))
    · exact congrArg (_ ++ ·) (RunError.text_eq_shown (.readStandard .notUtf8))
  | some content =>
    have htext : decode bytes = .ok content := by rw [decode, hdecode]
    rw [htext] at hfileRead hpipeRead
    obtain ⟨records, ⟨error, herror, hproduce⟩ |
      ⟨description, made, hdescription, hmade, hproduce⟩⟩ := produce_spec settings content
    · -- The text is refused, with the same records and the same error.
      refine ⟨_, _, w, inWorkspace_of_run hfile (perform_unmade hfileRead (hproduce files rfl)),
        inWorkspace_of_run hpipe (perform_unmade hpipeRead (hproduce pipes rfl)), rfl,
        .inr ⟨rfl, rfl, rfl, rfl, records, _, _, _,
          .unloaded content error hdecode herror rfl rfl rfl, ?_, ?_⟩⟩
      · rw [hinput]
        exact congrArg (_ ++ ·) (RunError.text_eq_shown (.load (.file source) error))
      · exact congrArg (_ ++ ·) (RunError.text_eq_shown (.load .standard error))
    · -- The same stub file is made. One run prints it, and the other can write it, as it could
      -- have written nothing.
      obtain ⟨opened, hopen⟩ := hopen
      obtain ⟨after, hwrite⟩ := Workspace.exists_write hopen made.text.toUTF8
      have hfileWrite : (writeOutput (workspaceHost input) made.text files.output).run w =
          (.ok "", after) := by
        rw [houtput, writeOutput_file input hwrite]
      have hpipeWrite : (writeOutput (workspaceHost bytes) made.text pipes.output).run w' =
          (.ok made.text, w') := rfl
      exact ⟨_, _, after,
        inWorkspace_of_run hfile (perform_written hfileRead (hproduce files rfl) hfileWrite),
        inWorkspace_of_run hpipe (perform_written hpipeRead (hproduce pipes rfl) hpipeWrite), rfl,
        .inl ⟨rfl, rfl, Workspace.replaced_of_write hwrite, content, description, rfl,
          hdescription, hmade⟩⟩

/-- Bytes that spell no text are refused either way, and a previous output stays. -/
theorem inWorkspace_pipe_undecoded :
    let bytes : ByteArray := ⟨#[0xff]⟩
    let w : Workspace := ⟨[], [(⟨.start, ["a.yaml"]⟩, bytes), (⟨.start, ["b.lua"]⟩, .empty)]⟩
    w.read "a.yaml" = .ok bytes ∧ (∃ after, w.write "b.lua" .empty = .ok after) ∧
    ∃ file pipe log log',
      inWorkspace ["-i", "a.yaml", "-o", "b.lua", "--no-meta"] .empty none w = (file, w) ∧
        inWorkspace ["-i", "-", "-o", "-", "--no-meta"] bytes none ⟨[], []⟩ = (pipe, ⟨[], []⟩) ∧
        file.status = 1 ∧ pipe.status = 1 ∧
        file.errors = log ++ ("Error: failed to read a.yaml\n\n" ++
          "Caused by:\n    stream did not contain valid UTF-8\n") ∧
        pipe.errors = log' ++ ("Error: failed to read stdin\n\n" ++
          "Caused by:\n    stream did not contain valid UTF-8\n") := by
  intro bytes w
  -- The bytes are no text, which leaves one of the two ways in which a run is refused.
  have hundecoded : String.fromUTF8? bytes = none := by decide
  have hread : w.read "a.yaml" = .ok bytes := by rfl
  have hopen : ∃ after, w.write "b.lua" .empty = .ok after := ⟨_, rfl⟩
  refine ⟨hread, hopen, ?_⟩
  obtain ⟨file, pipe, after, hfile, hpipe, hstatus, hcases⟩ :=
    (@inWorkspace_pipe "a.yaml" "b.lua" bytes w (by decide) (by decide) (by decide) (by decide)
      hread hopen none none true false).2 ["--no-meta"] rfl .empty none ⟨[], []⟩
  rcases hcases with ⟨-, -, -, content, -, hcontent, -⟩ |
    ⟨hone, rfl, -, -, records, task, name, causes, hrefused, hfileErrors, hpipeErrors⟩
  · rw [hundecoded] at hcontent
    cases hcontent
  · rcases hrefused with ⟨-, rfl, rfl, rfl⟩ | ⟨_, _, hcontent, -, -, -, -⟩
    · exact ⟨file, pipe, _, _, hfile, hpipe, hstatus.trans hone, hone, hfileErrors, hpipeErrors⟩
    · rw [hundecoded] at hcontent
      cases hcontent

end Run
end Command
end ApiStubs
