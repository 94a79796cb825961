import ApiStubs.Proofs.Command.Pipe
import ApiStubs.Proofs.Log.Level

/-!
# Verbosity

How much a run reports about itself has no other effect. With and without the verbose switch, and
for all values of the environment, a run has the same status, the same standard output, the same
files after it and the same error; what differs are the records in front of the error
(`Run.inWorkspace_verbosity`).

* `Request.ofArguments_switch` — a switch in front of arguments that do not give it adds the switch
  to what they ask for, and nothing else.
* `Run.perform_verbose` — a run does not look at how verbose it is. Only its records are filtered.
-/

namespace ApiStubs
namespace Command

open Log (Record Filter Effective)

namespace Given

variable {g g' : Given} {choices : List Choice}

/-- What has been said is what was said before, and the choices since then. -/
theorem has_of_foldlM_add? (h : choices.foldlM add? g = some g') (f : Flag) :
    g'.has f = (g.has f || choices.any fun c => decide (c.flag = f)) := by
  induction choices generalizing g with
  | nil =>
    cases h
    rw [List.any_nil, Bool.or_false]
  | cons c choices ih =>
    rw [List.foldlM_cons, add?_eq] at h
    by_cases hrefused : (g.has c.flag || c.isEmptyPath) = true
    · rw [if_pos hrefused] at h
      cases h
    · rw [if_neg hrefused] at h
      rw [ih h, has_plus, List.any_cons, Bool.or_assoc]

/-- A choice whose option has a value is refused, wherever it stands. -/
theorem foldlM_add?_eq_none {c : Choice} (hc : c ∈ choices) (h : g.has c.flag = true) :
    choices.foldlM add? g = none := by
  rw [foldlM_add?_perm g (List.perm_cons_erase hc), List.foldlM_cons, add?_eq, h]
  rfl

/-- A switch that has not been turned on can be, before or after other choices. -/
theorem foldlM_add?_plus {s : Switch} (h : choices.foldlM add? g = some g')
    (hs : g'.has (.switch s) = false) :
    -- The choice can be moved to the front, where it is refused at once.
    choices.foldlM add? (g.plus (.on s)) = some (g'.plus (.on s)) := by
  have hbefore : g.has (.switch s) = false := by
    have hhas := has_of_foldlM_add? h (.switch s)
    rw [hs] at hhas
    exact (Bool.or_eq_false_iff.mp hhas.symm).1
  have hadd : ∀ g : Given, g.has (.switch s) = false → g.add? (.on s) = some (g.plus (.on s)) := by
    intro g hg
    -- Had the switch been on at first, it would still be on at the end.
    rw [add?_eq, Choice.flag, hg]
    rfl
  calc choices.foldlM add? (g.plus (.on s))
      = (Choice.on s :: choices).foldlM add? g := by
        rw [List.foldlM_cons, hadd g hbefore]
        -- The choices may come in any order, and at the end the switch is still off.
        rfl
    _ = (choices ++ [Choice.on s]).foldlM add? g := by
        rw [foldlM_add?_perm g (List.perm_append_singleton (Choice.on s) choices).symm]
    _ = some (g'.plus (.on s)) := by
        rw [List.foldlM_append, h]
        show [Choice.on s].foldlM add? g' = _
        rw [List.foldlM_cons, hadd g' hs]
        rfl

end Given

/-! ### Arguments with a switch in front -/

namespace Request

/-- **Arguments give a switch** if they are wrong wherever it has been given before. For arguments
that ask for a run, this is that it is on then (`gives_iff`); but they can also give it in front of
a question. -/
def Gives (s : Switch) (arguments : List String) : Prop :=
  ∀ g : Given, g.has (.switch s) = true → read g arguments = .misuse

theorem gives_iff {s : Switch} {arguments : List String} {given : Given}
    (h : ofArguments arguments = .run given) :
    Gives s arguments ↔ given.has (.switch s) = true := by
  obtain ⟨choices, hsaid, hread⟩ := exists_choices_of_run h
  constructor
  · -- If it were off at the end, it could be turned on first, and the arguments would still be
    -- right.
    intro hgives
    by_contra hoff
    rw [Bool.not_eq_true] at hoff
    have hon : (Given.nothing.plus (.on s)).has (.switch s) = true := by
      rw [Given.has_plus]
      simp [Choice.flag]
    have hmisuse := hgives _ hon
    rw [hread, Given.foldlM_add?_plus hsaid hoff] at hmisuse
    cases hmisuse
  · intro hon g hg
    rw [Given.has_of_foldlM_add? hsaid] at hon
    -- Nothing had been said at first, so one of the choices is the switch.
    have hchosen : choices.any (fun c => decide (c.flag = .switch s)) = true := by
      cases s <;> exact hon
    obtain ⟨c, hc, hflag⟩ := List.any_eq_true.mp hchosen
    have hflag := of_decide_eq_true hflag
    rw [hread, Given.foldlM_add?_eq_none hc (hflag ▸ hg)]
    rfl

/-- **A switch in front** of arguments that do not give it is on in the run that they ask for. If
they ask a question, they still ask it. -/
theorem ofArguments_switch {s : Switch} {piece arguments : List String}
    (hpiece : (Choice.on s).Spells piece) (h : ofArguments arguments ≠ .misuse)
    (hnot : ¬ Gives s arguments) :
    (∃ given : Given, given.has (.switch s) = false ∧ ofArguments arguments = .run given ∧
      ofArguments (piece ++ arguments) = .run (given.plus (.on s))) ∨
    ∃ question, ofArguments arguments = .answer question ∧
      ofArguments (piece ++ arguments) = .answer question := by
  have hnothing : Given.nothing.has (.switch s) = false := by cases s <;> rfl
  -- The switch is read in front, since nothing has been said about it.
  have hfront : ofArguments (piece ++ arguments) =
      read (Given.nothing.plus (.on s)) arguments := by
    rw [ofArguments, read_spells hpiece, Given.add?_eq, Choice.flag, hnothing]
    · rfl
    · intro setting text heq
      cases heq
  obtain ⟨choices, after, hafter, hread⟩ := read_eq_foldlM arguments
  -- Somewhere the arguments are right although the switch is on, so it is none of the choices.
  have hothers : ∀ c ∈ choices, c.flag ≠ .switch s := by
    intro c hc hflag
    apply hnot
    intro g hg
    rw [hread, Given.foldlM_add?_eq_none hc (hflag ▸ hg)]
    rfl
  rw [hfront, hread]
  rw [ofArguments, hread] at h ⊢
  cases hsaid : choices.foldlM Given.add? .nothing with
  | none =>
    rw [hsaid] at h
    exact absurd rfl h
  | some given =>
    rw [hsaid] at h
    have hoff : given.has (.switch s) = false := by
      rw [Given.has_of_foldlM_add? hsaid, hnothing, Bool.false_or, List.any_eq_false]
      intro c hc
      simpa using hothers c hc
    rw [Given.foldlM_add?_plus hsaid hoff]
    -- The end of the arguments is the same with the switch and without it: a run, or their
    -- question.
    rcases hafter with rfl | ⟨request, hrequest, rfl⟩
    · exact .inl ⟨given, hoff, rfl, rfl⟩
    · cases request with
      | run g => exact absurd rfl (hrequest g)
      | answer question => exact .inr ⟨question, rfl, rfl⟩
      | misuse => exact absurd rfl h

end Request

/-! ### Runs -/

namespace Run

/-- **A run does not look at how verbose it is.** -/
theorem perform_verbose {m : Type → Type} [Monad m] (host : Host m) (o : Options)
    (verbose : Bool) : perform host { o with verbose := verbose } = perform host o := by
  unfold perform
  rfl

/-- What can be seen of a run that has ended, but for its records. -/
theorem outcome_spec (report : Report) :
    ∃ (status : Nat) (output chain : String),
      (status = 0 ∧ chain = "" ∨ status = 1 ∧ ∃ error : RunError, chain = error.text) ∧
      ∀ filter : Filter,
        outcome filter report = ⟨status, output, filter.text report.records ++ chain⟩ := by
  unfold outcome
  cases report.result with
  | error error => exact ⟨1, "", error.text, .inr ⟨rfl, error, rfl⟩, fun _ => rfl⟩
  | ok text =>
    refine ⟨0, text, "", .inl ⟨rfl, rfl⟩, fun filter => ?_⟩
    rw [String.append_empty]

/-- **Verbosity can only be seen in the records.** Whatever the switch and the environment are,
there is one status, one standard output, one error and one workspace after the run, and the records
that are shown come from one list of them, in front of the error. Of two filters, the one with the
lower levels shows what the other one shows up to these levels. -/
theorem inWorkspace_verbosity {arguments : List String}
    (h : Request.ofArguments arguments ≠ .misuse) (hquiet : ¬ Request.Gives .verbose arguments)
    (input : ByteArray) (w : Workspace) :
    ∃ (status : Nat) (output chain : String) (records : List Record) (after : Workspace),
      (status = 0 ∧ chain = "" ∨ status = 1 ∧ ∃ error : RunError, chain = error.text) ∧
      (∀ (verbose : Bool) (environment : Option String),
        let shown := records.filter (Filter.ofRun verbose environment).shows
        inWorkspace (if verbose then "-v" :: arguments else arguments) input environment w =
          (⟨status, output, String.join (shown.map Record.line) ++ chain⟩, after)) ∧
      (∀ (filter filter' : Filter) (levels levels' : String → Log.Threshold),
        filter.HasLevels levels → filter'.HasLevels levels' →
        (∀ origin, (levels origin).rank ≤ (levels' origin).rank) →
          records.filter filter.shows =
            (records.filter filter'.shows).filter fun r => (levels r.origin).admits r.level) ∧
      ∀ (verbose : Bool) (environment : Option String) (levels : String → Log.Threshold),
        Effective verbose environment levels →
          (Filter.ofRun verbose environment).HasLevels levels := by
  have hmonotone := fun (records : List Record) (filter filter' : Filter)
    (levels levels' : String → Log.Threshold) (hlevels : filter.HasLevels levels)
    (hlevels' : filter'.HasLevels levels') hle => Filter.filter_shows hlevels hlevels' hle records
  have heffective := fun verbose environment levels =>
    @Effective.hasLevels verbose environment levels
  rcases Request.ofArguments_switch (.switchLetter rfl : (Choice.on .verbose).Spells ["-v"]) h
    hquiet with ⟨given, hoff, hask, haskVerbose⟩ | ⟨question, hask, haskVerbose⟩
  · -- One report for all of these runs, of which only the filter differs.
    let o := Options.ofGiven given
    obtain ⟨report, after, hperform, -⟩ := perform_run input w o
    obtain ⟨status, output, chain, hstatus, houtcome⟩ := outcome_spec report
    refine ⟨status, output, chain, report.records, after, hstatus, ?_, hmonotone _, heffective⟩
    intro verbose environment
    cases verbose with
    | false =>
      have hdefault : o.verbose = false := hoff
      show inWorkspace arguments input environment w = _
      rw [inWorkspace_of_run hask hperform, hdefault, houtcome]
      rfl
    | true =>
      have hperform' : (perform (workspaceHost input)
          (Options.ofGiven (given.plus (.on .verbose)))).run w = (report, after) := by
        -- The options are those without the switch, but for being verbose.
        have hoptions : Options.ofGiven (given.plus (.on .verbose)) = { o with verbose := true } :=
          rfl
        rw [hoptions, perform_verbose, hperform]
      show inWorkspace (["-v"] ++ arguments) input environment w = _
      rw [inWorkspace_of_run haskVerbose hperform', houtcome]
      rfl
  · -- A question is answered without a look at the environment, and nothing is reported.
    refine ⟨0, question.answer, "", [], w, .inl ⟨rfl, rfl⟩, ?_, hmonotone _, heffective⟩
    intro verbose environment
    have hanswer : ∀ arguments, Request.ofArguments arguments = .answer question →
        inWorkspace arguments input environment w = (⟨0, question.answer, ""⟩, w) := by
      intro arguments hask
      rw [inWorkspace, hask]
      rfl
    cases verbose with
    | false => exact hanswer arguments hask
    | true => exact hanswer (["-v"] ++ arguments) haskVerbose

/-- A run without a file to read fails in the same words, asked for no records at all and asked for
more of them. -/
theorem inWorkspace_verbosity_notFound :
    let w : Workspace := ⟨[], []⟩
    Request.ofArguments ["-o", "-"] ≠ .misuse ∧ ¬ Request.Gives .verbose ["-o", "-"] ∧
      ∃ (chain : String) (records : List Record),
        inWorkspace ["-o", "-"] .empty (some "off") w = (⟨1, "", chain⟩, w) ∧
        inWorkspace ["-v", "-o", "-"] .empty none w =
          (⟨1, "", (Filter.ofRun true none).text records ++ chain⟩, w) := by
  intro w
  have hask : Request.ofArguments ["-o", "-"] =
      .run ⟨none, some "-", none, none, false, false⟩ := rfl
  have hmisuse : Request.ofArguments ["-o", "-"] ≠ .misuse := nofun
  have hquiet : ¬ Request.Gives .verbose ["-o", "-"] := by
    rw [Request.gives_iff hask]
    exact Bool.false_ne_true
  refine ⟨hmisuse, hquiet, ?_⟩
  obtain ⟨status, output, chain, records, after, -, hrun, hmonotone, heffective⟩ :=
    inWorkspace_verbosity hmisuse hquiet .empty w
  -- The file that is read by default is not there.
  have hperform : (perform (workspaceHost .empty)
      (Options.ofGiven ⟨none, some "-", none, none, false, false⟩)).run w =
        (⟨[.reading "api.yaml"], .error (.readFile "api.yaml" .notFound)⟩, w) := perform_unread rfl
  have hfailed := (hrun false (some "off")).symm.trans (inWorkspace_of_run hask hperform)
  obtain ⟨rfl, rfl, -⟩ := Outcome.mk.inj (Prod.mk.inj hfailed).1
  obtain rfl := (Prod.mk.inj hfailed).2
  have hword : Log.IsWord "off" := by
    refine ⟨⟨'o', ['f', 'f'], rfl, by decide +kernel⟩, ?_⟩
    show ∀ c ∈ ['o', 'f', 'f'], c ∉ [',', '=', '['] ∧ Text.isBlank c = false
    rw [List.forall_mem_cons, List.forall_mem_cons, List.forall_mem_singleton]
    decide
  -- Nothing is shown where the level is off, so that only the error is left.
  have hnone : records.filter (Filter.ofRun false (some "off")).shows = [] := by
    rw [List.filter_eq_nil_iff]
    intro r _
    rw [heffective false _ _ (.level hword rfl) r]
    exact Bool.false_ne_true
  refine ⟨chain, records, ?_, hrun true none⟩
  have hoff := hrun false (some "off")
  rw [hnone] at hoff
  simpa using hoff

end Run
end Command
end ApiStubs
