import ApiStubs.Command.Run
import Mathlib.Data.List.Forall2

/-!
# Arguments and what they say

What arguments say can be written in many ways:

* `Choice.Spells` — each option in several spellings, of one argument or of two;
* `Given.Writes` — the options in any order;
* `Given.CompletedBy` — what is left out written as its default.

All of these are understood alike (`Request.ofArguments_of_writes`), so that a run depends on
nothing but the options (`Run.inWorkspace_eq_of_writes`).

The proof reads one spelling at a time (`Request.read_spells`). What has been read so far does
not depend on the order, because two choices can be added in either order
(`Given.add?_comm`).
-/

namespace ApiStubs
namespace Command

/-! ### Spellings -/

namespace Setting

/-- The long name of an option. -/
def name : Setting → String
  | input => "input"
  | output => "output"
  | category => "category"
  | baseUrl => "base-url"

/-- The letter of an option, if it has one. -/
def letter? : Setting → Option Char
  | input => some 'i'
  | output => some 'o'
  | category => some 'c'
  | baseUrl => none

end Setting

namespace Switch

/-- The long name of a switch. -/
def name : Switch → String
  | noMeta => "no-meta"
  | verbose => "verbose"

/-- The letter of a switch, if it has one. -/
def letter? : Switch → Option Char
  | noMeta => none
  | verbose => some 'v'

end Switch

/-- One thing that arguments say: an option has a value, or a switch is on. -/
inductive Choice where
  | value (s : Setting) (v : String)
  | on (s : Switch)
  deriving DecidableEq

/-- Whether a value can have an argument of its own: a dash, or what starts with none. -/
def StandsApart (v : String) : Prop := v = "-" ∨ v.toList.head? ≠ some '-'

/-- **The spellings of a choice**: `-x V`, `-xV`, `-x=V`, `--long V` and `--long=V` for a value,
`-x` and `--long` for a switch. -/
inductive Choice.Spells : Choice → List String → Prop
  | letterApart {s : Setting} {c : Char} {v : String} (hc : s.letter? = some c)
      (hv : StandsApart v) : Spells (value s v) [String.ofList ['-', c], v]
  | letterJoined {s : Setting} {c : Char} {v : String} (hc : s.letter? = some c)
      (hv : v.toList.head? ≠ some '=') : Spells (value s v) [String.ofList ('-' :: c :: v.toList)]
  | letterEquals {s : Setting} {c : Char} {v : String} (hc : s.letter? = some c) :
      Spells (value s v) [String.ofList ('-' :: c :: '=' :: v.toList)]
  | nameApart {s : Setting} {v : String} (hv : StandsApart v) :
      Spells (value s v) ["--" ++ s.name, v]
  | nameEquals {s : Setting} {v : String} : Spells (value s v) ["--" ++ s.name ++ "=" ++ v]
  | switchLetter {s : Switch} {c : Char} (hc : s.letter? = some c) :
      Spells (on s) [String.ofList ['-', c]]
  | switchName {s : Switch} : Spells (on s) ["--" ++ s.name]

namespace Given

/-- The value of an option, if it has one. -/
def value? (g : Given) : Setting → Option String
  | .input => g.input
  | .output => g.output
  | .category => g.category
  | .baseUrl => g.baseUrl

/-- All that is said, in a fixed order. -/
def choices (g : Given) : List Choice :=
  (g.input.map (.value .input)).toList ++ (g.output.map (.value .output)).toList ++
    (g.category.map (.value .category)).toList ++ (g.baseUrl.map (.value .baseUrl)).toList ++
    (if g.noMeta then [.on .noMeta] else []) ++ (if g.verbose then [.on .verbose] else [])

/-- No option has an empty value. -/
def Filled (g : Given) : Prop := ∀ s, g.value? s ≠ some ""

/-- **Arguments that say this**: every choice once, in any order and any spelling. -/
def Writes (g : Given) (arguments : List String) : Prop :=
  ∃ (choices : List Choice) (pieces : List (List String)), choices.Perm g.choices ∧
    List.Forall₂ Choice.Spells choices pieces ∧ arguments = pieces.flatten

/-- The value that an option has when it is left out. The output is named after the category
that counts. -/
def default (g : Given) : Setting → String
  | .input => "api.yaml"
  | .output => g.category.getD "Object" ++ ".lua"
  | .category => "Object"
  | .baseUrl => "https://api.tabletopsimulator.com/lua-in-tabletop-simulator"

/-- **The same with some defaults written out.** Each option has its value, or it has none and
its default is written. -/
structure CompletedBy (g g' : Given) : Prop where
  value : ∀ s, g'.value? s = g.value? s ∨ g.value? s = none ∧ g'.value? s = some (g.default s)
  noMeta : g'.noMeta = g.noMeta
  verbose : g'.verbose = g.verbose

theorem value_mem_choices {g : Given} {s : Setting} {v : String} :
    Choice.value s v ∈ g.choices ↔ g.value? s = some v := by
  cases s <;> simp [choices, value?]

end Given

/-! ### Adding choices -/

namespace Choice

/-- The option or the switch of a choice. -/
def flag : Choice → Flag
  | value s _ => .setting s
  | on s => .switch s

/-- Whether a choice is a path without characters. -/
def isEmptyPath : Choice → Bool
  | value .input v => v.isEmpty
  | value .output v => v.isEmpty
  | _ => false

end Choice

namespace Given

variable (g : Given)

/-- Whether something has been said about an option or a switch. -/
def has : Flag → Bool
  | .setting .input => g.input.isSome
  | .setting .output => g.output.isSome
  | .setting .category => g.category.isSome
  | .setting .baseUrl => g.baseUrl.isSome
  | .switch .noMeta => g.noMeta
  | .switch .verbose => g.verbose
  | .question _ => false

/-- What has been said, with one more choice. -/
def plus : Choice → Given
  | .value .input v => { g with input := some v }
  | .value .output v => { g with output := some v }
  | .value .category v => { g with category := some v }
  | .value .baseUrl v => { g with baseUrl := some v }
  | .on .noMeta => { g with noMeta := true }
  | .on .verbose => { g with verbose := true }

/-- Adds a choice to what has been said. -/
def add? : Choice → Option Given
  | .value s v => g.assign? s v
  | .on s => g.turnOn? s

/-- A choice is refused if one for its option came before, or if it is an empty path. -/
theorem add?_eq (c : Choice) :
    g.add? c = if g.has c.flag || c.isEmptyPath then none else some (g.plus c) := by
  cases c with
  | value s v => cases s <;> simp [add?, assign?, has, plus, Choice.flag, Choice.isEmptyPath]
  | on s => cases s <;> simp [add?, turnOn?, has, plus, Choice.flag, Choice.isEmptyPath]

theorem has_plus (c : Choice) (f : Flag) :
    (g.plus c).has f = (g.has f || decide (c.flag = f)) := by
  -- Option by option, the other ones keep what has been said about them.
  cases c with
  | value s v =>
    cases s <;> rcases f with (_ | _ | _ | _) | (_ | _) | _ <;> simp [has, plus, Choice.flag]
  | on s =>
    cases s <;> rcases f with (_ | _ | _ | _) | (_ | _) | _ <;> simp [has, plus, Choice.flag]

theorem plus_comm {a b : Choice} (h : a.flag ≠ b.flag) :
    (g.plus a).plus b = (g.plus b).plus a := by
  -- Choices for two options write to two fields, and for one option they are excluded.
  cases a with
  | value s v =>
    cases b with
    | value t w => cases s <;> cases t <;> first | rfl | exact absurd rfl h
    | on t => cases s <;> cases t <;> rfl
  | on s =>
    cases b with
    | value t w => cases s <;> cases t <;> rfl
    | on t => cases s <;> cases t <;> rfl

/-- **Choices can be added in either order.** Two for one option are refused either way. -/
theorem add?_comm (a b : Choice) :
    (g.add? a).bind (·.add? b) = (g.add? b).bind (·.add? a) := by
  -- The reasons to refuse the two are the same in either order.
  have hbind : ∀ c d : Choice, (g.add? c).bind (·.add? d) =
      if (g.has c.flag || c.isEmptyPath) || (g.has d.flag || decide (c.flag = d.flag) ||
        d.isEmptyPath) then none else some ((g.plus c).plus d) := by
    intro c d
    rw [add?_eq]
    cases hc : g.has c.flag || c.isEmptyPath with
    | true => rfl
    | false => rw [if_neg Bool.false_ne_true, Option.bind_some, add?_eq, has_plus, Bool.false_or]
  rw [hbind, hbind]
  -- For one option, the second choice is refused, whichever it is.
  by_cases h : a.flag = b.flag
  · simp [h]
  · rw [g.plus_comm h, decide_eq_false h, decide_eq_false (Ne.symm h), Bool.or_comm]
    simp only [Bool.or_false]

/-- The order of choices does not matter. -/
theorem foldlM_add?_perm {choices choices' : List Choice} (h : choices.Perm choices') :
    choices.foldlM add? g = choices'.foldlM add? g := by
  -- By induction on the permutation; only two neighbours that change places need an argument.
  induction h generalizing g with
  | nil => rfl
  | cons c _ ih =>
    rw [List.foldlM_cons, List.foldlM_cons]
    exact Option.bind_congr fun g' _ => ih g'
  | swap a b choices =>
    simp only [List.foldlM_cons, ← bind_assoc]
    -- Adding the two is one step, and what it gives goes on with the others.
    exact congrArg (· >>= fun g => choices.foldlM add? g) (g.add?_comm b a)
  | trans _ _ ih ih' => exact (ih g).trans (ih' g)

/-- A value that is not empty is added where the option has none. -/
theorem foldlM_add?_value (s : Setting) (value : Option String)
    (hs : g.has (.setting s) = false) (hvalue : value ≠ some "") :
    (value.map (Choice.value s)).toList.foldlM add? g =
      some (value.elim g fun v => g.plus (.value s v)) := by
  cases value with
  | none => rfl
  | some v =>
    -- Only paths must not be empty, but no value is here.
    have hpath : (Choice.value s v).isEmptyPath = false := by
      have hne : v ≠ "" := fun heq => hvalue (congrArg some heq)
      cases s <;> simp [Choice.isEmptyPath, hne]
    have hadd : g.add? (.value s v) = some (g.plus (.value s v)) := by
      rw [add?_eq, hpath, Choice.flag, hs]
      rfl
    rw [Option.map_some, Option.toList_some, List.foldlM_cons, hadd]
    rfl

/-- All that is said can be added, starting from nothing. -/
theorem foldlM_add?_choices {g : Given} (h : g.Filled) :
    g.choices.foldlM add? nothing = some g := by
  obtain ⟨input, output, category, baseUrl, noMeta, verbose⟩ := g
  -- Option by option, each of which nothing before it is about.
  have hinput : (input.map (Choice.value .input)).toList.foldlM add? nothing =
      some ⟨input, none, none, none, false, false⟩ := by
    rw [foldlM_add?_value _ .input input rfl (h .input)]
    cases input <;> rfl
  have houtput : (output.map (Choice.value .output)).toList.foldlM add?
      ⟨input, none, none, none, false, false⟩ =
        some ⟨input, output, none, none, false, false⟩ := by
    rw [foldlM_add?_value _ .output output rfl (h .output)]
    cases output <;> rfl
  have hcategory : (category.map (Choice.value .category)).toList.foldlM add?
      ⟨input, output, none, none, false, false⟩ =
        some ⟨input, output, category, none, false, false⟩ := by
    rw [foldlM_add?_value _ .category category rfl (h .category)]
    cases category <;> rfl
  have hbaseUrl : (baseUrl.map (Choice.value .baseUrl)).toList.foldlM add?
      ⟨input, output, category, none, false, false⟩ =
        some ⟨input, output, category, baseUrl, false, false⟩ := by
    rw [foldlM_add?_value _ .baseUrl baseUrl rfl (h .baseUrl)]
    cases baseUrl <;> rfl
  simp only [choices, List.foldlM_append, hinput, houtput, hcategory, hbaseUrl, bind,
    Option.bind_some]
  -- Switches are added last. One that is off is not said at all.
  cases noMeta <;> cases verbose <;> rfl

end Given

/-! ### Reading spellings -/

namespace Request

variable {g : Given}

theorem ofLetter?_letter {s : Setting} {c : Char} (h : s.letter? = some c) :
    Flag.ofLetter? c = some (.setting s) ∧ c ≠ '-' := by
  cases s <;> cases h <;> exact ⟨rfl, by decide⟩

theorem ofLetter?_switchLetter {s : Switch} {c : Char} (h : s.letter? = some c) :
    Flag.ofLetter? c = some (.switch s) ∧ c ≠ '-' := by
  cases s <;> cases h
  exact ⟨rfl, by decide⟩

/-! An argument is a letter with what follows it, or a name with what follows it. -/

theorem readArgument_letter {c : Char} (hc : c ≠ '-') (chars : List Char) :
    readArgument g (String.ofList ('-' :: c :: chars)) = readLetters g (c :: chars) := by
  -- The argument starts with a single dash, as the letter is none.
  rw [readArgument, String.toList_ofList]
  split
  · next heq => simp_all
  · next heq => simp_all
  · next hne => exact absurd rfl (hne _ _)

theorem readArgument_name (chars : List Char) :
    readArgument g (String.ofList ('-' :: '-' :: chars)) = readName g chars := by
  rw [readArgument, String.toList_ofList]
  rfl

theorem name_eq_ofList (name : String) :
    "--" ++ name = String.ofList ('-' :: '-' :: name.toList) := by
  rw [← String.toList_inj]
  simp

theorem nameEquals_eq_ofList (name v : String) :
    "--" ++ name ++ "=" ++ v = String.ofList ('-' :: '-' :: (name.toList ++ '=' :: v.toList)) := by
  rw [← String.toList_inj]
  simp

theorem readName_setting (s : Setting) : readName g s.name.toList = .value g s := by
  cases s <;> rfl

theorem readName_settingEquals (s : Setting) (v : String) :
    readName g (s.name.toList ++ '=' :: v.toList) = .ofGiven? (g.assign? s v) := by
  have hv : String.ofList v.toList = v := String.ofList_toList
  cases s <;> exact congrArg (fun v => ArgumentResult.ofGiven? (g.assign? _ v)) hv

theorem readName_switch (s : Switch) : readName g s.name.toList = .ofGiven? (g.turnOn? s) := by
  cases s <;> rfl

/-- An argument that says all of a choice. -/
theorem read_of_ofGiven? {argument : String} {given : Option Given} (rest : List String)
    (hend : argument ≠ "--") (h : readArgument g argument = .ofGiven? given) :
    read g (argument :: rest) = given.elim .misuse (read · rest) := by
  rw [read, if_neg hend, h]
  cases given <;> rfl

/-- An argument whose value is in the next one. -/
theorem read_of_value {argument v : String} {s : Setting} (rest : List String)
    (hend : argument ≠ "--") (h : readArgument g argument = .value g s) (hv : StandsApart v) :
    read g (argument :: v :: rest) = (g.assign? s v).elim .misuse (read · rest) := by
  -- A dash alone is a value, and so is what starts with none.
  have hvalue : isValue v = true := by
    rcases hv with rfl | hv
    · rfl
    · simp [isValue, hv]
  rw [read, if_neg hend, h]
  simp only [hvalue, if_true]
  cases g.assign? s v <;> rfl

theorem letter_ne_end {c : Char} (hc : c ≠ '-') (chars : List Char) :
    String.ofList ('-' :: c :: chars) ≠ "--" := by
  intro heq
  have hlist := congrArg String.toList heq
  rw [String.toList_ofList] at hlist
  simp_all

theorem name_ne_end {name : List Char} (hname : name ≠ []) :
    String.ofList ('-' :: '-' :: name) ≠ "--" := by
  intro heq
  have hlist := congrArg String.toList heq
  rw [String.toList_ofList] at hlist
  exact hname (by simpa using hlist)

theorem name_ne_nil (s : Setting) : s.name.toList ≠ [] := by
  cases s <;> exact List.cons_ne_nil _ _

theorem switchName_ne_nil (s : Switch) : s.name.toList ≠ [] := by
  cases s <;> exact List.cons_ne_nil _ _

/-- **A spelling adds its choice**, whatever has been read before and whatever follows. -/
theorem read_spells {c : Choice} {pieces : List String} (h : c.Spells pieces)
    (hne : ∀ s v, c = .value s v → v ≠ "") (g : Given) (rest : List String) :
    read g (pieces ++ rest) = (g.add? c).elim .misuse (read · rest) := by
  -- A letter and a name are read by one function each, which finds the option that they stand for.
  cases h with
  | letterApart hc hv =>
    obtain ⟨hletter, hdash⟩ := ofLetter?_letter hc
    refine read_of_value rest (letter_ne_end hdash _) ?_ hv
    rw [readArgument_letter hdash, readLetters, hletter]
  | @letterJoined s c v hc hv =>
    obtain ⟨hletter, hdash⟩ := ofLetter?_letter hc
    refine read_of_ofGiven? rest (letter_ne_end hdash _) ?_
    -- What is behind the letter is read here, since it is in the same argument.
    rw [readArgument_letter hdash, readLetters, hletter]
    dsimp only
    -- What follows the letter is there and starts with no equals sign, so it is the value.
    split
    · next hnil => exact absurd (String.toList_eq_nil_iff.mp hnil) (hne s v rfl)
    · next others hchars => exact absurd (by rw [hchars]; rfl) hv
    · rw [String.ofList_toList]
      rfl
  | letterEquals hc =>
    obtain ⟨hletter, hdash⟩ := ofLetter?_letter hc
    refine read_of_ofGiven? rest (letter_ne_end hdash _) ?_
    rw [readArgument_letter hdash, readLetters, hletter]
    simp only [String.ofList_toList]
    rfl
  | @nameApart s v hv =>
    rw [name_eq_ofList]
    refine read_of_value rest (name_ne_end (name_ne_nil s)) ?_ hv
    rw [readArgument_name, readName_setting]
  | @nameEquals s v =>
    rw [nameEquals_eq_ofList]
    refine read_of_ofGiven? rest (name_ne_end (by simp)) ?_
    rw [readArgument_name, readName_settingEquals]
    rfl
  | switchLetter hc =>
    obtain ⟨hletter, hdash⟩ := ofLetter?_switchLetter hc
    refine read_of_ofGiven? rest (letter_ne_end hdash _) ?_
    rw [readArgument_letter hdash, readLetters, hletter]
    -- A switch takes no value, so nothing of this argument is left.
    dsimp only [Given.add?]
    cases g.turnOn? _ <;> rfl
  | @switchName s =>
    rw [name_eq_ofList]
    refine read_of_ofGiven? rest (name_ne_end (switchName_ne_nil s)) ?_
    rw [readArgument_name, readName_switch]
    rfl

/-- Spellings add their choices one after another, whatever follows. -/
theorem read_flatten_spells {choices : List Choice} {pieces : List (List String)}
    (h : List.Forall₂ Choice.Spells choices pieces)
    (hne : ∀ s v, Choice.value s v ∈ choices → v ≠ "") (g : Given) (rest : List String) :
    read g (pieces.flatten ++ rest) =
      (choices.foldlM Given.add? g).elim .misuse (read · rest) := by
  -- By induction on the choices, for anything said before; the first refusal ends both sides.
  induction h generalizing g with
  | nil => rfl
  | @cons c piece choices pieces hc _ ih =>
    rw [List.flatten_cons, List.foldlM_cons, List.append_assoc,
      read_spells hc (fun s v heq => hne s v (heq ▸ List.mem_cons_self))]
    cases g.add? c with
    | none => rfl
    | some g => exact ih (fun s v hmem => hne s v (List.mem_cons_of_mem c hmem)) g

/-- **What is written is understood.** -/
theorem ofArguments_of_writes {g : Given} {arguments : List String} (hfilled : g.Filled)
    (h : g.Writes arguments) : ofArguments arguments = .run g := by
  obtain ⟨choices, pieces, hperm, hspells, rfl⟩ := h
  -- Every choice has a value that is not empty, also in another order.
  have hne : ∀ s v, Choice.value s v ∈ choices → v ≠ "" :=
    fun s v hmem heq => hfilled s (heq ▸ Given.value_mem_choices.mp (hperm.mem_iff.mp hmem))
  rw [ofArguments, ← List.append_nil pieces.flatten, read_flatten_spells hspells hne,
    Given.foldlM_add?_perm _ hperm, Given.foldlM_add?_choices hfilled]
  rfl

end Request

/-! ### Runs -/

namespace Given

variable {g g' : Given}

theorem default_ne_empty (g : Given) (s : Setting) : g.default s ≠ "" := by
  cases s <;> simp [default]

theorem CompletedBy.filled (h : g.CompletedBy g') (hfilled : g.Filled) : g'.Filled := by
  intro s
  -- A value that is written out is the one given, or a default, and neither is empty.
  rcases h.value s with heq | ⟨-, heq⟩
  · exact heq ▸ hfilled s
  · rw [heq]
    exact fun hempty => g.default_ne_empty s (Option.some.inj hempty)

/-- An option counts with its value or its default, which may be written or left out. -/
theorem CompletedBy.getD_eq (h : g.CompletedBy g') (s : Setting) :
    (g'.value? s).getD (g.default s) = (g.value? s).getD (g.default s) := by
  rcases h.value s with heq | ⟨hnone, heq⟩
  · rw [heq]
  · rw [hnone, heq]
    rfl

/-- **Defaults can be written or left out.** -/
theorem CompletedBy.ofGiven_eq (h : g.CompletedBy g') :
    Options.ofGiven g' = Options.ofGiven g := by
  have hinput : g'.input.getD Options.defaultInput = g.input.getD Options.defaultInput :=
    h.getD_eq .input
  have hcategory : g'.category.getD Options.defaultCategory =
      g.category.getD Options.defaultCategory := h.getD_eq .category
  -- The default of the output is named after the category that counts, which is the same in both.
  have houtput : g'.output.getD (Options.defaultOutput (g.category.getD Options.defaultCategory)) =
      g.output.getD (Options.defaultOutput (g.category.getD Options.defaultCategory)) :=
    h.getD_eq .output
  have hbaseUrl : g'.baseUrl.getD Stub.defaultBaseUrl = g.baseUrl.getD Stub.defaultBaseUrl :=
    h.getD_eq .baseUrl
  simp only [Options.ofGiven, hinput, hcategory, houtput, hbaseUrl, h.noMeta, h.verbose]

end Given

namespace Run

/-- **A run depends only on the options.** Arguments that say the same in any order and any
spelling, and with or without defaults, are understood and do the same: status, standard
output, errors and files. -/
theorem inWorkspace_eq_of_writes {g g₁ g₂ : Given} {arguments₁ arguments₂ : List String}
    (hfilled : g.Filled) (h₁ : g.CompletedBy g₁) (h₂ : g.CompletedBy g₂)
    (hwrites₁ : g₁.Writes arguments₁) (hwrites₂ : g₂.Writes arguments₂) (input : ByteArray)
    (environment : Option String) (w : Workspace) :
    Request.ofArguments arguments₁ = .run g₁ ∧ Request.ofArguments arguments₂ = .run g₂ ∧
      inWorkspace arguments₁ input environment w = inWorkspace arguments₂ input environment w := by
  have hask₁ := Request.ofArguments_of_writes (h₁.filled hfilled) hwrites₁
  have hask₂ := Request.ofArguments_of_writes (h₂.filled hfilled) hwrites₂
  refine ⟨hask₁, hask₂, ?_⟩
  -- Both ask for a run, and it is the one of the same options.
  simp only [inWorkspace, hask₁, hask₂, answer, h₁.ofGiven_eq, h₂.ofGiven_eq]

/-- A category that starts with a dash, and the output that is named after it, once given and once
left out. -/
theorem inWorkspace_spellings :
    let g : Given := ⟨some "-", none, some "-x=", none, true, true⟩
    let g' : Given := { g with output := some "-x=.lua" }
    let arguments := ["-v", "--category=-x=", "-i", "-", "--no-meta"]
    let arguments' := ["--no-meta", "--output=-x=.lua", "-c=-x=", "-i-", "--verbose"]
    g.Filled ∧ g.CompletedBy g ∧ g.CompletedBy g' ∧ g.Writes arguments ∧ g'.Writes arguments' ∧
      inWorkspace arguments .empty none ⟨[], []⟩ = inWorkspace arguments' .empty none ⟨[], []⟩ := by
  intro g g' arguments arguments'
  -- Only the output is left out in the first list, and its default is what the second one gives.
  have hfilled : g.Filled := fun s => by cases s <;> decide
  have hcompleted : g.CompletedBy g := ⟨fun s => .inl rfl, rfl, rfl⟩
  have hcompleted' : g.CompletedBy g' := by
    refine ⟨fun s => ?_, rfl, rfl⟩
    cases s with
    | output => exact .inr ⟨rfl, rfl⟩
    | _ => exact .inl rfl
  have hwrites : g.Writes arguments :=
    ⟨[.on .verbose, .value .category "-x=", .value .input "-", .on .noMeta],
      [["-v"], ["--category=-x="], ["-i", "-"], ["--no-meta"]], by decide,
      .cons (.switchLetter rfl) (.cons .nameEquals (.cons (.letterApart rfl (.inl rfl))
        (.cons .switchName .nil))), rfl⟩
  have hwrites' : g'.Writes arguments' :=
    ⟨[.on .noMeta, .value .output "-x=.lua", .value .category "-x=", .value .input "-",
      .on .verbose],
      [["--no-meta"], ["--output=-x=.lua"], ["-c=-x="], ["-i-"], ["--verbose"]], by decide,
      .cons .switchName (.cons .nameEquals (.cons (.letterEquals rfl)
        (.cons (.letterJoined rfl (by decide)) (.cons .switchName .nil)))), rfl⟩
  exact ⟨hfilled, hcompleted, hcompleted', hwrites, hwrites',
    (inWorkspace_eq_of_writes hfilled hcompleted hcompleted' hwrites hwrites' _ _ _).2.2⟩

end Run
end Command
end ApiStubs
