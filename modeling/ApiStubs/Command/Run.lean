import ApiStubs.Command.Options
import ApiStubs.Command.Workspace
import ApiStubs.Log.Filter
import ApiStubs.Reading

/-!
# Runs

A run reads a description, makes the stub file for one category in memory, and writes it.
Nothing is written before all else has succeeded.

* `Run.produce` is the part in the middle: from the text of a description to that of the
  stub file, with the records on the way.
* `Run.perform` is a run on a `Host`, which reads and writes.
* `Run.answer` is what some arguments ask for, on a host: a run, or an answer.
* `Run.inWorkspace` is that on files and directories that are a value.

A failed run has status 1 and ends with the error and what caused it; several causes are
numbered. Wrong arguments have status 2.
-/

namespace ApiStubs
namespace Command

open Log (Record Filter)

/-- Why a run failed. -/
inductive RunError where
  | readFile (path : String) (fault : FileFault)
  | readStandard (fault : FileFault)
  | load (input : Endpoint) (error : LoadError)
  | stub (failure : Stub.Failure)
  | writeFile (path : String) (fault : FileFault)

namespace RunError

/-- What failed. -/
def headline : RunError → String
  | readFile path _ => "failed to read " ++ path
  | readStandard _ => "failed to read stdin"
  | load input _ => "failed to load " ++ input.name
  | stub failure => failure.message
  | writeFile path _ => "failed to write " ++ path

/-- Why, from the nearest cause to the last one. -/
def causes : RunError → List String
  | readFile _ fault => [fault.message]
  | readStandard fault => [fault.message]
  | load _ error => error.chain
  | stub _ => []
  | writeFile _ fault => [fault.message]

/-- A cause behind a label, with its other lines indented. -/
def indented (label margin cause : String) : String :=
  label ++ ("\n" ++ margin).intercalate (Text.lines cause)

/-- Causes with their numbers, from `number` on. -/
def numbered (number : Nat) : List String → List String
  | [] => []
  | cause :: rest =>
    indented ("    " ++ toString number ++ ": ") "       " cause :: numbered (number + 1) rest

/-- Causes as they are shown. -/
def causeLines : List String → List String
  | [cause] => [indented "    " "    " cause]
  | causes => numbered 0 causes

/-- An error as it is shown. -/
def text (error : RunError) : String :=
  "Error: " ++ error.headline ++
    (match error.causes with
      | [] => ""
      | causes => "\n\nCaused by:\n" ++ "\n".intercalate (causeLines causes)) ++ "\n"

end RunError

/-- Something that reads and writes. -/
structure Host (m : Type → Type) where
  readStandard : m ByteArray
  readFile : String → m (Except FileFault ByteArray)
  writeFile : String → String → m (Except FileFault Unit)

/-- What a run has done: its records, and what it has for standard output or why it
failed. -/
structure Report where
  records : List Record
  result : Except RunError String

namespace Run

/-! ### From a description to a stub file -/

/-- The records about entries that are degraded. -/
def irregularities (entries : List Entry) : List Record :=
  entries.filterMap fun entry =>
    match entry with
    | .degraded signature raw => some (.irregular signature.name raw)
    | _ => none

/-- The records of loading a category. -/
def loadRecords (category : String) (list : EntryList) : List Record :=
  irregularities list.entries ++
    if list.fault.isNone then [.loaded category list.entries.length] else []

/-- A made stub file, and how many functions it has. -/
structure Artifact where
  text : String
  functions : Nat
  deriving DecidableEq, Repr

/-- Makes the stub file of a description. -/
def artifact (stub : Stub.Settings) (description : Description) :
    Except RunError Artifact :=
  match Stub.file stub description with
  | .error failure => .error (.stub failure)
  | .ok text =>
    .ok ⟨text, ((description.category? stub.category).elim 0 List.length)⟩

/-- Makes a stub file from the text of a description, with the records of that. -/
def produce (o : Options) (content : String) : List Record × Except RunError Artifact :=
  let category := o.stub.category
  match Reading.entriesOfString category content with
  | .error error => ([], .error (.load o.input error))
  | .ok list =>
    match Reading.describe category list with
    | .error error => (loadRecords category list, .error (.load o.input error))
    | .ok description =>
      (loadRecords category list ++ list.entries.map (.rendering ·.name),
        artifact o.stub description)

/-! ### Reading and writing -/

/-- The text that some bytes spell. -/
def decode (bytes : ByteArray) : Except FileFault String :=
  match String.fromUTF8? bytes with
  | some text => .ok text
  | none => .error .notUtf8

/-- The record about reading an input. -/
def inputRecords : Endpoint → List Record
  | .standard => []
  | .file path => [.reading path]

/-- Reads the input. -/
def readInput {m : Type → Type} [Monad m] (host : Host m) :
    Endpoint → m (Except RunError String)
  | .standard => do
    let bytes ← host.readStandard
    return (decode bytes).mapError .readStandard
  | .file path => do
    let bytes ← host.readFile path
    return (bytes.bind decode).mapError (.readFile path)

/-- Writes the output, to a file or as what is left for standard output. -/
def writeOutput {m : Type → Type} [Monad m] (host : Host m) (text : String) :
    Endpoint → m (Except RunError String)
  | .standard => return .ok text
  | .file path => do
    let written ← host.writeFile path text
    return (written.mapError (.writeFile path)).map fun _ => ""

/-- The record about a finished run. -/
def outputRecord (o : Options) (made : Artifact) : Record :=
  .written o.stub.category made.functions o.output.name

/-- Performs a run. -/
def perform {m : Type → Type} [Monad m] (host : Host m) (o : Options) : m Report := do
  let before := inputRecords o.input
  match ← readInput host o.input with
  | .error error => return ⟨before, .error error⟩
  | .ok content =>
    match produce o content with
    | (records, .error error) => return ⟨before ++ records, .error error⟩
    | (records, .ok made) =>
      -- From here on nothing can fail but the writing itself.
      match ← writeOutput host made.text o.output with
      | .error error => return ⟨before ++ records, .error error⟩
      | .ok text => return ⟨before ++ records ++ [outputRecord o made], .ok text⟩

/-! ### Whole runs -/

/-- What can be seen of a run. -/
structure Outcome where
  status : Nat
  output : String
  errors : String

/-- What can be seen of a run that has ended, with its records filtered. -/
def outcome (filter : Filter) (report : Report) : Outcome :=
  let log := filter.text report.records
  match report.result with
  | .ok text => ⟨0, text, log⟩
  | .error error => ⟨1, "", log ++ error.text⟩

/-- Answers a request on a host. `environment` asks for records to be shown, if it is
set. -/
def answer {m : Type → Type} [Monad m] (host : Host m) (environment : Option String) :
    Request → m Outcome
  | .misuse => return ⟨2, "", ""⟩
  | .answer question => return ⟨0, question.answer, ""⟩
  | .run given => do
    let o := Options.ofGiven given
    let report ← perform host o
    return outcome (.ofRun o.verbose environment) report

/-- A host on files and directories that are a value, with the bytes of standard input. -/
def workspaceHost (input : ByteArray) : Host (StateM Workspace) where
  readStandard := pure input
  readFile path := fun w => (w.read path, w)
  writeFile path text := fun w =>
    match w.write path text.toUTF8 with
    | .error fault => (.error fault, w)
    | .ok after => (.ok (), after)

/-- A run from arguments in a workspace, and the workspace after it. -/
def inWorkspace (arguments : List String) (input : ByteArray) (environment : Option String)
    (w : Workspace) : Outcome × Workspace :=
  (answer (workspaceHost input) environment (.ofArguments arguments)).run w

end Run
end Command
end ApiStubs
