import ApiStubs.Stub

/-!
# Command line options

Options are given by a long name, `--input api.yaml` or `--input=api.yaml`, or most of
them by a letter, `-i api.yaml`, `-iapi.yaml` or `-i=api.yaml`. Letters without a value
can share a dash with what follows them. A value in an argument of its own does not
start with a dash, unless it is just a dash.

* `Given` has what the arguments say, each option at most once.
* `Request.ofArguments` reads arguments from left to right. The first wrong argument and
  the first question for help or for the version, whichever comes first, end it.
* `Options` are complete: what is not given has its default. The output depends on the
  category for that.
-/

namespace ApiStubs
namespace Command

/-- Where text is read from or written to: standard input and output, or a file. -/
inductive Endpoint where
  | standard
  | file (path : String)
  deriving DecidableEq, Repr

namespace Endpoint

/-- A dash stands for standard input and output. -/
def ofPath (path : String) : Endpoint := if path = "-" then standard else file path

/-- An endpoint as it is named in messages. -/
def name : Endpoint → String
  | standard => "-"
  | file path => path

end Endpoint

/-- The options that have a value. -/
inductive Setting where
  | input
  | output
  | category
  | baseUrl
  deriving DecidableEq, Repr

/-- The options that have none. -/
inductive Switch where
  | noMeta
  | verbose
  deriving DecidableEq, Repr

/-- The questions that are answered instead of a run. -/
inductive Question where
  | help
  | version
  deriving DecidableEq, Repr

/-- What a name or a letter stands for. -/
inductive Flag where
  | setting (s : Setting)
  | switch (s : Switch)
  | question (q : Question)
  deriving DecidableEq, Repr

namespace Flag

/-- What a long name stands for. -/
def ofName? (name : String) : Option Flag :=
  match name with
  | "input" => some (setting .input)
  | "output" => some (setting .output)
  | "category" => some (setting .category)
  | "base-url" => some (setting .baseUrl)
  | "no-meta" => some (switch .noMeta)
  | "verbose" => some (switch .verbose)
  | "help" => some (question .help)
  | "version" => some (question .version)
  | _ => none

/-- What a letter stands for. -/
def ofLetter? : Char → Option Flag
  | 'i' => some (setting .input)
  | 'o' => some (setting .output)
  | 'c' => some (setting .category)
  | 'v' => some (switch .verbose)
  | 'h' => some (question .help)
  | 'V' => some (question .version)
  | _ => none

end Flag

/-- What the arguments say. -/
structure Given where
  input : Option String
  output : Option String
  category : Option String
  baseUrl : Option String
  noMeta : Bool
  verbose : Bool
  deriving DecidableEq, Repr

namespace Given

/-- Nothing said. -/
def nothing : Given := ⟨none, none, none, none, false, false⟩

/-- Gives an option its value. It has none yet, and a path is not empty. -/
def assign? (g : Given) (s : Setting) (value : String) : Option Given :=
  match s with
  | .input =>
    if g.input.isSome || value.isEmpty then none else some { g with input := some value }
  | .output =>
    if g.output.isSome || value.isEmpty then none else some { g with output := some value }
  | .category => if g.category.isSome then none else some { g with category := some value }
  | .baseUrl => if g.baseUrl.isSome then none else some { g with baseUrl := some value }

/-- Turns a switch on, which is not on yet. -/
def turnOn? (g : Given) (s : Switch) : Option Given :=
  match s with
  | .noMeta => if g.noMeta then none else some { g with noMeta := true }
  | .verbose => if g.verbose then none else some { g with verbose := true }

end Given

/-- Complete options. -/
structure Options where
  input : Endpoint
  output : Endpoint
  stub : Stub.Settings
  verbose : Bool
  deriving DecidableEq, Repr

namespace Options

/-- The file that is read by default. -/
def defaultInput : String := "api.yaml"

/-- The category that is written by default. -/
def defaultCategory : String := "Object"

/-- The file that is written by default. -/
def defaultOutput (category : String) : String := category ++ ".lua"

/-- Completes what is given. -/
def ofGiven (g : Given) : Options :=
  let category := g.category.getD defaultCategory
  { input := .ofPath (g.input.getD defaultInput)
    output := .ofPath (g.output.getD (defaultOutput category))
    stub := ⟨category, g.baseUrl.getD Stub.defaultBaseUrl, ! g.noMeta⟩
    verbose := g.verbose }

end Options

/-- What some arguments ask for. -/
inductive Request where
  | run (given : Given)
  | answer (question : Question)
  | misuse
  deriving DecidableEq, Repr

/-- What has been made of an argument: the options so far, or those and one whose value
is in the next argument, or the end of reading. -/
inductive ArgumentResult where
  | next (given : Given)
  | value (given : Given) (s : Setting)
  | done (request : Request)
  deriving DecidableEq, Repr

namespace ArgumentResult

/-- Goes on with options, or ends where they are wrong. -/
def ofGiven? (given : Option Given) : ArgumentResult := given.elim (done .misuse) next

end ArgumentResult

namespace Request

/-- Reads letters after a dash. -/
def readLetters (g : Given) : List Char → ArgumentResult
  | [] => .next g
  | letter :: rest =>
    match Flag.ofLetter? letter with
    | none => .done .misuse
    | some (.question q) => .done (.answer q)
    | some (.switch s) =>
      match g.turnOn? s with
      | none => .done .misuse
      | some g => readLetters g rest
    | some (.setting s) =>
      match rest with
      | [] => .value g s
      | '=' :: value => .ofGiven? (g.assign? s (String.ofList value))
      | value => .ofGiven? (g.assign? s (String.ofList value))

/-- Reads a long name, and a value after an equals sign. -/
def readName (g : Given) (chars : List Char) : ArgumentResult :=
  let name := String.ofList (chars.takeWhile (· != '='))
  match Flag.ofName? name, chars.dropWhile (· != '=') with
  | none, _ => .done .misuse
  | some (.setting s), [] => .value g s
  | some (.setting s), _ :: value => .ofGiven? (g.assign? s (String.ofList value))
  | some (.switch s), [] => .ofGiven? (g.turnOn? s)
  | some (.question q), [] => .done (.answer q)
  | _, _ :: _ => .done .misuse

/-- Reads an argument. Only options are expected. -/
def readArgument (g : Given) (argument : String) : ArgumentResult :=
  match argument.toList with
  | '-' :: '-' :: chars => readName g chars
  | '-' :: letter :: letters => readLetters g (letter :: letters)
  | _ => .done .misuse

/-- Whether an argument can be the value of the option before it. -/
def isValue (argument : String) : Bool :=
  argument == "-" || argument.toList.head? != some '-'

/-- Reads arguments. Two dashes end the options, and nothing else can follow them. -/
def read (g : Given) : List String → Request
  | [] => run g
  | argument :: rest =>
    if argument = "--" then if rest.isEmpty then run g else misuse
    else
      match readArgument g argument with
      | .next g => read g rest
      | .done request => request
      | .value g s =>
        match rest with
        | [] => misuse
        | value :: rest =>
          if isValue value then
            match g.assign? s value with
            | some g => read g rest
            | none => misuse
          else misuse

/-- What arguments ask for. -/
def ofArguments (arguments : List String) : Request := read .nothing arguments

end Request

namespace Question

/-- The answer to a question. -/
def answer : Question → String
  | .version => "tts-stubgen 0.1.0\n"
  | .help =>
    "Generate Lua annotation stubs for Tabletop Simulator from a YAML API description\n" ++
    "\n" ++
    "Usage: tts-stubgen [OPTIONS]\n" ++
    "\n" ++
    "Options:\n" ++
    "  -i, --input <INPUT>        API description (YAML). Use - to read stdin " ++
    "[default: api.yaml]\n" ++
    "  -o, --output <OUTPUT>      Output stub file [default: <category>.lua]. Use - to write " ++
    "to stdout\n" ++
    "  -c, --category <CATEGORY>  Top-level category to render [default: Object]\n" ++
    "      --base-url <BASE_URL>  Prefix for documentation links [default: " ++
    Stub.defaultBaseUrl ++ "]\n" ++
    "      --no-meta              Omit the ---@meta / ---@class preamble\n" ++
    "  -v, --verbose              Log debug output to stderr (RUST_LOG overrides)\n" ++
    "  -h, --help                 Print help\n" ++
    "  -V, --version              Print version\n"

end Question
end Command
end ApiStubs
