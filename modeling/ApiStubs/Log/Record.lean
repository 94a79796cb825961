import ApiStubs.Text.Quoted

/-!
# Log records

What a run reports about itself. A `Record` has a level, an origin (the part of the
program that reports) and a line of text: the level, a message and fields. Fields that
stand for themselves are written as they are, and names in quotes.
-/

namespace ApiStubs
namespace Log

/-- How severe a record is, the most severe level first. -/
inductive Level where
  | error
  | warn
  | info
  | debug
  | trace
  deriving DecidableEq, Repr

namespace Level

/-- The number of a level: the less severe, the higher. -/
def rank : Level → Nat
  | error => 1
  | warn => 2
  | info => 3
  | debug => 4
  | trace => 5

/-- The name of a level as a record shows it. -/
def label : Level → String
  | error => "ERROR"
  | warn => "WARN"
  | info => "INFO"
  | debug => "DEBUG"
  | trace => "TRACE"

end Level

/-- Something that a run reports. -/
inductive Record where
  | reading (path : String)
  | irregular (function raw : String)
  | loaded (category : String) (functions : Nat)
  | rendering (function : String)
  | written (category : String) (functions : Nat) (output : String)
  deriving DecidableEq, Repr

namespace Record

/-- How severe a record is. -/
def level : Record → Level
  | reading _ => .debug
  | irregular .. => .debug
  | loaded .. => .debug
  | rendering _ => .trace
  | written .. => .info

/-- The part of the program that reports. -/
def origin : Record → String
  | reading _ => "tts_stubgen"
  | irregular .. => "tts_stubgen::loader"
  | loaded .. => "tts_stubgen::loader"
  | rendering _ => "tts_stubgen::render"
  | written .. => "tts_stubgen"

/-- The names of the fields of a record. The message is one of them. -/
def fields : Record → List String
  | reading _ => ["message", "path"]
  | irregular .. => ["message", "function", "raw"]
  | loaded .. => ["message", "category", "functions"]
  | rendering _ => ["message", "function"]
  | written .. => ["message", "category", "functions", "output"]

/-- The message of a record with its fields. -/
def message : Record → String
  | reading path => "reading API description path=" ++ path
  | irregular function raw =>
    "irregular parameter data function=" ++ function ++ " raw=" ++ raw
  | loaded category functions =>
    "loaded category category=" ++ Text.quote category ++ " functions=" ++ toString functions
  | rendering function => "rendering function=" ++ Text.quote function
  | written category functions output =>
    "stubs written category=" ++ category ++ " functions=" ++ toString functions ++
      " output=" ++ output

/-- A record as a line. -/
def line (r : Record) : String := r.level.label ++ " " ++ r.message ++ "\n"

end Record
end Log
end ApiStubs
