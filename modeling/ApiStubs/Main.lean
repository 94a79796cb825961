import ApiStubs.Command.Run

/-!
# The program

Runs what the arguments ask for on the files of the system, with `RUST_LOG` as the wish
for records.
-/

namespace ApiStubs
namespace Command

/-- The number of an error of the system, which some calls give with its sign turned. -/
def errorNumber (code : UInt32) : UInt32 := if 0x80000000 ≤ code then 0 - code else code

/-- The fault behind an error of the system. -/
def FileFault.ofSystem (error : IO.Error) : FileFault :=
  let numbered (code : UInt32) (details : String) : FileFault :=
    match (errorNumber code).toNat with
    | 2 => .notFound
    | 20 => .notDirectory
    | 21 => .isDirectory
    | 36 => .nameTooLong
    | number => .other (details.capitalize ++ " (os error " ++ toString number ++ ")")
  match error with
  | .noFileOrDirectory _ code details => numbered code details
  | .inappropriateType _ code details => numbered code details
  | .permissionDenied _ code details => numbered code details
  | .invalidArgument _ code details => numbered code details
  | .resourceExhausted _ code details => numbered code details
  | error => .other (toString error)

/-- Runs an action, whose errors become faults. -/
def catchFault {α : Type} (action : IO α) : IO (Except FileFault α) := do
  match ← action.toBaseIO with
  | .ok result => return .ok result
  | .error error => return .error (.ofSystem error)

/-- Reads a stream to its end. -/
partial def readAll (stream : IO.FS.Stream) (read : ByteArray) : IO ByteArray := do
  let chunk ← stream.read 65536
  if chunk.isEmpty then return read else readAll stream (read ++ chunk)

/-- The files of the system, and its standard input. -/
def systemHost : Host IO where
  readStandard := do readAll (← IO.getStdin) ByteArray.empty
  readFile path := catchFault (IO.FS.readBinFile path)
  writeFile path text := catchFault (IO.FS.writeFile path text)

end Command
end ApiStubs

/-- Runs the program. -/
def main (arguments : List String) : IO UInt32 := do
  let environment ← IO.getEnv "RUST_LOG"
  let outcome ← ApiStubs.Command.Run.answer ApiStubs.Command.systemHost environment
    (.ofArguments arguments)
  (← IO.getStdout).putStr outcome.output
  (← IO.getStderr).putStr outcome.errors
  return outcome.status.toUInt32
