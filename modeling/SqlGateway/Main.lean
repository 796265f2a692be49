/-
The program: gathers the command line, standard input, the settings file and the environment, and does what
`Command.run` says. Listening and the database connection are left to the system that the gateway is built into.
-/
import SqlGateway.Command.Run

namespace SqlGateway

/-- everything on a stream -/
partial def readAll (stream : IO.FS.Stream) (done : ByteArray) : IO ByteArray := do
  let chunk ← stream.read 65536
  if chunk.isEmpty then return done
  readAll stream (done ++ chunk)

/-- a failure of the system as it is shown -/
def fileError : IO.Error → FileError
  | .noFileOrDirectory _ number reason | .inappropriateType _ number reason
  | .permissionDenied _ number reason | .invalidArgument _ number reason => ⟨number.toNat, reason⟩
  | e => ⟨0, toString e⟩

/-- the octets of a file -/
def readFile (path : String) : IO (Except FileError (List UInt8)) := do
  try
    return .ok (← IO.FS.readBinFile path).toList
  catch e =>
    return .error (fileError e)

/-- shows how a process ends, and gives its code -/
def finish (e : Command.Exit) : IO UInt32 := do
  IO.print e.stdout
  IO.eprint e.stderr
  return e.code

end SqlGateway

open SqlGateway in
def main (args : List String) : IO UInt32 := do
  let invocation := Command.Invocation.ofArguments args
  let input ← match invocation with
    | .ok (.render _ _ _) => do pure (← readAll (← IO.getStdin) .empty).toList
    | _ => pure []
  let content ← match invocation with
    | .ok (.serve path) => readFile path
    | _ => pure (.error .missing)
  match Command.run args input (fun _ => content) (← IO.getEnv "PORT") with
  | .exit e => finish e
  | .start _ => finish (Command.CommandError.io "no network transport").exit
