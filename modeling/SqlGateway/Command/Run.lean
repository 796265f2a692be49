/-
What a command does, as far as it can be said without a network: `render` reads a request body and shows its statement or
why there is none, as one line of JSON; `serve` loads the settings, and if they are good the gateway starts.
-/
import SqlGateway.Command.Arguments
import SqlGateway.Command.Error
import SqlGateway.Config.Load
import SqlGateway.Statement.Operation

namespace SqlGateway.Command

/-- how a process ends -/
structure Exit where
  code : UInt32
  stdout : String
  stderr : String
  deriving DecidableEq, Repr

/-- the process ends, or the gateway starts -/
inductive Action where
  | exit (e : Exit)
  | start (c : Config)
  deriving DecidableEq, Repr

/-- ends with an error -/
def CommandError.exit (e : CommandError) : Exit := ⟨1, "", e.message ++ "\n"⟩

/-! ## Showing a statement -/

/-- the request body in a text; one of white space alone is an empty object -/
def requestOfText (text : String) : Except CommandError Json :=
  if text.toList.all Text.isBlank then .ok (.object [])
  else (Json.ofText text).mapError .json

/-- the request body on standard input -/
def requestOfInput (input : List UInt8) : Except CommandError Json :=
  match Utf8.decode? input with
  | some text => requestOfText text
  | none => .error (.io "stream did not contain valid UTF-8")

/-- the line that shows a statement or why there is none -/
def outcomeLine (s : Except BuildError Statement) : String :=
  let v : Json := match s with
    | .ok s => .object [("status", .string "ok"), ("sql", .string s.sql)]
    | .error e => .object [("status", .string "error"), ("msg", .string e.message)]
  v.compact ++ "\n"

def render (table method : String) (requestType : Option String) (input : List UInt8) : Exit :=
  match requestOfInput input with
  | .ok body => ⟨0, outcomeLine (Statement.ofRequest table method requestType body), ""⟩
  | .error e => e.exit

/-! ## Commands -/

/-- the program's name and version -/
def versionLine : String := "tablegate 0.1.0\n"

/-- what the program can do -/
def helpText : String :=
  about ++ "\n\nUsage: tablegate <COMMAND>\n\nCommands:\n" ++
  "  serve   Start the HTTP gateway\n" ++
  "  render  Print the SQL a request would generate, without executing it\n" ++
  "  help    Print this message or the help of the given subcommand(s)\n\n" ++
  "Options:\n  -h, --help     Print help\n  -V, --version  Print version\n"

def Stop.exit : Stop → Exit
  | usage e => ⟨2, "", e.message ++ "\n"⟩
  | help => ⟨0, helpText, ""⟩
  | version => ⟨0, versionLine, ""⟩

/-- what a command line does, given standard input, the files, and the port that the environment asks for -/
def run (args : List String) (input : List UInt8) (file : String → Except FileError (List UInt8))
    (port : Option String) : Action :=
  match Invocation.ofArguments args with
  | .error stop => .exit stop.exit
  | .ok (.render table method requestType) => .exit (render table method requestType input)
  | .ok (.serve path) =>
    match Config.load (file path) port with
    | .ok c => .start c
    | .error e => .exit (CommandError.config e.message).exit

end SqlGateway.Command
