/-
Why a command ends with an error.
-/
import SqlGateway.Json.Fault

namespace SqlGateway.Command

inductive CommandError where
  | config (text : String)
  | io (text : String)
  | json (e : Json.ReadError)
  deriving DecidableEq

namespace CommandError

/-- what is shown -/
def message : CommandError → String
  | config text => text
  | io text => "I/O error: " ++ text
  | json e => "JSON error: " ++ e.message

/-- what names the kind of error -/
def code : CommandError → String
  | config _ => "TABLEGATE_CLI_CONFIG_ERROR"
  | io _ => "TABLEGATE_CLI_IO_ERROR"
  | json _ => "TABLEGATE_CLI_JSON_ERROR"

end CommandError

end SqlGateway.Command
