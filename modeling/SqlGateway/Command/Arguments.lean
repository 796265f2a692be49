/-
Command lines. `serve --config <CONFIG>` starts the gateway; `render --table <TABLE> --method <METHOD> --type <TYPE>` shows
a statement. An option's value is attached with `=` or is the next argument, unless that begins with a hyphen; each option
may stand once, and after `--` no option may.

An argument that is not known is reported at once. A value that is missing and an option that stands twice are reported
when the option is settled: at the next option or at the end. Reports show arguments without what would control a terminal.
-/
import SqlGateway.Text.Terminal

namespace SqlGateway.Command

/-- an option, which takes one value -/
structure Opt where
  name : String
  valueName : String
  mayBeEmpty : Bool
  deriving DecidableEq, Repr

/-- the option as a message names it -/
def Opt.text (o : Opt) : String := "--" ++ o.name ++ " <" ++ o.valueName ++ ">"

/-! ## Errors -/

inductive UsageError where
  | noCommand
  | unknownCommand (name : String)
  | unexpected (argument : String)
  | unexpectedValue (value flag : String)
  | missingValue (o : Opt)
  | repeated (o : Opt)
  | missingOption (o : Opt)
  deriving DecidableEq, Repr

/-- what the program is -/
def about : String := "A generic HTTP-to-SQL table gateway"

open Text.Terminal (plain) in
/-- what is shown -/
def UsageError.message : UsageError → String
  | noCommand => about
  | unknownCommand name => "error: unrecognized subcommand '" ++ plain name ++ "'"
  | unexpected argument => "error: unexpected argument '" ++ plain argument ++ "' found"
  | unexpectedValue value flag =>
    "error: unexpected value '" ++ plain value ++ "' for '" ++ flag ++ "' found; no more were expected"
  | missingValue o => "error: a value is required for '" ++ o.text ++ "' but none was supplied"
  | repeated o => "error: the argument '" ++ o.text ++ "' cannot be used multiple times"
  | missingOption _ => "error: the following required arguments were not provided:"

/-- why reading a command line stops early -/
inductive Stop where
  | usage (e : UsageError)
  | help
  | version
  deriving DecidableEq, Repr

/-! ## Arguments by form -/

inductive Argument where
  /-- `--` -/
  | escape
  /-- `--name` or `--name=value` -/
  | long (name : String) (value : Option String)
  /-- `-c` and more; the first letter -/
  | short (letter : Char)
  | plain (text : String)
  deriving DecidableEq, Repr

def Argument.ofText (text : String) : Argument :=
  match text.toList with
  | ['-', '-'] => .escape
  | '-' :: '-' :: cs =>
    let name := String.ofList (cs.takeWhile (· != '='))
    match cs.dropWhile (· != '=') with
    | [] => .long name none
    | _ :: value => .long name (some (String.ofList value))
  | '-' :: c :: _ => .short c
  | _ => .plain text

/-- a flag that takes no value -/
def flag (name : String) (value : Option String) (stop : Stop) : Stop :=
  match value with
  | none => stop
  | some value => .usage (.unexpectedValue value ("--" ++ name))

/-! ## Options -/

/-- what has been read of a command's options: those settled, the last named with its value if that has come, and whether
`--` has come -/
structure Options where
  settled : List (Opt × String) := []
  pending : Option (Opt × Option String) := none
  escaped : Bool := false

namespace Options

/-- an option with its value -/
def settle (os : Options) (o : Opt) (value : String) : Except Stop Options :=
  if os.settled.any fun p => p.1 == o then .error (.usage (.repeated o))
  else if value.isEmpty && !o.mayBeEmpty then .error (.usage (.missingValue o))
  else .ok { os with settled := os.settled ++ [(o, value)], pending := none }

/-- settles the option that was named last -/
def settlePending (os : Options) : Except Stop Options :=
  match os.pending with
  | none => .ok os
  | some (o, none) => .error (.usage (.missingValue o))
  | some (o, some value) => os.settle o value

/-- one argument of a command with these options -/
def step (known : List Opt) (os : Options) (text : String) : Except Stop Options :=
  if os.escaped then .error (.usage (.unexpected text))
  else match Argument.ofText text with
    | .escape => .ok { os with escaped := true }
    | .long name value =>
      match known.find? fun o => o.name == name with
      | some o => do
        let os ← os.settlePending
        match value with
        | some value => os.settle o value
        | none => return { os with pending := some (o, none) }
      | none =>
        if name == "help" then
          match value with
          | none => do
            let _ ← os.settlePending
            .error .help
          | some value => .error (flag name (some value) .help)
        else .error (.usage (.unexpected ("--" ++ name)))
    | .short letter =>
      if letter == 'h' then do
        let _ ← os.settlePending
        .error .help
      else .error (.usage (.unexpected ("-" ++ String.singleton letter)))
    | .plain text =>
      match os.pending with
      | some (o, none) => .ok { os with pending := some (o, some text) }
      | _ => .error (.usage (.unexpected text))

/-- all arguments of a command -/
def ofArguments (known : List Opt) (args : List String) : Except Stop Options := do
  let os ← args.foldlM (step known) {}
  os.settlePending

/-- the value of an option, if it was given -/
def value? (os : Options) (o : Opt) : Option String :=
  (os.settled.find? fun p => p.1 == o).map Prod.snd

end Options

/-! ## Commands -/

inductive Invocation where
  /-- starts the gateway with the settings in a file -/
  | serve (config : String)
  /-- shows the statement of a request -/
  | render (table method : String) (requestType : Option String)
  deriving DecidableEq, Repr

namespace Invocation

def configOption : Opt := ⟨"config", "CONFIG", false⟩

def tableOption : Opt := ⟨"table", "TABLE", true⟩

def methodOption : Opt := ⟨"method", "METHOD", true⟩

def typeOption : Opt := ⟨"type", "REQUEST_TYPE", true⟩

/-- the settings file unless another is named -/
def defaultConfig : String := "./tablegate.json"

/-- the method unless another is named -/
def defaultMethod : String := "GET"

def serveOf (args : List String) : Except Stop Invocation := do
  let os ← Options.ofArguments [configOption] args
  return .serve ((os.value? configOption).getD defaultConfig)

def renderOf (args : List String) : Except Stop Invocation := do
  let os ← Options.ofArguments [tableOption, methodOption, typeOption] args
  let some table := os.value? tableOption | .error (.usage (.missingOption tableOption))
  return .render table ((os.value? methodOption).getD defaultMethod) (os.value? typeOption)

def commandNames : List String := ["serve", "render", "help"]

/-- help about a command -/
def helpOf : List String → Stop
  | [] => .help
  | [name] => if commandNames.contains name then .help else .usage (.unknownCommand name)
  | name :: next :: _ => .usage (.unknownCommand (if commandNames.contains name then next else name))

/-- a command line without the program's name -/
def ofArguments : List String → Except Stop Invocation
  | [] => .error (.usage .noCommand)
  | text :: rest =>
    match Argument.ofText text with
    | .escape =>
      match rest with
      | [] => .error (.usage .noCommand)
      | name :: _ =>
        .error (.usage (if commandNames.contains name then .unexpected name else .unknownCommand name))
    | .long "version" value => .error (flag "version" value .version)
    | .long "help" value => .error (flag "help" value .help)
    | .long name _ => .error (.usage (.unexpected ("--" ++ name)))
    | .short 'V' => .error .version
    | .short 'h' => .error .help
    | .short letter => .error (.usage (.unexpected ("-" ++ String.singleton letter)))
    | .plain "serve" => serveOf rest
    | .plain "render" => renderOf rest
    | .plain "help" => .error (helpOf rest)
    | .plain name => .error (.usage (.unknownCommand name))

end Invocation

end SqlGateway.Command
