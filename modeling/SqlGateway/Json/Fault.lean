/-
Why and where a JSON text is refused. A fault names its reason and says how many octets before the end of what has been
read it is placed; a `ReadError` names the line and the column, in octets, of that place.
-/
import SqlGateway.Text.Message
import SqlGateway.Json.Basic

namespace SqlGateway.Json

/-! ## Reasons -/

/-- what stands where a value of another type is expected -/
inductive Found where
  | scalar (v : Json)
  | sequence
  | map
  deriving DecidableEq

def Found.text : Found → String
  | scalar (.bool true) => "boolean `true`"
  | scalar (.bool false) => "boolean `false`"
  | scalar (.number (.integer n)) => "integer `" ++ toString n ++ "`"
  | scalar (.number (.float f)) => "floating point `" ++ f.text ++ "`"
  | scalar (.string s) => "string " ++ Text.messageQuote s
  | scalar .null => "null"
  | scalar (.array _) => "sequence"
  | scalar (.object _) => "map"
  | sequence => "sequence"
  | map => "map"

inductive Reason where
  | endInValue
  | endInList
  | endInObject
  | endInString
  | expectedValue
  | expectedLiteral
  | expectedColon
  | expectedListEnd
  | expectedObjectEnd
  | trailingComma
  | trailingCharacters
  | keyNotString
  | invalidNumber
  | numberOutOfRange
  | invalidEscape
  | missingSurrogate
  | loneSurrogate
  | controlCharacter
  | invalidText
  | recursionLimit
  | wrongType (found : Found) (expected : String)
  | wrongValue (found : Found) (expected : String)
  | repeatedField (name : String)
  deriving DecidableEq

def Reason.text : Reason → String
  | endInValue => "EOF while parsing a value"
  | endInList => "EOF while parsing a list"
  | endInObject => "EOF while parsing an object"
  | endInString => "EOF while parsing a string"
  | expectedValue => "expected value"
  | expectedLiteral => "expected ident"
  | expectedColon => "expected `:`"
  | expectedListEnd => "expected `,` or `]`"
  | expectedObjectEnd => "expected `,` or `\x7d`"
  | trailingComma => "trailing comma"
  | trailingCharacters => "trailing characters"
  | keyNotString => "key must be a string"
  | invalidNumber => "invalid number"
  | numberOutOfRange => "number out of range"
  | invalidEscape => "invalid escape"
  | missingSurrogate => "unexpected end of hex escape"
  | loneSurrogate => "lone leading surrogate in hex escape"
  | controlCharacter => "control character (\\u0000-\\u001F) found while parsing a string"
  | invalidText => "invalid unicode code point"
  | recursionLimit => "recursion limit exceeded"
  | wrongType found expected => "invalid type: " ++ found.text ++ ", expected " ++ expected
  | wrongValue found expected => "invalid value: " ++ found.text ++ ", expected " ++ expected
  | repeatedField name => "duplicate field `" ++ name ++ "`"

/-! ## Places -/

/-- a reason, and how many octets before the end of what has been read it is placed -/
structure Fault where
  reason : Reason
  back : Nat := 0
  deriving DecidableEq

/-- placed after the octet just read -/
def Reason.past (reason : Reason) : Fault := ⟨reason, 0⟩

/-- placed before the octet just read -/
def Reason.here (reason : Reason) : Fault := ⟨reason, 1⟩

/-- a refusal: why, on which line, after how many octets of that line -/
structure ReadError where
  reason : Reason
  line : Nat
  column : Nat
  deriving DecidableEq

namespace ReadError

/-- places a reason at the end of some octets -/
def atEnd (reason : Reason) (octets : List UInt8) : ReadError :=
  ⟨reason, octets.count 10 + 1, (octets.reverse.takeWhile (· != 10)).length⟩

def message (e : ReadError) : String :=
  e.reason.text ++ " at line " ++ toString e.line ++ " column " ++ toString e.column

end ReadError

end SqlGateway.Json
