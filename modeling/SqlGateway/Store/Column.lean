/-
Columns of a result set. Where a cell is octets, the column's type says whether they stand for an integer, a double, JSON
or a time. Octets that do not are kept as text.
-/
import SqlGateway.Json.Reader
import SqlGateway.Number.Reading
import SqlGateway.Store.Basic
import SqlGateway.Store.Cell

namespace SqlGateway

/-- what the cells of a column stand for -/
inductive ColumnKind where
  | signed
  | unsigned
  | float
  | json
  | dateTime
  | timestamp
  | text
  deriving DecidableEq, Repr

/-- a column as the database describes it: its name, the number of its type, and its flags -/
structure Column where
  name : List UInt8
  type : UInt8
  flags : UInt16
  deriving DecidableEq, Repr

namespace Column

/-- the bit of the flags that says there is no sign -/
def unsignedFlag : UInt16 := 32

/-- the numbers of the integer types -/
def integerTypes : List UInt8 := [1, 2, 3, 8, 9, 13]

def kind (c : Column) : ColumnKind :=
  if integerTypes.contains c.type then
    if c.flags &&& unsignedFlag != 0 then .unsigned else .signed
  else match c.type with
    | 4 | 5 => .float
    | 245 => .json
    | 12 | 18 => .dateTime
    | 7 | 17 => .timestamp
    | _ => .text

end Column

namespace ColumnKind

/-- an integer within bounds, the upper one excluded -/
def boundedInteger? (low high : Int) (n : Int) : Option Json :=
  if low ≤ n ∧ n < high then some (.number (.integer n)) else none

/-- the value that octets stand for -/
def typed? (kind : ColumnKind) (octets : List UInt8) : Option Json :=
  let chars := (Utf8.decodeLossy octets).toList
  match kind with
  | signed => (Text.integer? chars).bind (boundedInteger? (-Nat.pow 2 63) (Nat.pow 2 63))
  | unsigned => (Text.natural? chars).bind fun n => boundedInteger? 0 UInt64.size n
  | float => (Binary64.ofChars? chars).map fun f => .number (.float f)
  | json => (Json.read octets).toOption
  | dateTime => (DateTime.ofChars? chars).map fun t => .string (String.ofList t.chars)
  | timestamp => (DateTime.ofChars? chars).map fun t => .string (String.ofList (t.chars ++ ['Z']))
  | text => none

/-- the value of a cell with these octets -/
def value (kind : ColumnKind) (octets : List UInt8) : Json :=
  (kind.typed? octets).getD (.string (Utf8.decodeLossy octets))

/-- the value of a cell; the kind counts for octets alone, and a number that is not finite is null -/
def cell (kind : ColumnKind) : Cell → Json
  | .null => .null
  | .octets o => kind.value o
  | .signed n => .number (.integer n.toInt)
  | .unsigned n => .number (.integer n.toNat)
  | .single pattern => (Binary64.ofSingleBits? pattern).elim .null fun f => .number (.float f)
  | .double pattern => (Binary64.ofBits? pattern).elim .null fun f => .number (.float f)
  | .date year month day hour minute second microsecond =>
    .string (String.ofList (Cell.dateChars year month day hour minute second microsecond))
  | .time negative days hours minutes seconds microseconds =>
    .string (String.ofList (Cell.timeChars negative days hours minutes seconds microseconds))

end ColumnKind

/-! ## Rows -/

/-- one column's member of a row -/
def Column.member (c : Column) (cell : Cell) : String × Json :=
  (Utf8.decodeLossy c.name, c.kind.cell cell)

/-- the members that columns and cells make; a cell that is missing is null -/
def Row.members : List Column → List Cell → List (String × Json)
  | [], _ => []
  | c :: columns, cells => c.member (cells.headD .null) :: members columns cells.tail

/-- a row as an object: a name that comes again keeps its place and takes the later value -/
def Row.ofCells (columns : List Column) (cells : List Cell) : Row :=
  Json.putAll (Row.members columns cells) []

end SqlGateway
