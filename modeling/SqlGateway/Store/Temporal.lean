/-
Dates with a time of day, as a database writes them (`2024-02-29 13:05:09.250`) and as a response does
(`2024-02-29T13:05:09.250`). Reading is tolerant of white space before a number and of missing zeros; the date must exist
in the Gregorian calendar, extended to all years. A minute may have a second 60.
-/
import SqlGateway.Text.Characters
import SqlGateway.Text.Integer

namespace SqlGateway

structure DateTime where
  year : Int
  month : Nat
  day : Nat
  hour : Nat
  minute : Nat
  second : Nat
  nanosecond : Nat
  deriving DecidableEq, Repr

namespace DateTime

/-! ## Calendar -/

def isLeapYear (year : Int) : Bool :=
  year % 4 == 0 && (year % 100 != 0 || year % 400 == 0)

def daysInMonth (year : Int) (month : Nat) : Nat :=
  match month with
  | 2 => if isLeapYear year then 29 else 28
  | 4 | 6 | 9 | 11 => 30
  | _ => 31

/-- the years that are counted -/
def firstYear : Int := -262143

def lastYear : Int := 262142

/-- a date that exists and a time of day -/
def isValid (t : DateTime) : Bool :=
  firstYear ≤ t.year && t.year ≤ lastYear && 1 ≤ t.month && t.month ≤ 12 &&
    1 ≤ t.day && t.day ≤ daysInMonth t.year t.month && t.hour < 24 && t.minute < 60 && t.second ≤ 60

/-! ## Reading -/

/-- up to `width` digits, of which there must be one, and the rest -/
def scanDigits? (width : Nat) (cs : List Char) : Option (Nat × List Char) :=
  let digits := (cs.take width).takeWhile Char.isDigit
  (Text.digits? digits).map fun n => (n, cs.drop digits.length)

/-- a number of one or two digits after any white space -/
def scanField? (cs : List Char) : Option (Nat × List Char) :=
  scanDigits? 2 (Text.trimStart cs)

/-- a year after any white space: up to four digits, or a sign and any number of them -/
def scanYear? (cs : List Char) : Option (Int × List Char) :=
  match Text.trimStart cs with
  | '-' :: cs => (scanDigits? cs.length cs).map fun r => (-(r.1 : Int), r.2)
  | '+' :: cs => (scanDigits? cs.length cs).map fun r => ((r.1 : Int), r.2)
  | cs => (scanDigits? 4 cs).map fun r => ((r.1 : Int), r.2)

/-- a mark that must come at once -/
def scanMark? (mark : Char) : List Char → Option (List Char)
  | c :: cs => if c = mark then some cs else none
  | [] => none

/-- nanoseconds after a point: digits after the ninth are dropped -/
def scanFraction? : List Char → Option (Nat × List Char)
  | '.' :: cs =>
    let digits := cs.takeWhile Char.isDigit
    let kept := digits.take 9
    (Text.digits? kept).map fun n => (n * Nat.pow 10 (9 - kept.length), cs.drop digits.length)
  | cs => some (0, cs)

/-- the date and time in a text, nothing else -/
def ofChars? (cs : List Char) : Option DateTime := do
  let (year, cs) ← scanYear? cs
  let cs ← scanMark? '-' cs
  let (month, cs) ← scanField? cs
  let cs ← scanMark? '-' cs
  let (day, cs) ← scanField? cs
  let (hour, cs) ← scanField? cs
  let cs ← scanMark? ':' cs
  let (minute, cs) ← scanField? cs
  let cs ← scanMark? ':' cs
  let (second, cs) ← scanField? cs
  let (nanosecond, cs) ← scanFraction? cs
  guard cs.isEmpty
  let t : DateTime := ⟨year, month, day, hour, minute, second, nanosecond⟩
  guard t.isValid
  return t

/-! ## Writing -/

/-- a number with at least `width` digits -/
def padded (width n : Nat) : List Char :=
  let digits := Nat.toDigits 10 n
  List.replicate (width - digits.length) '0' ++ digits

/-- four digits, and a sign outside of the years 0 to 9999 -/
def yearChars (year : Int) : List Char :=
  if 0 ≤ year ∧ year ≤ 9999 then padded 4 year.toNat
  else (if year < 0 then '-' else '+') :: padded 4 year.natAbs

/-- date and time with milliseconds -/
def chars (t : DateTime) : List Char :=
  yearChars t.year ++ '-' :: padded 2 t.month ++ '-' :: padded 2 t.day ++ 'T' :: padded 2 t.hour ++
    ':' :: padded 2 t.minute ++ ':' :: padded 2 t.second ++ '.' :: padded 3 (t.nanosecond / 1000000)

end DateTime

end SqlGateway
