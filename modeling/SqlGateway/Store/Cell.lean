/-
The cells of a result set, as the database's client hands them over. A statement that is sent as text brings nulls and
octets only; numbers, dates and times come to statements that are prepared, and have the text that the database writes.
-/
import SqlGateway.Store.Temporal

namespace SqlGateway

/-- what stands in a cell; numbers of floating point are given by their bit patterns -/
inductive Cell where
  | null
  | octets (o : List UInt8)
  | signed (n : Int64)
  | unsigned (n : UInt64)
  | single (pattern : UInt32)
  | double (pattern : UInt64)
  | date (year : UInt16) (month day hour minute second : UInt8) (microsecond : UInt32)
  | time (negative : Bool) (days : UInt32) (hours minutes seconds : UInt8) (microseconds : UInt32)
  deriving DecidableEq, Repr

namespace Cell

open DateTime (padded)

/-- six places, unless they are all zero -/
def fraction (microseconds : UInt32) : List Char :=
  if microseconds = 0 then [] else '.' :: padded 6 microseconds.toNat

/-- the text of a date, which shows a time of day unless it is midnight -/
def dateChars (year : UInt16) (month day hour minute second : UInt8) (microsecond : UInt32) : List Char :=
  padded 4 year.toNat ++ '-' :: padded 2 month.toNat ++ '-' :: padded 2 day.toNat ++
    if hour = 0 ∧ minute = 0 ∧ second = 0 ∧ microsecond = 0 then []
    else ' ' :: padded 2 hour.toNat ++ ':' :: padded 2 minute.toNat ++ ':' :: padded 2 second.toNat ++
      fraction microsecond

/-- the text of a time, whose days are hours -/
def timeChars (negative : Bool) (days : UInt32) (hours minutes seconds : UInt8) (microseconds : UInt32) : List Char :=
  (if negative then ['-'] else []) ++ padded 3 (days * 24 + hours.toUInt32).toNat ++
    ':' :: padded 2 minutes.toNat ++ ':' :: padded 2 seconds.toNat ++ fraction microseconds

end Cell

end SqlGateway
