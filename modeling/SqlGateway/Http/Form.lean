/-
Query strings: pairs of key and value, separated by `&`; the first `=` of a piece separates key and value. A plus is a
space, and what is not UTF-8 after unescaping becomes U+FFFD. Empty pieces do not count.
-/
import SqlGateway.Http.Percent
import SqlGateway.Text.Utf8

namespace SqlGateway.Http.Form

/-- the pieces between separators -/
def split (separator : UInt8) : List UInt8 → List (List UInt8)
  | [] => [[]]
  | b :: rest =>
    if b = separator then [] :: split separator rest
    else match split separator rest with
      | piece :: pieces => (b :: piece) :: pieces
      | [] => [[b]]

/-- a key or value out of its octets -/
def decodeText (octets : List UInt8) : String :=
  Utf8.decodeLossy (Percent.decode (octets.map fun b => if b = 43 then 32 else b))

/-- a piece cut at its first `=` -/
def decodePair (piece : List UInt8) : String × String :=
  (decodeText (piece.takeWhile (· != 61)), decodeText ((piece.dropWhile (· != 61)).drop 1))

/-- the pairs of a query string, in order -/
def decode (query : List UInt8) : List (String × String) :=
  ((split 38 query).filter fun piece => !piece.isEmpty).map decodePair

/-- a key or value in a query string -/
def encodeText (s : String) : List UInt8 := Percent.encode (Utf8.encode s)

/-- the query string of some pairs -/
def encode (pairs : List (String × String)) : List UInt8 :=
  [38].intercalate (pairs.map fun p => encodeText p.1 ++ 61 :: encodeText p.2)

end SqlGateway.Http.Form
