/-
Request targets: a path and a query string, as octets. A fragment does not count, and of a target with a scheme only what
follows the authority.
-/
import SqlGateway.Text.Utf8

namespace SqlGateway.Http

structure Target where
  path : List UInt8
  query : List UInt8
  deriving DecidableEq

namespace Target

/-- the octets after `://`, if there is one -/
def afterScheme? : List UInt8 → Option (List UInt8)
  | [] => none
  | b :: rest => if [58, 47, 47].isPrefixOf (b :: rest) then some (rest.drop 2) else afterScheme? rest

/-- whether an octet ends the authority -/
def endsAuthority (b : UInt8) : Bool := b == 47 || b == 63

/-- path and query of a target without its fragment -/
def pathAndQuery (octets : List UInt8) : List UInt8 :=
  match octets with
  | 47 :: _ => octets
  | _ => (afterScheme? octets).elim octets fun rest => rest.dropWhile fun b => !endsAuthority b

def ofOctets (octets : List UInt8) : Target :=
  let target := pathAndQuery (octets.takeWhile (· != 35))
  ⟨target.takeWhile (· != 63), (target.dropWhile (· != 63)).drop 1⟩

/-- the one segment of a path of one segment -/
def segment? (t : Target) : Option (List UInt8) :=
  match t.path with
  | 47 :: segment => if segment.isEmpty || segment.contains 47 then none else some segment
  | _ => none

end Target

end SqlGateway.Http
