/-
Requests and responses. A response has content, from which its type and length follow.
-/
import SqlGateway.Json.Printer
import SqlGateway.Http.Target
import SqlGateway.Text.Characters

namespace SqlGateway.Http

/-- names and values; a value may be any octets -/
abbrev Headers := List (String × List UInt8)

structure Request where
  method : String
  target : Target
  headers : Headers
  body : List UInt8
  deriving DecidableEq

/-- the first value of a header, in letters of either case -/
def Request.header? (r : Request) (name : String) : Option (List UInt8) :=
  (r.headers.find? fun h => Text.sameLetters h.1 name).map Prod.snd

/-- what a response carries -/
inductive Content where
  | empty
  | text (s : String)
  | json (v : Json)
  deriving DecidableEq

namespace Content

def octets : Content → List UInt8
  | empty => []
  | text s => Utf8.encode s
  | json v => Utf8.encode v.compact

/-- the headers that describe the content -/
def headers (c : Content) : Headers :=
  let length := ("content-length", Utf8.encode (toString c.octets.length))
  match c with
  | empty => [length]
  | text _ => [("content-type", Utf8.encode "text/plain; charset=utf-8"), length]
  | json _ => [("content-type", Utf8.encode "application/json"), length]

end Content

/-- a response before it is sent: its status, the headers beside those of its content, and its content -/
structure Reply where
  status : Nat
  headers : Headers
  content : Content
  deriving DecidableEq

/-- a response as it is sent -/
structure Response where
  status : Nat
  headers : Headers
  body : List UInt8
  deriving DecidableEq

/-- sends a reply, without its body when the request asks for the head alone -/
def Reply.send (r : Reply) (headOnly : Bool) : Response :=
  ⟨r.status, r.content.headers ++ r.headers, if headOnly then [] else r.content.octets⟩

end SqlGateway.Http
