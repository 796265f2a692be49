/-
The reader of JSON text: a machine that takes one octet at a time. Its state is a phase (what it is in the middle of) and
a stack of frames (the arrays, objects and records that are open, the innermost first). The shape asked for decides what a
value may be; `read` gives the value or the first fault and its place.

An array or object of shape `any` may stand in at most 126 others.
-/
import SqlGateway.Json.Numeral
import SqlGateway.Json.StringLiteral
import SqlGateway.Json.Shape

namespace SqlGateway.Json

namespace Reader

/-! ## State -/

/-- an open array, object or record, with what has been read of it -/
inductive Frame where
  /-- the items so far, the last first -/
  | array (items : List Json)
  /-- the members so far, and the key whose value is next -/
  | object (members : List (String × Json)) (key : String)
  /-- a record written as an object -/
  | record (fields : List (String × Shape)) (members : List (String × Json)) (key : String)
  /-- a record written as a list: the fields still to come, those read, and the field whose value is next -/
  | tuple (fields : List (String × Shape)) (members : List (String × Json)) (key : String)
  | ignoredArray
  | ignoredObject

/-- what comes next -/
inductive Phase where
  /-- a value -/
  | value (shape : Shape)
  /-- the first item, or the end of the list -/
  | firstItem (shape : Shape)
  /-- an item after a comma -/
  | nextItem (shape : Shape)
  /-- the first key, or the end of the object -/
  | firstKey
  /-- a key after a comma -/
  | nextKey
  /-- the rest of a key -/
  | key (s : StringLiteral)
  /-- the colon after the key on top of the stack -/
  | colon (shape : Shape)
  /-- a comma or the end of what is open -/
  | afterValue
  /-- the rest of a literal name -/
  | literal (rest : List Char) (v : Json) (shape : Shape)
  /-- the rest of a string -/
  | string (s : StringLiteral) (shape : Shape)
  /-- the rest of a number -/
  | number (n : Numeral) (shape : Shape)
  /-- a field of a record has come twice; blanks may follow its key -/
  | repeated (name : String)
  /-- a comma after the last field of a record written as a list -/
  | surplus
  /-- nothing but blanks -/
  | finished (v : Json)

structure State where
  phase : Phase
  stack : List Frame

/-- how many arrays and objects may be open -/
def maxDepth : Nat := 127

def isBlank (b : UInt8) : Bool :=
  b == 32 || b == 10 || b == 9 || b == 13

/-! ## Values -/

/-- a value is complete -/
def deliver (v : Json) : List Frame → State
  | [] => ⟨.finished v, []⟩
  | .array items :: stack => ⟨.afterValue, .array (v :: items) :: stack⟩
  | .object members key :: stack => ⟨.afterValue, .object (put key v members) key :: stack⟩
  | .record fields members key :: stack => ⟨.afterValue, .record fields (put key v members) key :: stack⟩
  | .tuple fields members key :: stack => ⟨.afterValue, .tuple fields (put key v members) key :: stack⟩
  | .ignoredArray :: stack => ⟨.afterValue, .ignoredArray :: stack⟩
  | .ignoredObject :: stack => ⟨.afterValue, .ignoredObject :: stack⟩

/-- a value that is neither array nor object is complete; `back` places a refusal -/
def deliverScalar (shape : Shape) (v : Json) (back : Nat) (stack : List Frame) : Except Fault State :=
  match shape.accept v with
  | .ok v => .ok (deliver v stack)
  | .error reason => .error ⟨reason, back⟩

/-- the end of an array or of a record written as a list -/
def closeList : List Frame → Except Fault State
  | .array items :: stack => .ok (deliver (.array items.reverse) stack)
  | .tuple _ members _ :: stack => .ok (deliver (.object members) stack)
  | .ignoredArray :: stack => .ok (deliver .null stack)
  | _ => .error Reason.expectedValue.past

/-- the end of an object -/
def closeObject : List Frame → Except Fault State
  | .object members _ :: stack => .ok (deliver (.object members) stack)
  | .record _ members _ :: stack => .ok (deliver (.object members) stack)
  | .ignoredObject :: stack => .ok (deliver .null stack)
  | _ => .error Reason.keyNotString.past

/-- an opening bracket -/
def openList (shape : Shape) (stack : List Frame) : Except Fault State :=
  match shape with
  | .any =>
    if maxDepth ≤ stack.length then .error Reason.recursionLimit.past
    else .ok ⟨.firstItem .any, .array [] :: stack⟩
  | .ignored => .ok ⟨.firstItem .ignored, .ignoredArray :: stack⟩
  | .record _ ((name, shape) :: fields) => .ok ⟨.firstItem shape, .tuple fields [] name :: stack⟩
  | shape => .error (Reason.wrongType .sequence shape.expected).here

/-- an opening brace -/
def openObject (shape : Shape) (stack : List Frame) : Except Fault State :=
  match shape with
  | .any =>
    if maxDepth ≤ stack.length then .error Reason.recursionLimit.past
    else .ok ⟨.firstKey, .object [] "" :: stack⟩
  | .ignored => .ok ⟨.firstKey, .ignoredObject :: stack⟩
  | .record _ fields => .ok ⟨.firstKey, .record fields [] "" :: stack⟩
  | shape => .error (Reason.wrongType .map shape.expected).here

/-- the first octet of a value -/
def startValue (shape : Shape) (stack : List Frame) (b : UInt8) : Except Fault State :=
  match Char.ofUInt8 b with
  | 'n' => .ok ⟨.literal "ull".toList .null shape, stack⟩
  | 't' => .ok ⟨.literal "rue".toList (.bool true) shape, stack⟩
  | 'f' => .ok ⟨.literal "alse".toList (.bool false) shape, stack⟩
  | '"' => .ok ⟨.string .start shape, stack⟩
  | '[' => openList shape stack
  | '\x7b' => openObject shape stack
  | _ =>
    match Numeral.start? b with
    | some n => .ok ⟨.number n shape, stack⟩
    | none => .error Reason.expectedValue.past

/-! ## Between values -/

/-- a number has ended: its value, which its place may not accept -/
def deliverNumber (n : Numeral) (shape : Shape) (back : Nat) (stack : List Frame) : Except Fault State :=
  if shape.isIgnored then .ok (deliver .null stack)
  else match n.value? with
    | none => .error ⟨.numberOutOfRange, back⟩
    | some v => deliverScalar shape (.number v) back stack

/-- a comma, the end of what is open, or a fault -/
def separate (stack : List Frame) (b : UInt8) : Except Fault State :=
  match stack, Char.ofUInt8 b with
  | .array _ :: _, ']' | .ignoredArray :: _, ']' | .tuple _ _ _ :: _, ']' => closeList stack
  | .object _ _ :: _, '\x7d' | .ignoredObject :: _, '\x7d' | .record _ _ _ :: _, '\x7d' => closeObject stack
  | .array _ :: _, ',' => .ok ⟨.nextItem .any, stack⟩
  | .ignoredArray :: _, ',' => .ok ⟨.nextItem .ignored, stack⟩
  | .tuple ((name, shape) :: fields) members _ :: below, ',' => .ok ⟨.nextItem shape, .tuple fields members name :: below⟩
  | .tuple [] _ _ :: _, ',' => .ok ⟨.surplus, stack⟩
  | .object _ _ :: _, ',' | .ignoredObject :: _, ',' | .record _ _ _ :: _, ',' => .ok ⟨.nextKey, stack⟩
  | .array _ :: _, _ | .ignoredArray :: _, _ | .tuple (_ :: _) _ _ :: _, _ => .error Reason.expectedListEnd.past
  | .object _ _ :: _, _ | .ignoredObject :: _, _ | .record _ _ _ :: _, _ => .error Reason.expectedObjectEnd.past
  | .tuple [] _ _ :: _, _ | [], _ => .error Reason.trailingCharacters.past

/-- whether what is open is passed over -/
def isIgnored : List Frame → Bool
  | .ignoredArray :: _ | .ignoredObject :: _ => true
  | _ => false

/-- a key is complete -/
def deliverKey (s : StringLiteral) (stack : List Frame) : Except Fault State :=
  match stack with
  | .object members _ :: below => do
    let key ← s.text
    return ⟨.colon .any, .object members key :: below⟩
  | .record fields members _ :: below => do
    let key ← s.text
    match fields.lookup key with
    | none => return ⟨.colon .ignored, .record fields members key :: below⟩
    | some shape =>
      if (members.lookup key).isSome then return ⟨.repeated key, stack⟩
      return ⟨.colon shape, .record fields members key :: below⟩
  | stack => .ok ⟨.colon .ignored, stack⟩

/-! ## The machine -/

/-- whether blanks are passed over -/
def Phase.skipsBlanks : Phase → Bool
  | .key _ | .literal _ _ _ | .string _ _ | .number _ _ => false
  | _ => true

/-- an octet after a complete value -/
def afterValue (st : State) (b : UInt8) : Except Fault State :=
  if isBlank b then .ok st else separate st.stack b

/-- one octet that is not passed over; a number ends before the first octet that does not go on with it -/
def stepSolid (st : State) (b : UInt8) : Except Fault State :=
  match st.phase with
  | .value shape => startValue shape st.stack b
  | .firstItem shape => if b == 93 then closeList st.stack else startValue shape st.stack b
  | .nextItem shape =>
    if b == 93 && !isIgnored st.stack then .error Reason.trailingComma.past else startValue shape st.stack b
  | .firstKey =>
    if b == 125 then closeObject st.stack
    else if b == 34 then .ok ⟨.key .start, st.stack⟩
    else .error Reason.keyNotString.past
  | .nextKey =>
    if b == 34 then .ok ⟨.key .start, st.stack⟩
    else if b == 125 && !isIgnored st.stack then .error Reason.trailingComma.past
    else .error Reason.keyNotString.past
  | .key s => do
    match ← s.step (isIgnored st.stack) b with
    | some s => return ⟨.key s, st.stack⟩
    | none => deliverKey s st.stack
  | .colon shape => if b == 58 then .ok ⟨.value shape, st.stack⟩ else .error Reason.expectedColon.past
  | .afterValue | .finished _ => afterValue st b
  | .literal rest v shape =>
    match rest with
    | [] => .error Reason.expectedLiteral.past
    | c :: rest =>
      if Char.ofUInt8 b != c then .error Reason.expectedLiteral.past
      else if rest.isEmpty then deliverScalar shape v 0 st.stack
      else .ok ⟨.literal rest v shape, st.stack⟩
  | .string s shape => do
    match ← s.step shape.isIgnored b with
    | some s => return ⟨.string s shape, st.stack⟩
    | none =>
      if shape.isIgnored then return deliver .null st.stack
      deliverScalar shape (.string (← s.text)) 0 st.stack
  | .number n shape => do
    match ← n.step shape.isIgnored b with
    | some n => return ⟨.number n shape, st.stack⟩
    | none => afterValue (← deliverNumber n shape 1 st.stack) b
  | .repeated name => .error (if b == 125 then (Reason.repeatedField name).past else (Reason.repeatedField name).here)
  | .surplus => .error (if b == 93 then Reason.trailingComma.past else Reason.trailingCharacters.past)

/-- one octet -/
def step (st : State) (b : UInt8) : Except Fault State :=
  if st.phase.skipsBlanks && isBlank b then .ok st else stepSolid st b

/-- the reason for a refusal at the end of the text -/
def endReason (lenient : Bool) : Phase → List Frame → Reason
  | .firstItem _, _ => .endInList
  | .firstKey, _ | .colon _, _ => .endInObject
  | .nextKey, _ => if lenient then .endInObject else .endInValue
  | .key _, _ | .string _ _, _ => .endInString
  | .afterValue, .array _ :: _ | .afterValue, .tuple _ _ _ :: _ | .afterValue, .ignoredArray :: _ => .endInList
  | .afterValue, _ => .endInObject
  | .number _ shape, _ => if shape.isIgnored then .invalidNumber else .endInValue
  | .repeated name, _ => .repeatedField name
  | .surplus, _ => .trailingCharacters
  | _, _ => .endInValue

/-- the value at the end of the text -/
def finish (st : State) : Except Fault Json := do
  let st ← match st.phase with
    | .number n shape => if n.isComplete then deliverNumber n shape 0 st.stack else pure st
    | _ => pure st
  match st.phase with
  | .finished v => return v
  | phase => .error (endReason (isIgnored st.stack) phase st.stack).past

/-- runs the machine; a refusal counts the octets up to its place -/
def run (st : State) (count : Nat) : List UInt8 → Except (Reason × Nat) State
  | [] => .ok st
  | b :: rest =>
    match step st b with
    | .ok st => run st (count + 1) rest
    | .error fault => .error (fault.reason, count + 1 - fault.back)

end Reader

/-- reads a value of a shape that takes up the whole text -/
def readShape (shape : Shape) (octets : List UInt8) : Except ReadError Json :=
  match Reader.run ⟨.value shape, []⟩ 0 octets with
  | .error (reason, count) => .error (.atEnd reason (octets.take count))
  | .ok st =>
    match Reader.finish st with
    | .ok v => .ok v
    | .error fault => .error (.atEnd fault.reason octets)

/-- reads any value that takes up the whole text -/
def read (octets : List UInt8) : Except ReadError Json :=
  readShape .any octets

/-- reads any value out of a text -/
def ofText (s : String) : Except ReadError Json :=
  read (Utf8.encode s)

end SqlGateway.Json
