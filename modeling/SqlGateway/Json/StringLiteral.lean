/-
Strings of a JSON text, read one octet at a time from after the opening quote. The octets of the text are collected and
decoded at the closing quote. A character beyond U+FFFF is escaped as two surrogates, which must stand together.

A string whose text is not wanted is read by `step true`: its escapes must be well formed, its characters need not exist.
-/
import SqlGateway.Text.Characters
import SqlGateway.Text.Utf8
import SqlGateway.Json.Fault

namespace SqlGateway.Json

namespace StringLiteral

/-- what is read next: text, an escape's letter, its four digits (the last read first), or the second half of a pair -/
inductive Phase where
  | plain
  | letter
  | digits (high : Option Nat) (read : List UInt8)
  | pairBackslash (high : Nat)
  | pairLetter (high : Nat)
  deriving DecidableEq

end StringLiteral

/-- a string so far; its octets, the last one first -/
structure StringLiteral where
  phase : StringLiteral.Phase
  octets : List UInt8
  deriving DecidableEq

namespace StringLiteral

/-- just after the opening quote -/
def start : StringLiteral := ⟨.plain, []⟩

/-- one more octet of the text -/
def push (s : StringLiteral) (b : UInt8) : StringLiteral := ⟨.plain, b :: s.octets⟩

/-- one more character of the text, by its code point -/
def pushCode (s : StringLiteral) (code : Nat) : StringLiteral :=
  ⟨.plain, (String.utf8EncodeChar (Char.ofNat code)).reverse ++ s.octets⟩

/-- the number that hexadecimal digits spell, the last digit first -/
def hexValue? : List UInt8 → Option Nat
  | [] => some 0
  | b :: earlier => do
    let d ← Text.hexDigit? b
    let n ← hexValue? earlier
    return n * 16 + d

def isHigh (unit : Nat) : Bool := 0xD800 ≤ unit && unit ≤ 0xDBFF

def isLow (unit : Nat) : Bool := 0xDC00 ≤ unit && unit ≤ 0xDFFF

/-- the code point of two surrogates -/
def pairCode (high low : Nat) : Nat := 0x10000 + (high - 0xD800) * 0x400 + (low - 0xDC00)

/-- the four digits of an escape have been read -/
def unit (lenient : Bool) (s : StringLiteral) (high : Option Nat) (read : List UInt8) : Except Fault StringLiteral :=
  match hexValue? read, high with
  | none, _ => .error Reason.invalidEscape.past
  | some unit, none =>
    if lenient then .ok ⟨.plain, s.octets⟩
    else if isLow unit then .error Reason.loneSurrogate.past
    else if isHigh unit then .ok ⟨.pairBackslash unit, s.octets⟩
    else .ok (s.pushCode unit)
  | some unit, some high =>
    if isLow unit then .ok (s.pushCode (pairCode high unit)) else .error Reason.loneSurrogate.past

/-- the octet that an escape's letter stands for -/
def escaped? (c : Char) : Option UInt8 :=
  match c with
  | '"' => some 34
  | '\\' => some 92
  | '/' => some 47
  | 'b' => some 8
  | 'f' => some 12
  | 'n' => some 10
  | 'r' => some 13
  | 't' => some 9
  | _ => none

/-- one octet; `none` when it is the closing quote -/
def step (lenient : Bool) (s : StringLiteral) (b : UInt8) : Except Fault (Option StringLiteral) :=
  match s.phase with
  | .plain =>
    if b == 34 then .ok none
    else if b == 92 then .ok (some ⟨.letter, s.octets⟩)
    else if b < 32 then .error (if lenient then Reason.controlCharacter.here else Reason.controlCharacter.past)
    else .ok (some (s.push b))
  | .letter =>
    if b == 117 then .ok (some ⟨.digits none [], s.octets⟩)
    else match escaped? (Char.ofUInt8 b) with
      | some e => .ok (some (s.push e))
      | none => .error Reason.invalidEscape.past
  | .digits high read =>
    if read.length < 3 then .ok (some ⟨.digits high (b :: read), s.octets⟩)
    else (s.unit lenient high (b :: read)).map some
  | .pairBackslash high =>
    if b == 92 then .ok (some ⟨.pairLetter high, s.octets⟩) else .error Reason.missingSurrogate.past
  | .pairLetter high =>
    if b == 117 then .ok (some ⟨.digits (some high) [], s.octets⟩) else .error Reason.missingSurrogate.past

/-- the text, when the closing quote has just been read; a piece that is no character is placed where it begins -/
def text (s : StringLiteral) : Except Fault String :=
  let octets := s.octets.reverse
  match Utf8.decode? octets with
  | some text => .ok text
  | none => .error ⟨.invalidText, octets.length - Utf8.validLength octets⟩

end StringLiteral

end SqlGateway.Json
