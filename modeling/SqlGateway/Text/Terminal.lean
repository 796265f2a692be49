/-
Control sequences of a terminal, and texts without them. ESC begins a sequence, CAN and SUB end any. By what follows ESC it
is an escape of one letter, a control sequence up to its final letter, a command up to BEL, or a string up to the octet of
the string terminator.

`plain` keeps what stands outside of sequences and is no control character. Line breaks, tabs and form feeds are kept where
they stand, within most sequences too: there they interrupt the sequence, which the next control character resumes.
-/
import SqlGateway.Text.Utf8

namespace SqlGateway.Text.Terminal

/-- a sequence by what has been read of it -/
inductive Sequence where
  /-- ESC -/
  | escape
  /-- ESC and signs between the space and the slash -/
  | designation
  /-- ESC and `[` -/
  | control
  /-- ESC and `P` -/
  | device
  /-- a device string with parameters -/
  | deviceParameters
  /-- a device string with signs between the space and the slash -/
  | deviceDesignation
  /-- the content of a string -/
  | string
  /-- ESC and `]` -/
  | command
  deriving DecidableEq, Repr

/-- whether a character lies between two -/
def within (low high c : Char) : Bool := low ≤ c && c ≤ high

/-- the octet that ends a string -/
def stringTerminator : UInt8 := 0x9C

namespace Sequence

/-- the sequence after the character behind ESC, if it goes on -/
def afterEscape (c : Char) : Option Sequence :=
  match c with
  | '[' => some control
  | ']' => some command
  | 'P' => some device
  | 'X' | '^' | '_' => some string
  | c =>
    if within ' ' '/' c then some designation
    else if within '0' '~' c then none
    else some escape

/-- the sequence after one more character, if it goes on -/
def next (s : Sequence) (c : Char) : Option Sequence :=
  match s with
  | escape => afterEscape c
  | designation => if within '0' '~' c then none else some designation
  | control => if within '@' '~' c then none else some control
  | device =>
    if within ' ' '/' c then some deviceDesignation
    else if within '0' '?' c then some deviceParameters
    else if within '@' '~' c then some string
    else some device
  | deviceParameters =>
    if within ' ' '/' c then some deviceDesignation
    else if within '<' '~' c then some string
    else some deviceParameters
  | deviceDesignation => if within '0' '~' c then some string else some deviceDesignation
  | string => if (Utf8.encode (String.singleton c)).contains stringTerminator then none else some string
  | command => if c = '\x07' then none else some command

/-- whether blanks are kept within the sequence -/
def keepsBlanks : Sequence → Bool
  | escape | designation | control => true
  | device | deviceParameters | deviceDesignation | string | command => false

end Sequence

/-! ## Texts -/

/-- tab, line feed, form feed, carriage return -/
def isControlBlank (c : Char) : Bool := c == '\t' || c == '\n' || c == '\x0c' || c == '\r'

/-- kept outside of sequences -/
def isKept (c : Char) : Bool := isControlBlank c || (' ' ≤ c && c != '\x7f')

/-- where a text stands: outside of sequences, one of which may have been interrupted, or within one -/
inductive Position where
  | outside (interrupted : Option Sequence)
  | inside (s : Sequence)
  deriving DecidableEq, Repr

/-- one character: whether it is kept, and where the text stands after it -/
def step (p : Position) (c : Char) : Bool × Position :=
  match p with
  | .outside interrupted =>
    if isKept c then (true, .outside (if c.toNat < 128 then interrupted else none))
    else if c = '\x1b' then (false, .inside .escape)
    else if c = '\x18' ∨ c = '\x1a' then (false, .outside none)
    else (false, interrupted.elim (.outside none) .inside)
  | .inside s =>
    if c = '\x1b' then (false, .inside .escape)
    else if c = '\x18' ∨ c = '\x1a' then (false, .outside none)
    else if s.keepsBlanks && isControlBlank c then (true, .outside (some s))
    else (false, (s.next c).elim (.outside none) .inside)

/-- the characters kept from a position on -/
def kept (p : Position) : List Char → List Char
  | [] => []
  | c :: rest =>
    let (keep, p) := step p c
    if keep then c :: kept p rest else kept p rest

/-- a text without control sequences and control characters -/
def plain (s : String) : String := String.ofList (kept (.outside none) s.toList)

end SqlGateway.Text.Terminal
