/-
UTF-8 text on the wire. `encode` writes a text as octets; `pieces` cuts any octets into characters and maximal pieces
that are no character, one octet at a time. Strict and tolerant decoding are two readings of the same pieces:
- `decode?` gives the text only when every piece is a character;
- `decodeLossy` writes U+FFFD for every piece that is none;
- `validLength` counts the octets before the first piece that is none.

Main statement: `pieces_encode`, the pieces of an encoded text are its characters.
-/

namespace SqlGateway.Utf8

/-! ## Writing -/

/-- the octets of a text -/
def encode (s : String) : List UInt8 :=
  s.toList.flatMap String.utf8EncodeChar

@[simp] theorem encode_append (s t : String) : encode (s ++ t) = encode s ++ encode t := by
  simp [encode]

/-! ## Reading -/

/-- a character, or a maximal run of octets that is none -/
abbrev Piece := Option Char

/-- a character of which only the first octets are read: its bits so far, how many octets follow the next one, and the
range of the next one -/
structure Pending where
  bits : Nat
  more : Nat
  low : Nat
  high : Nat

/-- an octet where a character may begin: what it completes, and what it leaves open -/
def lead (b : Nat) : List Piece × Option Pending :=
  if b < 0x80 then ([some (Char.ofNat b)], none)
  else if b < 0xC2 then ([none], none)
  else if b < 0xE0 then ([], some ⟨b - 0xC0, 0, 0x80, 0xBF⟩)
  else if b < 0xF0 then
    ([], some ⟨b - 0xE0, 1, if b = 0xE0 then 0xA0 else 0x80, if b = 0xED then 0x9F else 0xBF⟩)
  else if b < 0xF5 then
    ([], some ⟨b - 0xF0, 2, if b = 0xF0 then 0x90 else 0x80, if b = 0xF4 then 0x8F else 0xBF⟩)
  else ([none], none)

/-- an octet after an open character: it goes on, or the open piece ends as none and the octet begins anew -/
def step : Option Pending → Nat → List Piece × Option Pending
  | none, b => lead b
  | some p, b =>
    if p.low ≤ b ∧ b ≤ p.high then
      match p.more with
      | 0 => ([some (Char.ofNat (p.bits * 64 + (b - 0x80)))], none)
      | n + 1 => ([], some ⟨p.bits * 64 + (b - 0x80), n, 0x80, 0xBF⟩)
    else (none :: (lead b).1, (lead b).2)

/-- the pieces that follow when a character may be open -/
def piecesFrom : Option Pending → List UInt8 → List Piece
  | none, [] => []
  | some _, [] => [none]
  | open?, b :: rest => (step open? b.toNat).1 ++ piecesFrom (step open? b.toNat).2 rest

/-- the octets cut into characters and maximal pieces that are none -/
def pieces (octets : List UInt8) : List Piece :=
  piecesFrom none octets

/-- the text, if every piece is a character -/
def decode? (octets : List UInt8) : Option String :=
  ((pieces octets).mapM id).map String.ofList

/-- the text with U+FFFD for every piece that is no character -/
def decodeLossy (octets : List UInt8) : String :=
  String.ofList ((pieces octets).map (·.getD '\uFFFD'))

/-- how many octets stand before the first piece that is no character -/
def validLength (octets : List UInt8) : Nat :=
  ((pieces octets).takeWhile Option.isSome).foldl (fun n piece => n + piece.elim 0 Char.utf8Size) 0

/-! ## Reading what was written -/

theorem piecesFrom_encodeChar (c : Char) (rest : List UInt8) :
    piecesFrom none (String.utf8EncodeChar c ++ rest) = some c :: piecesFrom none rest := by
  have hv : c.val.toNat < 0xD800 ∨ 0xDFFF < c.val.toNat ∧ c.val.toNat < 0x110000 := c.valid
  have hc : Char.ofNat c.val.toNat = c := Char.ofNat_toNat c
  rw [String.utf8EncodeChar]
  generalize c.val.toNat = v at hv hc
  split
  · simp only [List.cons_append, List.nil_append, piecesFrom, step, lead, UInt8.toNat_ofNat']
    rw [Nat.mod_eq_of_lt (by omega), if_pos (by omega)]
    simp [hc]
  split
  · have e : (v / 64 % 32 + 192) % 2 ^ 8 - 0xC0 = v / 64 := by omega
    have f : v / 64 * 64 + ((v % 64 + 128) % 2 ^ 8 - 0x80) = v := by omega
    simp only [List.cons_append, List.nil_append, piecesFrom, step, lead, UInt8.toNat_ofNat', e]
    rw [if_neg (by omega), if_neg (by omega), if_pos (by omega)]
    simp only
    rw [if_pos (by omega)]
    simp only [f, hc, List.nil_append, List.cons_append]
  split
  · have e : (v / 4096 % 16 + 224) % 2 ^ 8 - 0xE0 = v / 4096 := by omega
    have f : (v / 4096 * 64 + ((v / 64 % 64 + 128) % 2 ^ 8 - 0x80)) * 64 + ((v % 64 + 128) % 2 ^ 8 - 0x80) = v := by
      omega
    simp only [List.cons_append, List.nil_append, piecesFrom, step, lead, UInt8.toNat_ofNat', e]
    rw [if_neg (by omega), if_neg (by omega), if_neg (by omega), if_pos (by omega)]
    simp only
    rw [if_pos (by constructor <;> split <;> omega)]
    simp only
    rw [if_pos (by omega)]
    simp only [f, hc, List.nil_append, List.cons_append]
  · have e : (v / 262144 % 8 + 240) % 2 ^ 8 - 0xF0 = v / 262144 := by omega
    have f : ((v / 262144 * 64 + ((v / 4096 % 64 + 128) % 2 ^ 8 - 0x80)) * 64 +
        ((v / 64 % 64 + 128) % 2 ^ 8 - 0x80)) * 64 + ((v % 64 + 128) % 2 ^ 8 - 0x80) = v := by
      omega
    simp only [List.cons_append, List.nil_append, piecesFrom, step, lead, UInt8.toNat_ofNat', e]
    rw [if_neg (by omega), if_neg (by omega), if_neg (by omega), if_neg (by omega), if_pos (by omega)]
    simp only
    rw [if_pos (by constructor <;> split <;> omega)]
    simp only
    rw [if_pos (by omega)]
    simp only
    rw [if_pos (by omega)]
    simp only [f, hc, List.nil_append, List.cons_append]

/-- **Characters come back whole**, whatever octets follow the text. -/
theorem pieces_encode_append (s : String) (rest : List UInt8) :
    pieces (encode s ++ rest) = s.toList.map some ++ pieces rest := by
  unfold encode pieces
  induction s.toList with
  | nil => rfl
  | cons c cs ih => simp [List.append_assoc, piecesFrom_encodeChar, ih]

theorem pieces_encode (s : String) : pieces (encode s) = s.toList.map some := by
  simpa [pieces, piecesFrom] using pieces_encode_append s []

theorem decode?_encode (s : String) : decode? (encode s) = some s := by
  have h : ∀ l : List Char, (l.map some).mapM id = some l := fun l => by
    induction l with
    | nil => rfl
    | cons c cs ih => simp [ih]
  simp [decode?, pieces_encode, h]

theorem decodeLossy_encode (s : String) : decodeLossy (encode s) = s := by
  simp [decodeLossy, pieces_encode, Function.comp_def]

end SqlGateway.Utf8
