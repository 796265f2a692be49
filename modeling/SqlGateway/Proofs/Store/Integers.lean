/-
Integer columns. A cell is a number exactly if its octets are an integer in decimal digits that 64 bits hold, with a sign
or without one; then it is that integer. Any other cell, one that is too large among them, is kept as its text, so the
digits of an integer survive in every case.

`integer_columns_exact` says this of both kinds of integer columns.
-/
import SqlGateway.Json.Printer
import SqlGateway.Proofs.Text.Decimal
import SqlGateway.Proofs.Text.Utf8
import SqlGateway.Store.Column

namespace SqlGateway

open Text (SpellsInteger SpellsNatural)

/-! ## Octets and their text -/

/-- every character is of ASCII -/
def IsAscii (cs : List Char) : Prop := ∀ c ∈ cs, c.toNat < 128

theorem isAscii_of_digits {cs : List Char} (h : Text.Digits cs) : IsAscii cs := by
  intro c hc
  have hrange := Text.digit_range (h c hc)
  omega

theorem isAscii_of_spellsNatural {cs : List Char} {n : Nat} (h : SpellsNatural cs n) : IsAscii cs := by
  rcases h with ⟨-, hdigits⟩ | ⟨-, hdigits⟩
  · exact isAscii_of_digits hdigits
  · exact List.forall_mem_cons.2 ⟨by decide, isAscii_of_digits hdigits⟩

theorem isAscii_of_spellsInteger {cs : List Char} {n : Int} (h : SpellsInteger cs n) : IsAscii cs := by
  rcases h with hnatural | ⟨-, hdigits⟩
  · exact isAscii_of_spellsNatural hnatural
  · exact List.forall_mem_cons.2 ⟨by decide, isAscii_of_digits hdigits⟩

/-- what is read as ASCII has no other octets than its own -/
theorem decodeLossy_ascii {octets : List UInt8} {p : List Char → Prop} (hp : ∀ cs, p cs → IsAscii cs) :
    p (Utf8.decodeLossy octets).toList ↔ ∃ text, octets = Utf8.encode text ∧ p text.toList := by
  constructor
  · intro h
    refine ⟨Utf8.decodeLossy octets, ?_, h⟩
    apply Eq.symm
    apply Utf8.encode_decodeLossy
    intro hreplaced
    exact absurd (hp _ h _ hreplaced) (by decide)
  · rintro ⟨text, rfl, h⟩
    rwa [Utf8.decodeLossy_encode]

/-! ## Values of integer columns -/

theorem boundedInteger?_eq_some {low high n : Int} {v : Json} :
    ColumnKind.boundedInteger? low high n = some v ↔ (low ≤ n ∧ n < high) ∧ v = .number (.integer n) := by
  unfold ColumnKind.boundedInteger?
  split <;> simp_all [eq_comm]

/-- the octets spell an integer of 64 bits with a sign bit -/
def SpellsSigned (octets : List UInt8) (n : Int) : Prop :=
  (∃ text, octets = Utf8.encode text ∧ SpellsInteger text.toList n) ∧ -2 ^ 63 ≤ n ∧ n < 2 ^ 63

/-- the octets spell a natural number of 64 bits -/
def SpellsUnsigned (octets : List UInt8) (n : Nat) : Prop :=
  (∃ text, octets = Utf8.encode text ∧ SpellsNatural text.toList n) ∧ n < 2 ^ 64

theorem typed_signed {octets : List UInt8} {v : Json} :
    ColumnKind.signed.typed? octets = some v ↔ ∃ n, SpellsSigned octets n ∧ v = .number (.integer n) := by
  have hspelled : ∀ n, Text.integer? (Utf8.decodeLossy octets).toList = some n ↔
      ∃ text, octets = Utf8.encode text ∧ SpellsInteger text.toList n := by
    intro n
    rw [Text.integer?_eq_some]
    exact decodeLossy_ascii fun cs => isAscii_of_spellsInteger
  simp only [ColumnKind.typed?, Option.bind_eq_some_iff, boundedInteger?_eq_some, hspelled, SpellsSigned, and_assoc]
  rfl

theorem typed_unsigned {octets : List UInt8} {v : Json} :
    ColumnKind.unsigned.typed? octets = some v ↔
      ∃ n, SpellsUnsigned octets n ∧ v = .number (.integer n) := by
  have hspelled : ∀ n, Text.natural? (Utf8.decodeLossy octets).toList = some n ↔
      ∃ text, octets = Utf8.encode text ∧ SpellsNatural text.toList n := by
    intro n
    rw [Text.natural?_eq_some]
    exact decodeLossy_ascii fun cs => isAscii_of_spellsNatural
  have hhigh : (UInt64.size : Int) = 2 ^ 64 := by decide
  simp only [ColumnKind.typed?, Option.bind_eq_some_iff, boundedInteger?_eq_some, hspelled, SpellsUnsigned, and_assoc,
    hhigh]
  refine exists_congr fun n => and_congr_right fun _ => ?_
  constructor
  · rintro ⟨-, hbound, rfl⟩
    exact ⟨by omega, rfl⟩
  · rintro ⟨hbound, rfl⟩
    exact ⟨by omega, by omega, rfl⟩

/-- numbers are only what a column's type makes of the octets -/
theorem value_eq_number {kind : ColumnKind} {octets : List UInt8} {v : Number} :
    kind.value octets = .number v ↔ kind.typed? octets = some (.number v) := by
  unfold ColumnKind.value
  cases kind.typed? octets <;> simp

/-- the two kinds of integer columns -/
def integerKinds : List ColumnKind := [.signed, .unsigned]

theorem typed_number {kind : ColumnKind} (hkind : kind ∈ integerKinds) {octets : List UInt8} {v : Json}
    (h : kind.typed? octets = some v) : ∃ n : Int, v = .number (.integer n) := by
  simp only [integerKinds, List.mem_cons, List.not_mem_nil, or_false] at hkind
  rcases hkind with rfl | rfl
  · obtain ⟨n, -, rfl⟩ := typed_signed.1 h
    exact ⟨n, rfl⟩
  · obtain ⟨n, -, rfl⟩ := typed_unsigned.1 h
    exact ⟨n, rfl⟩

/-- what is no number is kept -/
theorem value_eq_text {kind : ColumnKind} (hkind : kind ∈ integerKinds) {octets : List UInt8}
    (h : ∀ v, kind.value octets ≠ .number v) : kind.value octets = .string (Utf8.decodeLossy octets) := by
  cases htyped : kind.typed? octets with
  | none => rw [ColumnKind.value, htyped, Option.getD_none]
  | some v =>
    obtain ⟨n, rfl⟩ := typed_number hkind htyped
    exact absurd (value_eq_number.2 htyped) (h _)

/-- the decimal form of an integer is read as that integer, if it is read -/
theorem typed_toString {kind : ColumnKind} (hkind : kind ∈ integerKinds) {n : Int} {v : Json}
    (h : kind.typed? (Utf8.encode (toString n)) = some v) : v = .number (.integer n) := by
  simp only [integerKinds, List.mem_cons, List.not_mem_nil, or_false] at hkind
  rcases hkind with rfl | rfl
  · simp only [ColumnKind.typed?, Utf8.decodeLossy_encode, Text.integer?_toString, Option.bind_some] at h
    exact (boundedInteger?_eq_some.1 h).2
  · simp only [ColumnKind.typed?, Utf8.decodeLossy_encode] at h
    obtain ⟨m, hm, hv⟩ := Option.bind_eq_some_iff.1 h
    rw [Text.natural?_toString hm]
    exact (boundedInteger?_eq_some.1 hv).2

theorem scalarText?_value_toString {kind : ColumnKind} (hkind : kind ∈ integerKinds) (n : Int) :
    (kind.value (Utf8.encode (toString n))).scalarText? = some (toString n) := by
  cases htyped : kind.typed? (Utf8.encode (toString n)) with
  | none =>
    rw [ColumnKind.value, htyped, Option.getD_none, Utf8.decodeLossy_encode]
    rfl
  | some v =>
    rw [ColumnKind.value, htyped, Option.getD_some, typed_toString hkind htyped]
    rfl

/-! ## Main result -/

/-- **Integer columns lose no digit.** A cell of a column with a sign bit is a number exactly if its octets spell an
integer from `-2^63` up to `2^63`, and then it is that integer; without a sign bit, exactly if they spell a natural
number below `2^64` and no minus. In every other case the cell is its text. So the decimal form of an integer of any
size, in either kind of column, gives a value with that text. -/
theorem integer_columns_exact :
    (∀ octets v, ColumnKind.signed.value octets = .number v ↔ ∃ n, SpellsSigned octets n ∧ v = .integer n) ∧
    (∀ octets v, ColumnKind.unsigned.value octets = .number v ↔ ∃ n, SpellsUnsigned octets n ∧ v = .integer n) ∧
    ∀ kind ∈ integerKinds,
      (∀ octets, (∀ v, kind.value octets ≠ .number v) → kind.value octets = .string (Utf8.decodeLossy octets)) ∧
      ∀ n : Int, (kind.value (Utf8.encode (toString n))).scalarText? = some (toString n) := by
  refine ⟨?_, ?_, ?_⟩
  · intro octets v
    simp only [value_eq_number, typed_signed, Json.number.injEq]
  · intro octets v
    simp only [value_eq_number, typed_unsigned, Json.number.injEq]
  · intro kind hkind
    exact ⟨fun octets => value_eq_text hkind, scalarText?_value_toString hkind⟩

/-- the least signed integer, the first that is too large, and the greatest unsigned one behind a plus -/
theorem integer_columns_at_bounds :
    ColumnKind.signed.value (Utf8.encode "-9223372036854775808") = .number (.integer (-2 ^ 63)) ∧
      (ColumnKind.signed ∈ integerKinds ∧
        ∀ v, ColumnKind.signed.value (Utf8.encode "9223372036854775808") ≠ .number v) ∧
      ColumnKind.signed.value (Utf8.encode "9223372036854775808") = .string "9223372036854775808" ∧
      ColumnKind.unsigned.value (Utf8.encode "+18446744073709551615") = .number (.integer (2 ^ 64 - 1)) := by
  obtain ⟨hsigned, hunsigned, hkept⟩ := integer_columns_exact
  have hleast : SpellsInteger "-9223372036854775808".toList (-2 ^ 63) := Text.integer?_eq_some.1 (by rfl)
  have hgreatest : SpellsNatural "+18446744073709551615".toList (2 ^ 64 - 1) := Text.natural?_eq_some.1 (by rfl)
  have hlarge : Text.integer? "9223372036854775808".toList = some (2 ^ 63) := by rfl
  have hnumber : ∀ v, ColumnKind.signed.value (Utf8.encode "9223372036854775808") ≠ .number v := by
    intro v hv
    obtain ⟨n, ⟨⟨text, htext, hspells⟩, -, hbound⟩, -⟩ := (hsigned _ _).1 hv
    have hread := Text.integer?_eq_some.2 hspells
    rw [← Utf8.decodeLossy_encode text, ← htext, Utf8.decodeLossy_encode, hlarge] at hread
    obtain rfl := Option.some.inj hread
    omega
  refine ⟨(hsigned _ _).2 ⟨_, ⟨⟨_, rfl, hleast⟩, by omega, by omega⟩, rfl⟩, ⟨by decide, hnumber⟩, ?_,
    (hunsigned _ _).2 ⟨_, ⟨⟨_, rfl, hgreatest⟩, by omega⟩, rfl⟩⟩
  have htext := (hkept .signed (by decide)).1 _ hnumber
  rwa [Utf8.decodeLossy_encode] at htext

end SqlGateway
