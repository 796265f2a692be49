/-
The compact text of a value is a text of it (`isText_compact`), for every value: whatever characters its strings have,
and however small or large its numbers are.

- `isNumeral_text`: the text of a number is a numeral. Its whole part has no zero in front, as the digits of its decimal
  have none, except for zero itself.
- `quotes_quoted`: what stands between the quotes spells the string.
- `printed_compact`: the compact text of a value stands on one line, whatever the value is.
-/
import SqlGateway.Json.Printer
import SqlGateway.Proofs.Json.Grammar
import SqlGateway.Proofs.Number.Zero
import SqlGateway.Proofs.Text.Utf8

namespace SqlGateway.Json

open Text (Digits)

/-! ## Digits -/

theorem ascii_of_digits {cs : List Char} (h : Digits cs) : ∀ c ∈ cs, c.toNat < 128 := by
  intro c hc
  have hrange := Text.digit_range (h c hc)
  omega

theorem isDigit_of_mem {cs : List Char} (h : Digits cs) : ∀ b ∈ cs.flatMap String.utf8EncodeChar, IsDigit b := by
  rw [Utf8.encodeChars_of_ascii (ascii_of_digits h)]
  intro b hb
  obtain ⟨c, hc, rfl⟩ := List.mem_map.1 hb
  exact isDigit_ofNat (h c hc)

theorem areDigits_of_digits {cs : List Char} (hne : cs ≠ []) (h : Digits cs) :
    AreDigits (cs.flatMap String.utf8EncodeChar) := by
  obtain ⟨c, cs, rfl⟩ := List.exists_cons_of_ne_nil hne
  obtain ⟨hc, hcs⟩ := List.forall_mem_cons.1 h
  rw [List.flatMap_cons, Utf8.encodeChar_of_small (ascii_of_digits h c List.mem_cons_self)]
  exact .digits (isDigit_ofNat hc) (isDigit_of_mem hcs)

/-- digits with no zero in front, or zero alone -/
structure Plain (cs : List Char) : Prop where
  digits : Digits cs
  nonempty : cs ≠ []
  lead : cs.head? = some '0' → cs = ['0']

theorem Plain.isWhole {cs : List Char} (h : Plain cs) : IsWhole (cs.flatMap String.utf8EncodeChar) := by
  obtain ⟨c, cs, rfl⟩ := List.exists_cons_of_ne_nil h.nonempty
  obtain ⟨hc, hcs⟩ := List.forall_mem_cons.1 h.digits
  by_cases hzero : c = '0'
  · rw [h.lead (by rw [hzero]; rfl)]
    exact .zero
  · rw [List.flatMap_cons, Utf8.encodeChar_of_small (ascii_of_digits h.digits c List.mem_cons_self)]
    refine .digits (isDigit_ofNat hc) (fun heq => hzero ?_) (isDigit_of_mem hcs)
    have hrange := Text.digit_range hc
    have hcode := congrArg UInt8.toNat heq
    rw [Utf8.toNat_octet (by omega)] at hcode
    exact Char.toNat_inj.1 hcode

theorem plain_zero : Plain ['0'] := ⟨by decide, by decide, fun _ => rfl⟩

theorem plain_toDigits (n : Nat) : Plain (Nat.toDigits 10 n) := by
  refine ⟨Text.digits_toDigits n, Nat.toDigits_ne_nil, fun hlead => ?_⟩
  rw [Text.head?_toDigits hlead]
  rfl

/-! ## Numerals -/

/-- before the exponent -/
def IsMantissa (octets : List UInt8) : Prop :=
  ∃ whole fraction, octets = whole ++ fraction ∧ IsWhole whole ∧ IsFraction fraction

theorem isMantissa_point {cs ds : List Char} (hcs : Plain cs) (hds : Digits ds) (hne : ds ≠ []) :
    IsMantissa ((cs ++ '.' :: ds).flatMap String.utf8EncodeChar) := by
  refine ⟨_, _, List.flatMap_append, hcs.isWhole, ?_⟩
  exact .point (areDigits_of_digits hne hds)

theorem isMantissa_positional {n : Nat} {exponent : Int} (h : n = 0 → exponent = 0) :
    IsMantissa ((Decimal.positional (Nat.toDigits 10 n) exponent).flatMap String.utf8EncodeChar) := by
  have hplain := plain_toDigits n
  unfold Decimal.positional Decimal.zeros
  split
  · -- zeros behind the digits
    have hzero : Digits ['0'] := by decide
    refine isMantissa_point ⟨?_, ?_, fun hlead => ?_⟩ hzero (List.cons_ne_nil _ _)
    · exact hplain.digits.append (Text.digits_zeros _)
    · exact List.append_ne_nil_of_left_ne_nil hplain.nonempty _
    · rw [List.head?_append_of_ne_nil _ hplain.nonempty] at hlead
      have hn := Text.head?_toDigits hlead
      rw [h hn, hn]
      rfl
  · rename_i hnegative
    simp only
    split
    · -- the point among the digits
      rename_i hinside
      refine isMantissa_point ⟨?_, ?_, fun hlead => ?_⟩ ?_ ?_
      · exact fun c hc => hplain.digits c (List.mem_of_mem_take hc)
      · simp [hplain.nonempty]
        omega
      · rw [List.head?_take, if_neg (by omega)] at hlead
        exact absurd (h (Text.head?_toDigits hlead)) (by omega)
      · exact fun c hc => hplain.digits c (List.mem_of_mem_drop hc)
      · simp
        omega
    · -- zeros between the point and the digits
      refine isMantissa_point plain_zero ?_ ?_
      · exact (Text.digits_zeros _).append hplain.digits
      · exact List.append_ne_nil_of_right_ne_nil _ hplain.nonempty

theorem Plain.isMantissa {cs : List Char} (h : Plain cs) : IsMantissa (cs.flatMap String.utf8EncodeChar) :=
  ⟨_, [], (List.append_nil _).symm, h.isWhole, .none⟩

/-- one digit is plain, whichever it is -/
theorem plain_singleton {c : Char} (h : c.isDigit = true) : Plain [c] := by
  refine ⟨List.forall_mem_singleton.2 h, List.cons_ne_nil _ _, fun hlead => ?_⟩
  rw [List.head?_cons, Option.some.injEq] at hlead
  rw [hlead]

/-- behind a mantissa, the exponent -/
theorem isExponent_scientific (power : Int) :
    IsExponent (('e' :: (if 0 ≤ power then '+' else '-') :: Nat.toDigits 10 power.natAbs).flatMap
      String.utf8EncodeChar) := by
  have hdigits := areDigits_of_digits Nat.toDigits_ne_nil (Text.digits_toDigits power.natAbs)
  generalize Nat.toDigits 10 power.natAbs = digits at hdigits ⊢
  split
  · have hplus : ('e' :: '+' :: digits).flatMap String.utf8EncodeChar =
        101 :: ([43] ++ digits.flatMap String.utf8EncodeChar) := rfl
    rw [hplus]
    exact .mark (by decide) (by decide) hdigits
  · have hminus : ('e' :: '-' :: digits).flatMap String.utf8EncodeChar =
        101 :: ([45] ++ digits.flatMap String.utf8EncodeChar) := rfl
    rw [hminus]
    exact .mark (by decide) (by decide) hdigits

theorem IsMantissa.isNumeral {sign octets exponent : List UInt8} (h : IsMantissa octets) (hsign : sign ∈ [[], [45]])
    (hexponent : IsExponent exponent) : IsNumeral (sign ++ (octets ++ exponent)) := by
  obtain ⟨whole, fraction, rfl, hwhole, hfraction⟩ := h
  rw [List.append_assoc]
  exact .parts hsign hwhole hfraction hexponent

theorem isNumeral_scientific {sign : List UInt8} (hsign : sign ∈ [[], [45]]) {digits : List Char} (hne : digits ≠ [])
    (h : Digits digits) (power : Int) :
    IsNumeral (sign ++ (Decimal.scientific digits power).flatMap String.utf8EncodeChar) := by
  obtain ⟨first, rest, rfl⟩ := List.exists_cons_of_ne_nil hne
  obtain ⟨hfirst, hrest⟩ := List.forall_mem_cons.1 h
  have hplain := plain_singleton hfirst
  unfold Decimal.scientific
  cases rest with
  | nil =>
    rw [List.flatMap_append]
    exact hplain.isMantissa.isNumeral hsign (isExponent_scientific power)
  | cons second rest =>
    have hpoint : first :: '.' :: second :: rest = [first] ++ '.' :: second :: rest := rfl
    simp only
    rw [List.flatMap_append, hpoint]
    exact (isMantissa_point hplain hrest (List.cons_ne_nil _ _)).isNumeral hsign (isExponent_scientific power)

theorem isNumeral_decimal {sign : List UInt8} (hsign : sign ∈ [[], [45]]) {d : Decimal}
    (h : d.digits = 0 → d.exponent = 0) : IsNumeral (sign ++ d.chars.flatMap String.utf8EncodeChar) := by
  unfold Decimal.chars
  simp only
  split
  · rw [← List.append_nil (List.flatMap _ _)]
    exact (isMantissa_positional h).isNumeral hsign .none
  · exact isNumeral_scientific hsign Nat.toDigits_ne_nil (Text.digits_toDigits _) _

theorem isNumeral_float (f : Binary64) : IsNumeral (Utf8.encode f.text) := by
  rw [Binary64.text, Utf8.encode_append, Utf8.encode_ofList]
  split
  · exact isNumeral_decimal (by decide) Decimal.shortest_of_zero
  · exact isNumeral_decimal (by decide) Decimal.shortest_of_zero

theorem isNumeral_integer (n : Int) : IsNumeral (Utf8.encode (toString n)) := by
  have hsigned : ∀ (k : Nat) (sign : List UInt8), sign ∈ [[], [45]] →
      IsNumeral (sign ++ (Nat.toDigits 10 k).flatMap String.utf8EncodeChar) := by
    intro k sign hsign
    rw [← List.append_nil (List.flatMap _ _)]
    exact (plain_toDigits k).isMantissa.isNumeral hsign .none
  rw [Utf8.encode]
  by_cases hnegative : 0 ≤ n
  · rw [Text.toString_of_nonneg hnegative]
    exact hsigned _ [] (by decide)
  · rw [Text.toString_of_neg (by omega)]
    exact hsigned _ [45] (by decide)

/-! ## Strings -/

theorem hexDigit?_digitChar : ∀ d < 16, Text.hexDigit? (UInt8.ofNat (Nat.digitChar d).toNat) = some d := by decide

theorem toNat_digitChar_lt : ∀ d < 16, (Nat.digitChar d).toNat < 128 := by decide

/-- a control character, by its code -/
theorem spellsChar_control {c : Char} (h : c.toNat < 0x20) :
    SpellsChar c (['\\', 'u', '0', '0', Nat.digitChar (c.toNat / 16), Nat.digitChar (c.toNat % 16)].flatMap
      String.utf8EncodeChar) := by
  have hhigh : c.toNat / 16 < 16 := by omega
  have hlow : c.toNat % 16 < 16 := by omega
  have hzero : Text.hexDigit? 48 = some 0 := rfl
  have hcode := SpellsUnit.digits hzero hzero (hexDigit?_digitChar _ hhigh) (hexDigit?_digitChar _ hlow)
  have hvalue : ((0 * 16 + 0) * 16 + c.toNat / 16) * 16 + c.toNat % 16 = c.toNat := by omega
  rw [hvalue] at hcode
  rw [Utf8.encodeChars_of_ascii (by simp [toNat_digitChar_lt _ hhigh, toNat_digitChar_lt _ hlow])]
  exact .code hcode

theorem spellsChar_quoted (c : Char) : SpellsChar c ((quotedChar c).flatMap String.utf8EncodeChar) := by
  unfold quotedChar
  split
  · exact .letter (b := 34) (by decide)
  · exact .letter (b := 92) (by decide)
  · exact .letter (b := 98) (by decide)
  · exact .letter (b := 102) (by decide)
  · exact .letter (b := 110) (by decide)
  · exact .letter (b := 114) (by decide)
  · exact .letter (b := 116) (by decide)
  · rename_i hquote hslash _ _ _ _ _
    split
    · rename_i hcontrol
      exact spellsChar_control hcontrol
    · rename_i hprinted
      rw [List.flatMap_singleton]
      exact .plain (Nat.le_of_not_lt hprinted) hquote hslash

theorem spellsChars_quoted (cs : List Char) : SpellsChars cs ((cs.flatMap quotedChar).flatMap String.utf8EncodeChar) := by
  induction cs with
  | nil => exact .nil
  | cons c cs ih =>
    rw [List.flatMap_cons, List.flatMap_append]
    exact .cons (spellsChar_quoted c) ih

theorem quotes_quoted (s : String) : Quotes s ((quoted s).flatMap String.utf8EncodeChar) := by
  have hinner := Quotes.quotes (spellsChars_quoted s.toList)
  rw [quoted, List.cons_append, List.flatMap_cons, List.flatMap_append]
  exact hinner

/-! ## Values -/

theorem writesMember_quoted (key : String) {v : Json} {octets : List UInt8} (h : Writes v octets) :
    WritesMember key v ((quoted key).flatMap String.utf8EncodeChar ++ 58 :: octets) := by
  have hmember := WritesMember.member blanks_nil (quotes_quoted key) blanks_nil (.of_writes h)
  rwa [List.nil_append, List.append_nil] at hmember

/-- the octets of a member and what is behind it -/
theorem octets_member (mark : Char) (key : String) (v : Json) (rest : List Char) :
    (mark :: quoted key ++ ':' :: chars v ++ rest).flatMap String.utf8EncodeChar =
      String.utf8EncodeChar mark ++ ((quoted key).flatMap String.utf8EncodeChar ++
        58 :: (chars v).flatMap String.utf8EncodeChar ++ rest.flatMap String.utf8EncodeChar) := by
  simp only [List.flatMap_append, List.flatMap_cons, List.append_assoc]
  rfl

mutual

theorem writes_chars : ∀ v : Json, Writes v ((chars v).flatMap String.utf8EncodeChar)
  | .null => .null
  | .bool true => .bool true
  | .bool false => .bool false
  | .number (.integer n) => .integer n
  | .number (.float f) => .float f (isNumeral_float f)
  | .string s => .string (quotes_quoted s)
  | .array [] => .emptyArray blanks_nil
  | .array (item :: rest) => by
    obtain ⟨octets, hitems, heq⟩ := writes_itemsTail rest (.of_writes (writes_chars item))
    rw [chars, List.cons_append, List.flatMap_cons, List.flatMap_append, heq]
    exact .array hitems
  | .object [] => .emptyObject blanks_nil
  | .object ((key, v) :: rest) => by
    obtain ⟨octets, hmembers, heq⟩ := writes_membersTail rest (writesMember_quoted key (writes_chars v))
    rw [chars, octets_member, heq]
    exact .object hmembers

/-- behind the first item -/
theorem writes_itemsTail : ∀ (items : List Json) {v : Json} {first : List UInt8}, WritesPadded v first →
    ∃ octets, WritesItems (v :: items) octets ∧ first ++ (itemsTail items).flatMap String.utf8EncodeChar = octets ++ [93]
  | [], v, first, h => ⟨first, .last h, rfl⟩
  | item :: rest, v, first, h => by
    obtain ⟨octets, hitems, heq⟩ := writes_itemsTail rest (.of_writes (writes_chars item))
    refine ⟨first ++ 44 :: octets, .more h hitems, ?_⟩
    rw [itemsTail, List.cons_append, List.flatMap_cons, List.flatMap_append, heq, List.append_assoc]
    rfl

/-- behind the first member -/
theorem writes_membersTail : ∀ (members : List (String × Json)) {key : String} {v : Json} {first : List UInt8},
    WritesMember key v first → ∃ octets, WritesMembers ((key, v) :: members) octets ∧
      first ++ (membersTail members).flatMap String.utf8EncodeChar = octets ++ [125]
  | [], key, v, first, h => ⟨first, .last h, rfl⟩
  | (name, item) :: rest, key, v, first, h => by
    obtain ⟨octets, hmembers, heq⟩ := writes_membersTail rest (writesMember_quoted name (writes_chars item))
    refine ⟨first ++ 44 :: octets, .more h hmembers, ?_⟩
    rw [membersTail, octets_member, heq, List.append_assoc]
    rfl

end

/-- **The compact text of a value is a text of it.** -/
theorem isText_compact (v : Json) : IsText v (Utf8.encode v.compact) := by
  rw [compact, Utf8.encode_ofList]
  exact .of_writes (writes_chars v)

/-! ## On one line -/

theorem printed_of_all {cs : List Char} (h : (cs.all fun c => 32 ≤ c.toNat) = true) : ∀ c ∈ cs, 32 ≤ c.toNat := by
  simpa using h

theorem printed_number (n : Number) : ∀ c ∈ n.text.toList, 32 ≤ c.toNat := by
  have hnumeral : IsNumeral (Utf8.encode n.text) := by
    cases n with
    | integer n => exact isNumeral_integer n
    | float f => exact isNumeral_float f
  exact (Utf8.forall_encode_iff fun n => Nat.le_trans (by decide)).1 fun b hb => Nat.le_of_lt (hnumeral.visible b hb).1

/-- between quotes a control character is escaped, by characters that are none -/
theorem printed_quoted (s : String) : ∀ c ∈ quoted s, 32 ≤ c.toNat := by
  have hdigit : ∀ d < 16, 32 ≤ (Nat.digitChar d).toNat := by decide
  have hescaped : ∀ c, ∀ d ∈ quotedChar c, 32 ≤ d.toNat := by
    intro c
    unfold quotedChar
    split
    iterate 7 exact printed_of_all rfl
    split
    · simp [hdigit (c.toNat / 16) (by omega), hdigit (c.toNat % 16) (by omega)]
    · exact List.forall_mem_singleton.2 (Nat.le_of_not_lt ‹_›)
  intro c hc
  simp only [quoted, List.cons_append, List.mem_cons, List.mem_append, List.mem_flatMap, List.not_mem_nil, or_false] at hc
  rcases hc with rfl | ⟨d, -, hd⟩ | rfl
  · decide
  · exact hescaped d c hd
  · decide

/-- a member behind its mark, and what is behind the member -/
theorem printed_member {mark : Char} (hmark : 32 ≤ mark.toNat) (key : String) {value rest : List Char}
    (hvalue : ∀ c ∈ value, 32 ≤ c.toNat) (hrest : ∀ c ∈ rest, 32 ≤ c.toNat) :
    ∀ c ∈ mark :: quoted key ++ ':' :: value ++ rest, 32 ≤ c.toNat := by
  have hcolon : ∀ c ∈ ':' :: value, 32 ≤ c.toNat := List.forall_mem_cons.2 ⟨by decide, hvalue⟩
  have hmember := List.forall_mem_append.2 ⟨printed_quoted key, hcolon⟩
  exact List.forall_mem_cons.2 ⟨hmark, List.forall_mem_append.2 ⟨hmember, hrest⟩⟩

-- by the recursion of `chars`: each piece is a mark, a number, a name or quoted
mutual

theorem printed_chars : ∀ v : Json, ∀ c ∈ chars v, 32 ≤ c.toNat
  | .null | .bool true | .bool false | .array [] | .object [] => printed_of_all rfl
  | .number n => printed_number n
  | .string s => printed_quoted s
  | .array (item :: rest) =>
    List.forall_mem_cons.2 ⟨by decide, List.forall_mem_append.2 ⟨printed_chars item, printed_itemsTail rest⟩⟩
  | .object ((key, v) :: rest) => printed_member (by decide) key (printed_chars v) (printed_membersTail rest)

theorem printed_itemsTail : ∀ items : List Json, ∀ c ∈ itemsTail items, 32 ≤ c.toNat
  | [] => printed_of_all rfl
  | item :: rest =>
    List.forall_mem_cons.2 ⟨by decide, List.forall_mem_append.2 ⟨printed_chars item, printed_itemsTail rest⟩⟩

theorem printed_membersTail : ∀ members : List (String × Json), ∀ c ∈ membersTail members, 32 ≤ c.toNat
  | [] => printed_of_all rfl
  | (key, v) :: rest => printed_member (by decide) key (printed_chars v) (printed_membersTail rest)

end

/-- **The compact text of a value has no control characters**, so no line breaks, whatever its strings hold. -/
theorem printed_compact (v : Json) : ∀ b ∈ Utf8.encode v.compact, 32 ≤ b.toNat := by
  rw [Utf8.forall_encode_iff fun n => Nat.le_trans (by decide), compact, String.toList_ofList]
  exact printed_chars v

end SqlGateway.Json
