/-
The grammar of JSON text, in octets: `Writes v octets` says that the octets may be read as the value. Blanks may stand
around every value and every key; a character between quotes is written as it is or behind a backslash, in any of the
ways there are; the members of an object stand in their order.

An integer is written in decimal. What a numeral with a point or an exponent is worth is left open: any numeral may
stand for any double.
-/
import SqlGateway.Json.Basic
import SqlGateway.Proofs.Text.Decimal
import SqlGateway.Proofs.Text.Utf8
import SqlGateway.Text.Characters

namespace SqlGateway.Json

/-- nothing but spaces, tabs and line breaks -/
def Blanks (octets : List UInt8) : Prop := ∀ b ∈ octets, b ∈ [32, 9, 10, 13]

theorem blanks_nil : Blanks [] := nofun

/-! ## Strings -/

/-- four hexadecimal digits, in letters of either case, as a number -/
inductive SpellsUnit : List UInt8 → Nat → Prop
  | digits {a b c d : UInt8} {w x y z : Nat} :
    Text.hexDigit? a = some w → Text.hexDigit? b = some x → Text.hexDigit? c = some y → Text.hexDigit? d = some z →
      SpellsUnit [a, b, c, d] (((w * 16 + x) * 16 + y) * 16 + z)

/-- the letters that may stand behind a backslash, and the characters they stand for -/
def escapes : List (UInt8 × Char) :=
  [(34, '"'), (92, '\\'), (47, '/'), (98, '\x08'), (102, '\x0c'), (110, '\n'), (114, '\r'), (116, '\t')]

/-- a character between quotes: as it is, by a letter, by its code, or by two surrogates -/
inductive SpellsChar (c : Char) : List UInt8 → Prop
  | plain : 32 ≤ c.toNat → c ≠ '"' → c ≠ '\\' → SpellsChar c (String.utf8EncodeChar c)
  | letter {b : UInt8} : (b, c) ∈ escapes → SpellsChar c [92, b]
  | code {digits : List UInt8} : SpellsUnit digits c.toNat → SpellsChar c (92 :: 117 :: digits)
  | pair {high low : List UInt8} {h l : Nat} :
    SpellsUnit high h → SpellsUnit low l → 0xD800 ≤ h → h < 0xDC00 → 0xDC00 ≤ l → l < 0xE000 →
      c.toNat = 0x10000 + (h - 0xD800) * 0x400 + (l - 0xDC00) →
      SpellsChar c (92 :: 117 :: high ++ 92 :: 117 :: low)

inductive SpellsChars : List Char → List UInt8 → Prop
  | nil : SpellsChars [] []
  | cons {c : Char} {cs : List Char} {first rest : List UInt8} :
    SpellsChar c first → SpellsChars cs rest → SpellsChars (c :: cs) (first ++ rest)

/-- a text between quotes -/
inductive Quotes (s : String) : List UInt8 → Prop
  | quotes {inner : List UInt8} : SpellsChars s.toList inner → Quotes s (34 :: inner ++ [34])

/-! ## Numerals -/

def IsDigit (b : UInt8) : Prop := 48 ≤ b.toNat ∧ b.toNat ≤ 57

theorem isDigit_ofNat {c : Char} (h : c.isDigit = true) : IsDigit (UInt8.ofNat c.toNat) := by
  have hrange := Text.digit_range h
  rw [IsDigit, Utf8.toNat_octet (by omega)]
  exact hrange

/-- digits, one or more -/
inductive AreDigits : List UInt8 → Prop
  | digits {b : UInt8} {rest : List UInt8} : IsDigit b → (∀ d ∈ rest, IsDigit d) → AreDigits (b :: rest)

/-- the part before the point: only zero begins with a zero -/
inductive IsWhole : List UInt8 → Prop
  | zero : IsWhole [48]
  | digits {b : UInt8} {rest : List UInt8} : IsDigit b → b ≠ 48 → (∀ d ∈ rest, IsDigit d) → IsWhole (b :: rest)

inductive IsFraction : List UInt8 → Prop
  | none : IsFraction []
  | point {digits : List UInt8} : AreDigits digits → IsFraction (46 :: digits)

inductive IsExponent : List UInt8 → Prop
  | none : IsExponent []
  | mark {b : UInt8} {sign digits : List UInt8} :
    b ∈ [101, 69] → sign ∈ [[], [43], [45]] → AreDigits digits → IsExponent (b :: (sign ++ digits))

inductive IsNumeral : List UInt8 → Prop
  | parts {sign whole fraction exponent : List UInt8} :
    sign ∈ [[], [45]] → IsWhole whole → IsFraction fraction → IsExponent exponent →
      IsNumeral (sign ++ (whole ++ (fraction ++ exponent)))

/-- nothing but characters of ASCII that can be seen -/
def Visible (octets : List UInt8) : Prop := ∀ b ∈ octets, 32 < b.toNat ∧ b.toNat < 127

theorem Visible.append {first rest : List UInt8} (h : Visible first) (h' : Visible rest) : Visible (first ++ rest) :=
  List.forall_mem_append.2 ⟨h, h'⟩

theorem Visible.cons {b : UInt8} {rest : List UInt8} (h : Visible rest) (hb : 32 < b.toNat ∧ b.toNat < 127) :
    Visible (b :: rest) :=
  List.forall_mem_cons.2 ⟨hb, h⟩

theorem IsDigit.visible {b : UInt8} (h : IsDigit b) : 32 < b.toNat ∧ b.toNat < 127 :=
  ⟨Nat.lt_of_lt_of_le (by decide) h.1, Nat.lt_of_le_of_lt h.2 (by decide)⟩

theorem visible_of_digits {octets : List UInt8} (h : ∀ b ∈ octets, IsDigit b) : Visible octets :=
  fun b hb => (h b hb).visible

theorem AreDigits.visible {octets : List UInt8} (h : AreDigits octets) : Visible octets := by
  cases h with
  | digits hb hrest => exact (visible_of_digits hrest).cons hb.visible

theorem visible_of_sign {sign : List UInt8} (h : sign ∈ ([[], [43], [45]] : List (List UInt8))) : Visible sign := by
  have hvisible : ∀ sign ∈ ([[], [43], [45]] : List (List UInt8)), ∀ b ∈ sign, 32 < b.toNat ∧ b.toNat < 127 := by simp
  exact hvisible sign h

theorem IsWhole.visible {octets : List UInt8} (h : IsWhole octets) : Visible octets := by
  cases h with
  | zero => exact List.forall_mem_singleton.2 (by decide)
  | digits hb _ hrest => exact (visible_of_digits hrest).cons hb.visible

theorem IsFraction.visible {octets : List UInt8} (h : IsFraction octets) : Visible octets := by
  cases h with
  | none => exact nofun
  | point hdigits => exact hdigits.visible.cons (by decide)

theorem IsExponent.visible {octets : List UInt8} (h : IsExponent octets) : Visible octets := by
  cases h with
  | none => exact nofun
  | @mark b sign digits hmark hsign hdigits =>
    have hvisible : ∀ b ∈ ([101, 69] : List UInt8), 32 < b.toNat ∧ b.toNat < 127 := by simp
    exact ((visible_of_sign hsign).append hdigits.visible).cons (hvisible b hmark)

/-- a numeral holds no blanks and no control characters -/
theorem IsNumeral.visible {octets : List UInt8} (h : IsNumeral octets) : Visible octets := by
  cases h with
  | @parts sign whole fraction exponent hsign hwhole hfraction hexponent =>
    have hsign : sign ∈ ([[], [43], [45]] : List (List UInt8)) := by
      simp only [List.mem_cons, List.not_mem_nil, or_false] at hsign ⊢
      exact hsign.imp_right .inr
    exact (visible_of_sign hsign).append (hwhole.visible.append (hfraction.visible.append hexponent.visible))

/-! ## Values -/

mutual

/-- the octets of a value, from its first to its last -/
inductive Writes : Json → List UInt8 → Prop
  | null : Writes .null (Utf8.encode "null")
  | bool (b : Bool) : Writes (.bool b) (Utf8.encode (toString b))
  | integer (n : Int) : Writes (.number (.integer n)) (Utf8.encode (toString n))
  | float (f : Binary64) {octets : List UInt8} : IsNumeral octets → Writes (.number (.float f)) octets
  | string {s : String} {octets : List UInt8} : Quotes s octets → Writes (.string s) octets
  | emptyArray {blanks : List UInt8} : Blanks blanks → Writes (.array []) (91 :: blanks ++ [93])
  | array {items : List Json} {octets : List UInt8} : WritesItems items octets → Writes (.array items) (91 :: octets ++ [93])
  | emptyObject {blanks : List UInt8} : Blanks blanks → Writes (.object []) (123 :: blanks ++ [125])
  | object {members : List (String × Json)} {octets : List UInt8} :
    WritesMembers members octets → Writes (.object members) (123 :: octets ++ [125])

/-- a value and the blanks around it -/
inductive WritesPadded : Json → List UInt8 → Prop
  | padded {v : Json} {before octets after : List UInt8} :
    Blanks before → Writes v octets → Blanks after → WritesPadded v (before ++ octets ++ after)

/-- items with commas between them, one or more -/
inductive WritesItems : List Json → List UInt8 → Prop
  | last {v : Json} {octets : List UInt8} : WritesPadded v octets → WritesItems [v] octets
  | more {v : Json} {items : List Json} {first rest : List UInt8} :
    WritesPadded v first → WritesItems items rest → WritesItems (v :: items) (first ++ 44 :: rest)

/-- a key, a colon and a value -/
inductive WritesMember : String → Json → List UInt8 → Prop
  | member {key : String} {v : Json} {before quoted between octets : List UInt8} :
    Blanks before → Quotes key quoted → Blanks between → WritesPadded v octets →
      WritesMember key v (before ++ quoted ++ between ++ 58 :: octets)

/-- members with commas between them, one or more -/
inductive WritesMembers : List (String × Json) → List UInt8 → Prop
  | last {key : String} {v : Json} {octets : List UInt8} : WritesMember key v octets → WritesMembers [(key, v)] octets
  | more {key : String} {v : Json} {members : List (String × Json)} {first rest : List UInt8} :
    WritesMember key v first → WritesMembers members rest → WritesMembers ((key, v) :: members) (first ++ 44 :: rest)

end

/-- **The octets are a text of the value**, in any layout. -/
def IsText (v : Json) (octets : List UInt8) : Prop := WritesPadded v octets

theorem WritesPadded.of_writes {v : Json} {octets : List UInt8} (h : Writes v octets) : WritesPadded v octets := by
  have hpadded := WritesPadded.padded blanks_nil h blanks_nil
  rwa [List.nil_append, List.append_nil] at hpadded

/-! ## As UTF-8 -/

/-- the octets of some characters -/
def IsUtf8 (octets : List UInt8) : Prop := ∃ cs : List Char, octets = cs.flatMap String.utf8EncodeChar

theorem IsUtf8.append {first rest : List UInt8} (h : IsUtf8 first) (h' : IsUtf8 rest) : IsUtf8 (first ++ rest) := by
  obtain ⟨cs, rfl⟩ := h
  obtain ⟨ds, rfl⟩ := h'
  exact ⟨cs ++ ds, List.flatMap_append.symm⟩

theorem isUtf8_encode (s : String) : IsUtf8 (Utf8.encode s) := ⟨s.toList, rfl⟩

theorem isUtf8_of_ascii {octets : List UInt8} (h : ∀ b ∈ octets, b.toNat < 128) : IsUtf8 octets := by
  refine ⟨octets.map Char.ofUInt8, ?_⟩
  have hascii : ∀ c ∈ octets.map Char.ofUInt8, c.toNat < 128 := by
    intro c hc
    obtain ⟨b, hb, rfl⟩ := List.mem_map.1 hc
    exact h b hb
  have hback : (fun c : Char => UInt8.ofNat c.toNat) ∘ Char.ofUInt8 = id := funext fun b => UInt8.ofNat_toNat
  rw [Utf8.encodeChars_of_ascii hascii, List.map_map, hback, List.map_id]

theorem isUtf8_octet {b : UInt8} (hb : b.toNat < 128) : IsUtf8 [b] := isUtf8_of_ascii (List.forall_mem_singleton.2 hb)

theorem IsUtf8.cons {b : UInt8} {rest : List UInt8} (h : IsUtf8 rest) (hb : b.toNat < 128) : IsUtf8 (b :: rest) :=
  (isUtf8_octet hb).append h

theorem Blanks.isUtf8 {octets : List UInt8} (h : Blanks octets) : IsUtf8 octets := by
  have hascii : ∀ b ∈ ([32, 9, 10, 13] : List UInt8), b.toNat < 128 := by simp
  exact isUtf8_of_ascii fun b hb => hascii b (h b hb)

theorem SpellsUnit.isUtf8 {digits : List UInt8} {n : Nat} (h : SpellsUnit digits n) : IsUtf8 digits := by
  have hascii : ∀ {b : UInt8} {d : Nat}, Text.hexDigit? b = some d → b.toNat < 128 := by
    intro b d h
    unfold Text.hexDigit? at h
    split at h
    · omega
    split at h
    · omega
    split at h
    · omega
    · cases h
  cases h with
  | digits ha hb hc hd => exact isUtf8_of_ascii (by simp [hascii ha, hascii hb, hascii hc, hascii hd])

theorem SpellsChar.isUtf8 {c : Char} {octets : List UInt8} (h : SpellsChar c octets) : IsUtf8 octets := by
  cases h with
  | plain => exact ⟨[c], (List.flatMap_singleton _ _).symm⟩
  | letter hmem =>
    have hascii : ∀ p ∈ escapes, p.1.toNat < 128 := by decide
    exact isUtf8_of_ascii (by simp [hascii _ hmem])
  | code hdigits => exact (hdigits.isUtf8.cons (by decide)).cons (by decide)
  | pair hhigh hlow =>
    have hfirst := (hhigh.isUtf8.cons (b := 117) (by decide)).cons (b := 92) (by decide)
    exact hfirst.append ((hlow.isUtf8.cons (by decide)).cons (by decide))

theorem Quotes.isUtf8 {s : String} {octets : List UInt8} (h : Quotes s octets) : IsUtf8 octets := by
  have hchars : ∀ {cs : List Char} {inner : List UInt8}, SpellsChars cs inner → IsUtf8 inner := by
    intro cs inner h
    induction h with
    | nil => exact ⟨[], rfl⟩
    | cons hchar _ ih => exact hchar.isUtf8.append ih
  cases h with
  | quotes h => exact ((hchars h).cons (by decide)).append (isUtf8_octet (by decide))

theorem IsNumeral.isUtf8 {octets : List UInt8} (h : IsNumeral octets) : IsUtf8 octets :=
  isUtf8_of_ascii fun b hb => Nat.lt_trans (h.visible b hb).2 (by decide)

mutual

theorem Writes.isUtf8 : ∀ {v : Json} {octets : List UInt8}, Writes v octets → IsUtf8 octets
  | _, _, .null | _, _, .bool _ | _, _, .integer _ => isUtf8_encode _
  | _, _, .float _ h => h.isUtf8
  | _, _, .string h => h.isUtf8
  | _, _, .emptyArray h => (h.isUtf8.cons (by decide)).append (isUtf8_octet (by decide))
  | _, _, .array h => (h.isUtf8.cons (by decide)).append (isUtf8_octet (by decide))
  | _, _, .emptyObject h => (h.isUtf8.cons (by decide)).append (isUtf8_octet (by decide))
  | _, _, .object h => (h.isUtf8.cons (by decide)).append (isUtf8_octet (by decide))

theorem WritesPadded.isUtf8 : ∀ {v : Json} {octets : List UInt8}, WritesPadded v octets → IsUtf8 octets
  | _, _, .padded hbefore h hafter => (hbefore.isUtf8.append h.isUtf8).append hafter.isUtf8

theorem WritesItems.isUtf8 : ∀ {items : List Json} {octets : List UInt8}, WritesItems items octets → IsUtf8 octets
  | _, _, .last h => h.isUtf8
  | _, _, .more h hrest => h.isUtf8.append (hrest.isUtf8.cons (by decide))

theorem WritesMember.isUtf8 : ∀ {key : String} {v : Json} {octets : List UInt8}, WritesMember key v octets → IsUtf8 octets
  | _, _, _, .member hbefore hquoted hbetween h =>
    ((hbefore.isUtf8.append hquoted.isUtf8).append hbetween.isUtf8).append (h.isUtf8.cons (by decide))

theorem WritesMembers.isUtf8 : ∀ {members : List (String × Json)} {octets : List UInt8},
    WritesMembers members octets → IsUtf8 octets
  | _, _, .last h => h.isUtf8
  | _, _, .more h hrest => h.isUtf8.append (hrest.isUtf8.cons (by decide))

end

/-- a text of a value is a text -/
theorem IsText.exists_encode {v : Json} {octets : List UInt8} (h : IsText v octets) : ∃ text, octets = Utf8.encode text := by
  obtain ⟨cs, hcs⟩ := WritesPadded.isUtf8 h
  exact ⟨String.ofList cs, by rw [hcs, Utf8.encode_ofList]⟩

end SqlGateway.Json
