/-
Octets out of which a text is read without a loss are the octets of that text. The reader goes octet by octet; while a
character is open, `Opened` says which octets of it have been read, and that every code it can still become begins with
them (`opened_step`).

- `decode?_eq_some`, `encode_decodeLossy`: a strict reading is exact, and so is a tolerant one without U+FFFD. A text
  made of ASCII alone has therefore one spelling in octets.
- `ascii_stands_between`: among the octets of a text, those of ASCII stand only for themselves, so a text of ASCII that
  is found among them stands between two characters.
-/
import Mathlib.Algebra.Group.Nat.Defs
import SqlGateway.Proofs.Traversal
import SqlGateway.Text.Utf8

namespace SqlGateway.Utf8

/-! ## Open characters -/

/-- the last octets of the character with a code, as many as are asked for -/
def lastOctets : Nat → Nat → List UInt8
  | 0, _ => []
  | n + 1, code => UInt8.ofNat (0x80 + code / 64 ^ n % 64) :: lastOctets n code

/-- these octets have been read of an open character: whichever code it becomes, they begin it -/
structure Pending.Begun (p : Pending) (before : List UInt8) : Prop where
  low : 0x80 ≤ p.low
  high : p.high ≤ 0xBF
  spells : ∀ code, code / 64 ^ (p.more + 1) = p.bits → p.low ≤ 0x80 + code / 64 ^ p.more % 64 →
    0x80 + code / 64 ^ p.more % 64 ≤ p.high →
      String.utf8EncodeChar (Char.ofNat code) = before ++ lastOctets (p.more + 1) code

/-- the octets read of the character that is open, none if none is -/
def Opened (open? : Option Pending) (before : List UInt8) : Prop :=
  open?.elim (before = []) fun p => p.Begun before

/-- a code that is a character, as octets -/
theorem encodeChar_ofNat {code : Nat} (h : code.isValidChar) :
    String.utf8EncodeChar (Char.ofNat code) =
      if code ≤ 0x7F then [UInt8.ofNat code]
      else if code ≤ 0x7FF then [UInt8.ofNat (code / 64 % 32 + 192), UInt8.ofNat (code % 64 + 128)]
      else if code ≤ 0xFFFF then
        [UInt8.ofNat (code / 4096 % 16 + 224), UInt8.ofNat (code / 64 % 64 + 128), UInt8.ofNat (code % 64 + 128)]
      else [UInt8.ofNat (code / 262144 % 8 + 240), UInt8.ofNat (code / 4096 % 64 + 128),
        UInt8.ofNat (code / 64 % 64 + 128), UInt8.ofNat (code % 64 + 128)] := by
  have hcode : (Char.ofNat code).val.toNat = code := by
    rw [Char.ofNat, dif_pos h]
    rfl
  rw [String.utf8EncodeChar, hcode]

theorem begun_two {b : UInt8} (h : 0xC2 ≤ b.toNat) (h' : b.toNat < 0xE0) :
    Pending.Begun ⟨b.toNat - 0xC0, 0, 0x80, 0xBF⟩ [b] := by
  refine ⟨Nat.le_refl _, Nat.le_refl _, fun code hbits hlow hhigh => ?_⟩
  simp only [Nat.reduceAdd, Nat.reducePow, Nat.div_one] at hbits hlow hhigh
  have hvalid : code.isValidChar := .inl (by omega)
  have hfirst : UInt8.ofNat (code / 64 % 32 + 192) = b := by
    rw [show code / 64 % 32 + 192 = b.toNat by omega, UInt8.ofNat_toNat]
  rw [encodeChar_ofNat hvalid, if_neg (by omega), if_pos (by omega), hfirst]
  simp [lastOctets, Nat.add_comm]

theorem begun_three {b : UInt8} (h : 0xE0 ≤ b.toNat) (h' : b.toNat < 0xF0) :
    Pending.Begun ⟨b.toNat - 0xE0, 1, if b.toNat = 0xE0 then 0xA0 else 0x80,
      if b.toNat = 0xED then 0x9F else 0xBF⟩ [b] := by
  refine ⟨?_, ?_, fun code hbits hlow hhigh => ?_⟩
  · simp only
    split <;> omega
  · simp only
    split <;> omega
  · simp only [Nat.reduceAdd, Nat.reducePow] at hbits hlow hhigh
    -- from `E0` on the code is large enough, up to `ED` it is no surrogate
    have hlarge : 0x800 ≤ code := by split at hlow <;> omega
    have hsmall : code < 0xD800 ∨ 0xE000 ≤ code := by split at hhigh <;> omega
    have hvalid : code.isValidChar := hsmall.imp id fun h => ⟨h, by omega⟩
    have hfirst : UInt8.ofNat (code / 4096 % 16 + 224) = b := by
      rw [show code / 4096 % 16 + 224 = b.toNat by omega, UInt8.ofNat_toNat]
    rw [encodeChar_ofNat hvalid, if_neg (by omega), if_neg (by omega), if_pos (by omega), hfirst]
    simp [lastOctets, Nat.add_comm]

theorem begun_four {b : UInt8} (h : 0xF0 ≤ b.toNat) (h' : b.toNat < 0xF5) :
    Pending.Begun ⟨b.toNat - 0xF0, 2, if b.toNat = 0xF0 then 0x90 else 0x80,
      if b.toNat = 0xF4 then 0x8F else 0xBF⟩ [b] := by
  refine ⟨?_, ?_, fun code hbits hlow hhigh => ?_⟩
  · simp only
    split <;> omega
  · simp only
    split <;> omega
  · simp only [Nat.reduceAdd, Nat.reducePow] at hbits hlow hhigh
    have hlarge : 0x10000 ≤ code := by split at hlow <;> omega
    have hsmall : code < 0x110000 := by split at hhigh <;> omega
    have hvalid : code.isValidChar := .inr ⟨by omega, hsmall⟩
    have hfirst : UInt8.ofNat (code / 262144 % 8 + 240) = b := by
      rw [show code / 262144 % 8 + 240 = b.toNat by omega, UInt8.ofNat_toNat]
    rw [encodeChar_ofNat hvalid, if_neg (by omega), if_neg (by omega), if_neg (by omega), hfirst]
    simp [lastOctets, Nat.add_comm]

/-- an octet outside of characters: it is a character, begins one, or cannot be part of any -/
theorem opened_lead {b : UInt8} {cs : List Char} (h : (lead b.toNat).1 = cs.map some) :
    ∃ before, Opened (lead b.toNat).2 before ∧ cs.flatMap String.utf8EncodeChar ++ before = [b] := by
  have hbegun : ∀ {p : Pending}, p.Begun [b] → [] = cs.map (some : Char → Piece) →
      ∃ before, Opened (some p) before ∧ cs.flatMap String.utf8EncodeChar ++ before = [b] := by
    intro p hp hcs
    obtain rfl := List.map_eq_nil_iff.1 hcs.symm
    exact ⟨[b], hp, rfl⟩
  have hpieces : [none] ≠ cs.map (some : Char → Piece) := by
    intro heq
    obtain ⟨c, -, hc⟩ := List.mem_map.1 (heq ▸ List.mem_singleton_self none)
    cases hc
  generalize hlead : lead b.toNat = r at h ⊢
  unfold lead at hlead
  split at hlead
  · rename_i hascii
    subst hlead
    obtain ⟨c, rfl, hc⟩ := List.map_eq_singleton_iff.1 h.symm
    have hb : String.utf8EncodeChar c = [b] := by
      rw [Option.some.inj hc, encodeChar_ofNat (.inl (by omega)), if_pos (by omega), UInt8.ofNat_toNat]
    exact ⟨[], rfl, by simp [hb]⟩
  split at hlead
  · subst hlead
    exact absurd h hpieces
  split at hlead
  · subst hlead
    exact hbegun (begun_two (by omega) (by omega)) h
  split at hlead
  · subst hlead
    exact hbegun (begun_three (by omega) (by omega)) h
  split at hlead
  · subst hlead
    exact hbegun (begun_four (by omega) (by omega)) h
  · subst hlead
    exact absurd h hpieces

/-- one more octet of an open character -/
theorem Pending.Begun.next {p : Pending} {before : List UInt8} (h : p.Begun before) {b : UInt8} {n : Nat}
    (hmore : p.more = n + 1) (hlow : p.low ≤ b.toNat) (hhigh : b.toNat ≤ p.high) :
    Pending.Begun ⟨p.bits * 64 + (b.toNat - 0x80), n, 0x80, 0xBF⟩ (before ++ [b]) := by
  refine ⟨Nat.le_refl _, Nat.le_refl _, ?_⟩
  intro code (hbits : code / 64 ^ (n + 1) = p.bits * 64 + (b.toNat - 0x80)) _ _
  have hl := h.low
  have hh := h.high
  have hdiv : code / 64 ^ (n + 1 + 1) = code / 64 ^ (n + 1) / 64 := by
    rw [Nat.pow_succ, Nat.div_div_eq_div_mul]
  have hoctet : 0x80 + code / 64 ^ (n + 1) % 64 = b.toNat := by omega
  have hspells := h.spells code
  rw [hmore] at hspells
  rw [hspells (by omega) (by omega) (by omega), lastOctets, hoctet, UInt8.ofNat_toNat, List.append_assoc,
    List.singleton_append]

/-- the last octet of an open character -/
theorem Pending.Begun.last {p : Pending} {before : List UInt8} (h : p.Begun before) {b : UInt8}
    (hmore : p.more = 0) (hlow : p.low ≤ b.toNat) (hhigh : b.toNat ≤ p.high) :
    String.utf8EncodeChar (Char.ofNat (p.bits * 64 + (b.toNat - 0x80))) = before ++ [b] := by
  have hl := h.low
  have hh := h.high
  have hspells := h.spells (p.bits * 64 + (b.toNat - 0x80))
  rw [hmore] at hspells
  simp only [Nat.zero_add, Nat.pow_one, Nat.pow_zero, Nat.div_one] at hspells
  have hoctet : 0x80 + (p.bits * 64 + (b.toNat - 0x80)) % 64 = b.toNat := by omega
  rw [hspells (by omega) (by omega) (by omega), lastOctets, lastOctets, Nat.pow_zero, Nat.div_one, hoctet,
    UInt8.ofNat_toNat]

/-- one octet: what is read and what is open spell what was open and the octet -/
theorem opened_step {open? : Option Pending} {before : List UInt8} (h : Opened open? before) {b : UInt8} {cs : List Char}
    (hpieces : (step open? b.toNat).1 = cs.map some) :
    ∃ after, Opened (step open? b.toNat).2 after ∧ cs.flatMap String.utf8EncodeChar ++ after = before ++ [b] := by
  rcases open? with _ | p
  · obtain rfl : before = [] := h
    exact opened_lead hpieces
  · have hbegun : p.Begun before := h
    generalize hstep : step (some p) b.toNat = r at hpieces ⊢
    unfold step at hstep
    simp only at hstep
    split at hstep
    · rename_i hrange
      split at hstep
      · rename_i hmore
        subst hstep
        obtain ⟨c, rfl, hc⟩ := List.map_eq_singleton_iff.1 hpieces.symm
        have hlast := hbegun.last hmore hrange.1 hrange.2
        rw [← Option.some.inj hc] at hlast
        exact ⟨[], rfl, by simp [hlast]⟩
      · rename_i n hmore
        subst hstep
        obtain rfl := List.map_eq_nil_iff.1 hpieces.symm
        exact ⟨before ++ [b], hbegun.next hmore hrange.1 hrange.2, rfl⟩
    · subst hstep
      cases cs <;> simp at hpieces

/-- all octets: characters and nothing else come of their own octets alone -/
theorem encode_of_piecesFrom {open? : Option Pending} {before : List UInt8} (h : Opened open? before)
    {octets : List UInt8} {cs : List Char} (hpieces : piecesFrom open? octets = cs.map some) :
    cs.flatMap String.utf8EncodeChar = before ++ octets := by
  induction octets generalizing open? before cs with
  | nil =>
    rcases open? with _ | p
    · obtain rfl : before = [] := h
      obtain rfl := List.map_eq_nil_iff.1 hpieces.symm
      rfl
    · rw [piecesFrom] at hpieces
      cases cs <;> simp at hpieces
  | cons b rest ih =>
    rw [piecesFrom] at hpieces
    obtain ⟨first, later, rfl, hfirst, hlater⟩ := List.map_eq_append_iff.1 hpieces.symm
    obtain ⟨after, hafter, hread⟩ := opened_step h hfirst.symm
    calc (first ++ later).flatMap String.utf8EncodeChar
        = first.flatMap String.utf8EncodeChar ++ later.flatMap String.utf8EncodeChar := List.flatMap_append
      _ = first.flatMap String.utf8EncodeChar ++ (after ++ rest) := by rw [ih hafter hlater.symm]
      _ = before ++ [b] ++ rest := by rw [← List.append_assoc, hread]
      _ = before ++ b :: rest := by rw [List.append_assoc, List.singleton_append]

/-! ## Exact readings -/

theorem encode_ofList (cs : List Char) : encode (String.ofList cs) = cs.flatMap String.utf8EncodeChar := by
  rw [encode, String.toList_ofList]

theorem encode_of_pieces {octets : List UInt8} {cs : List Char} (h : pieces octets = cs.map some) :
    encode (String.ofList cs) = octets := by
  rw [encode_ofList]
  have hstart : Opened none [] := rfl
  exact encode_of_piecesFrom hstart h

/-- octets are a text exactly if it is written so -/
theorem decode?_eq_some {octets : List UInt8} {text : String} : decode? octets = some text ↔ octets = encode text := by
  constructor
  · intro h
    obtain ⟨cs, hcs, rfl⟩ := Option.map_eq_some_iff.1 h
    have hread : List.Forall₂ (fun piece c => piece = some c) (pieces octets) cs := mapM_eq_some.1 hcs
    rw [← List.forall₂_map_right_iff, List.forall₂_eq_eq_eq] at hread
    exact (encode_of_pieces hread).symm
  · rintro rfl
    exact decode?_encode text

/-- **Nothing was replaced, so nothing was lost.** -/
theorem encode_decodeLossy {octets : List UInt8} (h : '\uFFFD' ∉ (decodeLossy octets).toList) :
    encode (decodeLossy octets) = octets := by
  rw [decodeLossy, String.toList_ofList] at h
  apply encode_of_pieces
  have hwhole : ∀ piece ∈ pieces octets, some (piece.getD '\uFFFD') = piece := by
    intro piece hpiece
    cases piece with
    | some c => rfl
    | none => exact absurd (List.mem_map_of_mem hpiece) h
  rw [List.map_map]
  exact ((List.map_congr_left hwhole).trans (List.map_id' _)).symm

/-! ## ASCII among other octets -/

theorem toNat_octet {c : Char} (h : c.toNat < 128) : (UInt8.ofNat c.toNat).toNat = c.toNat :=
  UInt8.toNat_ofNat_of_lt' (Nat.lt_trans h (by decide))

theorem encodeChar_of_small {c : Char} (h : c.toNat < 128) : String.utf8EncodeChar c = [UInt8.ofNat c.toNat] := by
  have hval : c.val.toNat ≤ 0x7F := Nat.le_of_lt_succ h
  rw [String.utf8EncodeChar, if_pos hval]
  rfl

theorem encodeChars_of_ascii {cs : List Char} (h : ∀ c ∈ cs, c.toNat < 128) :
    cs.flatMap String.utf8EncodeChar = cs.map fun c => UInt8.ofNat c.toNat := by
  rw [List.map_eq_flatMap]
  exact List.flatMap_congr fun c hc => encodeChar_of_small (h c hc)

/-- beyond ASCII, no octet of a character is one of ASCII -/
theorem encodeChar_of_large {c : Char} (h : 128 ≤ c.toNat) : ∀ b ∈ String.utf8EncodeChar c, 128 ≤ b.toNat := by
  have hvalid : c.val.toNat < 0xD800 ∨ 0xDFFF < c.val.toNat ∧ c.val.toNat < 0x110000 := c.valid
  have hval : c.val.toNat = c.toNat := rfl
  rw [String.utf8EncodeChar]
  generalize c.val.toNat = v at hvalid hval
  rw [if_neg (by omega)]
  split
  · simp only [List.mem_cons, List.not_mem_nil, or_false, forall_eq_or_imp, forall_eq, UInt8.toNat_ofNat']
    omega
  split
  · simp only [List.mem_cons, List.not_mem_nil, or_false, forall_eq_or_imp, forall_eq, UInt8.toNat_ofNat']
    omega
  · simp only [List.mem_cons, List.not_mem_nil, or_false, forall_eq_or_imp, forall_eq, UInt8.toNat_ofNat']
    omega

/-- what everything beyond ASCII has, the octets of a text have if its characters have it -/
theorem forall_encode_iff {P : Nat → Prop} (hlarge : ∀ n, 128 ≤ n → P n) {s : String} :
    (∀ b ∈ encode s, P b.toNat) ↔ ∀ c ∈ s.toList, P c.toNat := by
  constructor
  · intro h c hc
    by_cases hsmall : c.toNat < 128
    · have hmem : UInt8.ofNat c.toNat ∈ encode s := by
        refine List.mem_flatMap.2 ⟨c, hc, ?_⟩
        rw [encodeChar_of_small hsmall]
        exact List.mem_singleton_self _
      exact toNat_octet hsmall ▸ h _ hmem
    · exact hlarge _ (Nat.le_of_not_lt hsmall)
  · intro h b hb
    obtain ⟨c, hc, hmem⟩ := List.mem_flatMap.1 hb
    by_cases hsmall : c.toNat < 128
    · rw [encodeChar_of_small hsmall, List.mem_singleton] at hmem
      rw [hmem, toNat_octet hsmall]
      exact h c hc
    · exact hlarge _ (encodeChar_of_large (Nat.le_of_not_lt hsmall) b hmem)

/-- a text whose octets begin as a text of ASCII begins as that text -/
theorem exists_of_ascii_prefix {mark : List Char} (hmark : ∀ c ∈ mark, c.toNat < 128) {cs : List Char}
    {after : List UInt8} (h : cs.flatMap String.utf8EncodeChar = mark.flatMap String.utf8EncodeChar ++ after) :
    ∃ rest, cs = mark ++ rest ∧ after = rest.flatMap String.utf8EncodeChar := by
  induction mark generalizing cs with
  | nil => exact ⟨cs, rfl, h.symm⟩
  | cons m mark ih =>
    obtain ⟨hm, hrest⟩ := List.forall_mem_cons.1 hmark
    rw [List.flatMap_cons, encodeChar_of_small hm] at h
    cases cs with
    | nil => cases h
    | cons c cs =>
      rw [List.flatMap_cons] at h
      by_cases hsmall : c.toNat < 128
      · rw [encodeChar_of_small hsmall] at h
        obtain ⟨hoctet, hlater⟩ := List.cons.inj h
        have hsame : c = m := by
          have hnat := congrArg UInt8.toNat hoctet
          rw [toNat_octet hsmall, toNat_octet hm] at hnat
          exact Char.toNat_inj.1 hnat
        obtain ⟨rest, rfl, hafter⟩ := ih hrest hlater
        exact ⟨rest, by rw [hsame, List.cons_append], hafter⟩
      · obtain ⟨b, bs, hbs⟩ := List.exists_cons_of_ne_nil (String.utf8EncodeChar_ne_nil)
        have hlarge := encodeChar_of_large (Nat.le_of_not_lt hsmall) b (hbs ▸ List.mem_cons_self)
        rw [hbs] at h
        have hoctet := (List.cons.inj h).1
        rw [hoctet, toNat_octet hm] at hlarge
        omega

/-- no octets of a text of ASCII are octets of another character, behind its first -/
theorem encodeChar_ne_append {mark : List Char} (hne : mark ≠ []) (hmark : ∀ c ∈ mark, c.toNat < 128) {c : Char}
    {b x : UInt8} {before more rest after : List UInt8}
    (h : mark.flatMap String.utf8EncodeChar ++ after = x :: more ++ rest) :
    String.utf8EncodeChar c ≠ b :: before ++ x :: more := by
  intro hsplit
  obtain ⟨m, mark, rfl⟩ := List.exists_cons_of_ne_nil hne
  have hm := hmark m List.mem_cons_self
  rw [List.flatMap_cons, encodeChar_of_small hm] at h
  have hx : x.toNat < 128 := by
    rw [← (List.cons.inj h).1, toNat_octet hm]
    exact hm
  by_cases hsmall : c.toNat < 128
  · rw [encodeChar_of_small hsmall] at hsplit
    cases before <;> simp at hsplit
  · have hlarge := encodeChar_of_large (Nat.le_of_not_lt hsmall) x (by simp [hsplit])
    omega

/-- **ASCII stands between characters.** Where the octets of a text of ASCII are found among those of a text, the texts
before and behind them are whole. -/
theorem ascii_stands_between {mark : List Char} (hne : mark ≠ []) (hmark : ∀ c ∈ mark, c.toNat < 128) {cs : List Char}
    {before after : List UInt8}
    (h : cs.flatMap String.utf8EncodeChar = before ++ mark.flatMap String.utf8EncodeChar ++ after) :
    ∃ start rest, cs = start ++ mark ++ rest ∧ before = start.flatMap String.utf8EncodeChar ∧
      after = rest.flatMap String.utf8EncodeChar := by
  induction cs generalizing before with
  | nil =>
    obtain ⟨m, mark, rfl⟩ := List.exists_cons_of_ne_nil hne
    simp at h
  | cons c cs ih =>
    have hbegins : (c :: cs).flatMap String.utf8EncodeChar = String.utf8EncodeChar c ++ cs.flatMap String.utf8EncodeChar :=
      List.flatMap_cons
    cases before with
    | nil =>
      obtain ⟨rest, hcs, hafter⟩ := exists_of_ascii_prefix hmark h
      exact ⟨[], rest, hcs, rfl, hafter⟩
    | cons b before =>
      have hwhole : ∃ later, b :: before = String.utf8EncodeChar c ++ later := by
        rw [hbegins, List.append_assoc, List.append_eq_append_iff] at h
        rcases h with ⟨later, hlater, -⟩ | ⟨more, hmore, hrest⟩
        · exact ⟨later, hlater⟩
        · cases more with
          | nil => exact ⟨[], by rw [hmore, List.append_nil, List.append_nil]⟩
          | cons x more =>
            exact absurd hmore (encodeChar_ne_append hne hmark hrest)
      obtain ⟨later, hlater⟩ := hwhole
      rw [hbegins, hlater, List.append_assoc, List.append_assoc, List.append_cancel_left_eq, ← List.append_assoc] at h
      obtain ⟨start, rest, rfl, rfl, hafter⟩ := ih h
      refine ⟨c :: start, rest, rfl, ?_, hafter⟩
      rw [hlater, List.flatMap_cons]

end SqlGateway.Utf8
