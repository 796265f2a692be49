/-
What the readers of strings and numerals do with the octets of one, step by step. `Leads` is a run of a machine that
takes an octet at a time.

- `leads_chars`: a string that spells characters leads to their octets, whichever way each of them is spelled; and where
  the text is not wanted, the reader gets through as well.
- `leads_numeral`: every numeral is read to its end, where its value is not wanted.
- `leads_integer`: the decimal form of an integer of 64 bits, with or without a sign, is read as that integer.
-/
import SqlGateway.Json.Numeral
import SqlGateway.Json.StringLiteral
import SqlGateway.Proofs.Json.Grammar
import SqlGateway.Proofs.Text.Utf8

namespace SqlGateway.Json

/-! ## Runs -/

section Runs

variable {σ τ : Type} {next : σ → UInt8 → σ → Prop}

/-- a run: octets, one by one, lead from one state to another -/
inductive Leads (next : σ → UInt8 → σ → Prop) : σ → List UInt8 → σ → Prop
  | nil (s : σ) : Leads next s [] s
  | cons {s t u : σ} {b : UInt8} {rest : List UInt8} : next s b t → Leads next t rest u → Leads next s (b :: rest) u

theorem Leads.single {s t : σ} {b : UInt8} (h : next s b t) : Leads next s [b] t := .cons h (.nil t)

theorem Leads.append {s t u : σ} {first rest : List UInt8} (h : Leads next s first t) (h' : Leads next t rest u) :
    Leads next s (first ++ rest) u := by
  induction h with
  | nil => exact h'
  | cons hstep _ ih => exact .cons hstep (ih h')

/-- a run inside of another machine -/
theorem Leads.lift {next' : τ → UInt8 → τ → Prop} {f : σ → τ} (hf : ∀ s b t, next s b t → next' (f s) b (f t)) {s t : σ}
    {octets : List UInt8} (h : Leads next s octets t) : Leads next' (f s) octets (f t) := by
  induction h with
  | nil => exact .nil _
  | cons hstep _ ih => exact .cons (hf _ _ _ hstep) ih

/-- octets of one kind, through states of one kind -/
theorem exists_leads {P : σ → Prop} {Q : UInt8 → Prop} (hstep : ∀ s, P s → ∀ b, Q b → ∃ t, next s b t ∧ P t)
    {octets : List UInt8} (h : ∀ b ∈ octets, Q b) {s : σ} (hs : P s) : ∃ t, Leads next s octets t ∧ P t := by
  induction octets generalizing s with
  | nil => exact ⟨s, .nil s, hs⟩
  | cons b rest ih =>
    obtain ⟨hb, hrest⟩ := List.forall_mem_cons.1 h
    obtain ⟨t, hnext, ht⟩ := hstep s hs b hb
    obtain ⟨u, hleads, hu⟩ := ih hrest ht
    exact ⟨u, .cons hnext hleads, hu⟩

end Runs

/-! ## Strings -/

namespace StringLiteral

/-- the string goes on -/
def Next (lenient : Bool) (s : StringLiteral) (b : UInt8) (t : StringLiteral) : Prop := s.step lenient b = .ok (some t)

theorem hexValue?_of_spells {digits : List UInt8} {n : Nat} (h : SpellsUnit digits n) :
    hexValue? digits.reverse = some n := by
  cases h with
  | digits ha hb hc hd => simp [hexValue?, ha, hb, hc, hd]

/-- the four digits of an escape -/
theorem leads_unit {lenient : Bool} {high : Option Nat} {octets digits : List UInt8} {n : Nat} {t : StringLiteral}
    (h : SpellsUnit digits n) (hunit : unit lenient ⟨.plain, octets⟩ high digits.reverse = .ok t) :
    Leads (Next lenient) ⟨.digits high [], octets⟩ digits t := by
  cases h with
  | @digits a b c d =>
    refine .cons rfl (.cons rfl (.cons rfl (.single ?_)))
    have hlast : step lenient ⟨.digits high [c, b, a], octets⟩ d =
        (unit lenient ⟨.plain, octets⟩ high [d, c, b, a]).map some := rfl
    rw [Next, hlast]
    exact congrArg (Except.map some) hunit

/-- an escape by a code, where the text is not wanted -/
theorem leads_unwanted {digits : List UInt8} {n : Nat} (h : SpellsUnit digits n) (octets : List UInt8) :
    Leads (Next true) ⟨.plain, octets⟩ (92 :: 117 :: digits) ⟨.plain, octets⟩ := by
  refine .cons rfl (.cons rfl (leads_unit h ?_))
  simp [unit, hexValue?_of_spells h]

/-- octets that stand for themselves -/
theorem leads_plain {lenient : Bool} {text : List UInt8} (h : ∀ b ∈ text, 32 ≤ b.toNat ∧ b ≠ 34 ∧ b ≠ 92)
    (octets : List UInt8) : Leads (Next lenient) ⟨.plain, octets⟩ text ⟨.plain, text.reverse ++ octets⟩ := by
  induction text generalizing octets with
  | nil => exact .nil _
  | cons b rest ih =>
    obtain ⟨⟨hprinted, hquote, hslash⟩, hrest⟩ := List.forall_mem_cons.1 h
    have hcontrol : ¬ b < 32 := Nat.not_lt.2 hprinted
    have hstep : Next lenient ⟨.plain, octets⟩ b ⟨.plain, b :: octets⟩ := by
      simp [Next, step, hquote, hslash, hcontrol, push]
    rw [List.reverse_cons, List.append_assoc]
    exact .cons hstep (ih hrest _)

theorem plain_octets {c : Char} (hprinted : 32 ≤ c.toNat) (hquote : c ≠ '"') (hslash : c ≠ '\\') :
    ∀ b ∈ String.utf8EncodeChar c, 32 ≤ b.toNat ∧ b ≠ 34 ∧ b ≠ 92 := by
  intro b hb
  by_cases hsmall : c.toNat < 128
  · rw [Utf8.encodeChar_of_small hsmall, List.mem_singleton] at hb
    have hvalue : b.toNat = c.toNat := by rw [hb, Utf8.toNat_octet hsmall]
    refine ⟨hvalue ▸ hprinted, ?_, ?_⟩
    · rintro rfl
      exact hquote (Char.toNat_inj.1 hvalue.symm)
    · rintro rfl
      exact hslash (Char.toNat_inj.1 hvalue.symm)
  · have hlarge := Utf8.encodeChar_of_large (Nat.le_of_not_lt hsmall) b hb
    refine ⟨Nat.le_trans (by decide) hlarge, ?_, ?_⟩
    · rintro rfl
      exact absurd hlarge (by decide)
    · rintro rfl
      exact absurd hlarge (by decide)

theorem escaped?_of_mem : ∀ p ∈ escapes, p.1 ≠ 117 ∧
    (escaped? (Char.ofUInt8 p.1)).map (fun e => [e]) = some (String.utf8EncodeChar p.2) := by
  decide

theorem not_surrogate (c : Char) : isLow c.toNat = false ∧ isHigh c.toNat = false := by
  have hvalid : c.toNat < 0xD800 ∨ 0xDFFF < c.toNat ∧ c.toNat < 0x110000 := c.valid
  simp only [isLow, isHigh, Bool.and_eq_false_iff, decide_eq_false_iff_not]
  omega

/-- **A character is read, however it is spelled**; where the text is not wanted, something is. -/
theorem leads_char {c : Char} {text : List UInt8} (h : SpellsChar c text) (lenient : Bool) (octets : List UInt8) :
    ∃ after, Leads (Next lenient) ⟨.plain, octets⟩ text ⟨.plain, after⟩ ∧
      (lenient = false → after = (String.utf8EncodeChar c).reverse ++ octets) := by
  cases h with
  | plain hprinted hquote hslash =>
    exact ⟨_, leads_plain (plain_octets hprinted hquote hslash) octets, fun _ => rfl⟩
  | @letter b hmem =>
    obtain ⟨hunit, hescaped⟩ := escaped?_of_mem _ hmem
    obtain ⟨e, he, hchar⟩ := Option.map_eq_some_iff.1 hescaped
    have hstep : Next lenient ⟨.letter, octets⟩ b ⟨.plain, e :: octets⟩ := by
      simp [Next, step, hunit, he, push]
    refine ⟨_, .cons rfl (.single hstep), fun _ => ?_⟩
    rw [← hchar]
    rfl
  | @code digits hdigits =>
    obtain ⟨hlow, hhigh⟩ := not_surrogate c
    cases lenient with
    | true => exact ⟨octets, leads_unwanted hdigits octets, nofun⟩
    | false =>
      have hunit : unit false ⟨.plain, octets⟩ none digits.reverse =
          .ok ⟨.plain, (String.utf8EncodeChar c).reverse ++ octets⟩ := by
        simp [unit, hexValue?_of_spells hdigits, hlow, hhigh, pushCode]
      exact ⟨_, .cons rfl (.cons rfl (leads_unit hdigits hunit)), fun _ => rfl⟩
  | @pair high low h l hdigits hdigits' hmin hmax hmin' hmax' hcode =>
    have hhigh : isHigh h = true := by simp only [isHigh, Bool.and_eq_true, decide_eq_true_eq]; omega
    have hnot : isLow h = false := by simp only [isLow, Bool.and_eq_false_iff, decide_eq_false_iff_not]; omega
    have hlow : isLow l = true := by simp only [isLow, Bool.and_eq_true, decide_eq_true_eq]; omega
    cases lenient with
    | true => exact ⟨octets, (leads_unwanted hdigits octets).append (leads_unwanted hdigits' octets), nofun⟩
    | false =>
      have hfirst : unit false ⟨.plain, octets⟩ none high.reverse = .ok ⟨.pairBackslash h, octets⟩ := by
        simp [unit, hexValue?_of_spells hdigits, hhigh, hnot]
      have hcode : pairCode h l = c.toNat := hcode.symm
      have hsecond : unit false ⟨.plain, octets⟩ (some h) low.reverse =
          .ok ⟨.plain, (String.utf8EncodeChar c).reverse ++ octets⟩ := by
        simp [unit, hexValue?_of_spells hdigits', hlow, pushCode, hcode, Char.ofNat_toNat]
      refine ⟨_, .append (.cons rfl (.cons rfl (leads_unit hdigits hfirst))) ?_, fun _ => rfl⟩
      exact .cons rfl (.cons rfl (leads_unit hdigits' hsecond))

theorem leads_chars {cs : List Char} {text : List UInt8} (h : SpellsChars cs text) (lenient : Bool) (octets : List UInt8) :
    ∃ after, Leads (Next lenient) ⟨.plain, octets⟩ text ⟨.plain, after⟩ ∧
      (lenient = false → after = (cs.flatMap String.utf8EncodeChar).reverse ++ octets) := by
  induction h generalizing octets with
  | nil => exact ⟨octets, .nil _, fun _ => rfl⟩
  | cons hchar _ ih =>
    obtain ⟨between, hfirst, hbetween⟩ := leads_char hchar lenient octets
    obtain ⟨after, hrest, hafter⟩ := ih between
    refine ⟨after, hfirst.append hrest, fun hstrict => ?_⟩
    rw [hafter hstrict, hbetween hstrict, List.flatMap_cons, List.reverse_append, List.append_assoc]

theorem text_of_octets (s : String) : text ⟨.plain, (Utf8.encode s).reverse⟩ = .ok s := by
  simp [text, Utf8.decode?_encode]

end StringLiteral

/-! ## Numerals -/

/-- the octets that may follow a value: blanks, a comma, the end of what is open -/
def ends : List UInt8 := [32, 9, 10, 13, 44, 93, 125]

theorem Blanks.mem_ends {octets : List UInt8} (h : Blanks octets) : ∀ b ∈ octets, b ∈ ends := by
  intro b hb
  exact List.mem_append_left [44, 93, 125] (h b hb)

namespace Numeral

/-- the numeral goes on -/
def Next (lenient : Bool) (n : Numeral) (b : UInt8) (m : Numeral) : Prop := n.step lenient b = .ok (some m)

theorem digit?_of_isDigit {b : UInt8} (h : IsDigit b) : digit? b = some (b.toNat - 48) := if_pos h

/-- a minus or a digit begins a numeral, nothing else -/
theorem code_of_start? {b : UInt8} {n : Numeral} (h : start? b = some n) :
    b.toNat = 45 ∨ 48 ≤ b.toNat ∧ b.toNat ≤ 57 := by
  unfold start? at h
  split at h
  · rename_i hminus
    exact .inl (congrArg UInt8.toNat (eq_of_beq hminus))
  · obtain ⟨d, hd, -⟩ := Option.map_eq_some_iff.1 h
    unfold digit? at hd
    split at hd
    · rename_i hdigit
      exact .inr hdigit
    · cases hd

theorem digit?_of_mem_ends : ∀ b ∈ ends, digit? b = none ∧ b ≠ 46 ∧ b ≠ 101 ∧ b ≠ 69 := by
  simp [ends, digit?]

/-- a numeral that may end ends before what may follow a value -/
theorem step_of_mem_ends {n : Numeral} (h : n.isComplete = true) (lenient : Bool) {b : UInt8} (hb : b ∈ ends) :
    n.step lenient b = .ok none := by
  obtain ⟨hdigit, hpoint, hmark, hmark'⟩ := digit?_of_mem_ends b hb
  unfold isComplete at h
  unfold step
  rw [hdigit]
  cases hphase : n.phase <;> simp_all [afterDigits]

/-- before the point -/
def InWhole (n : Numeral) : Prop := n.phase = .zero ∨ n.phase = .whole

/-- among the digits behind the point -/
def InFraction (n : Numeral) : Prop := ∃ dropping, n.phase = .fraction dropping

/-- among the digits of the exponent -/
def InPower (n : Numeral) : Prop := n.phase = .vanished ∨ ∃ down k, n.phase = .power down k

theorem inFraction_pushFraction (n : Numeral) (dropping : Bool) (d : Nat) : InFraction (n.pushFraction dropping d) := by
  unfold pushFraction
  split
  · exact ⟨_, rfl⟩
  · exact ⟨_, rfl⟩

/-- no exponent is too large where the value is not wanted -/
theorem exists_pushPower (n : Numeral) (down : Bool) (k d : Nat) : ∃ m, n.pushPower true down k d = .ok m ∧ InPower m := by
  unfold pushPower
  split
  · exact ⟨_, rfl, .inr ⟨_, _, rfl⟩⟩
  · exact ⟨_, if_pos (.inl rfl), .inl rfl⟩

theorem leads_wholeDigits {digits : List UInt8} (h : ∀ b ∈ digits, IsDigit b) {n : Numeral} (hn : n.phase = .whole) :
    ∃ m, Leads (Next true) n digits m ∧ m.phase = .whole := by
  refine exists_leads (fun n hn b hb => ⟨n.pushWhole (b.toNat - 48), ?_, ?_⟩) h hn
  · simp [Next, step, hn, digit?_of_isDigit hb]
  · unfold pushWhole
    split <;> rfl

theorem leads_fractionDigits {digits : List UInt8} (h : ∀ b ∈ digits, IsDigit b) {n : Numeral} (hn : InFraction n) :
    ∃ m, Leads (Next true) n digits m ∧ InFraction m := by
  refine exists_leads (fun n hn b hb => ?_) h hn
  obtain ⟨dropping, hphase⟩ := hn
  refine ⟨n.pushFraction dropping (b.toNat - 48), ?_, inFraction_pushFraction _ _ _⟩
  simp [Next, step, hphase, digit?_of_isDigit hb]

theorem leads_powerDigits {digits : List UInt8} (h : ∀ b ∈ digits, IsDigit b) {n : Numeral} (hn : InPower n) :
    ∃ m, Leads (Next true) n digits m ∧ InPower m := by
  refine exists_leads (fun n hn b hb => ?_) h hn
  rcases hn with hphase | ⟨down, k, hphase⟩
  · exact ⟨n, by simp [Next, step, hphase, digit?_of_isDigit hb], .inl hphase⟩
  · obtain ⟨m, hpush, hm⟩ := exists_pushPower n down k (b.toNat - 48)
    exact ⟨m, by simp [Next, step, hphase, digit?_of_isDigit hb, hpush, Except.map], hm⟩

/-- behind the first digit, whichever it is -/
theorem leads_whole {b : UInt8} {rest : List UInt8} (h : IsWhole (b :: rest)) : IsDigit b ∧
    ∀ n : Numeral, n.phase = (if b.toNat - 48 = 0 then .zero else .whole) → ∃ m, Leads (Next true) n rest m ∧ InWhole m := by
  cases h with
  | zero => exact ⟨⟨by decide, by decide⟩, fun n hn => ⟨n, .nil n, .inl hn⟩⟩
  | digits hb hzero hrest =>
    refine ⟨hb, fun n hn => ?_⟩
    have hcount : b.toNat - 48 ≠ 0 := by
      intro hcount
      exact hzero (UInt8.toNat_inj.1 (Nat.le_antisymm (Nat.sub_eq_zero_iff_le.1 hcount) hb.1))
    rw [if_neg hcount] at hn
    obtain ⟨m, hleads, hm⟩ := leads_wholeDigits hrest hn
    exact ⟨m, hleads, .inr hm⟩

theorem leads_fraction {octets : List UInt8} (h : IsFraction octets) {n : Numeral} (hn : InWhole n) :
    ∃ m, Leads (Next true) n octets m ∧ (InWhole m ∨ InFraction m) := by
  cases h with
  | none => exact ⟨n, .nil n, .inl hn⟩
  | point hdigits =>
    cases hdigits with
    | @digits b rest hb hrest =>
      have hpoint : Next true n 46 { n with phase := .point } := by
        rcases hn with hn | hn <;> simp [Next, step, hn, digit?, afterDigits]
      have hfirst : Next true { n with phase := .point } b
          (pushFraction { n with phase := .point } false (b.toNat - 48)) := by
        simp [Next, step, digit?_of_isDigit hb]
      obtain ⟨m, hleads, hm⟩ := leads_fractionDigits hrest (inFraction_pushFraction _ _ _)
      exact ⟨m, .cons hpoint (.cons hfirst hleads), .inr hm⟩

/-- the digits of an exponent, from the mark or from the sign behind it -/
theorem leads_power {digits : List UInt8} (h : AreDigits digits) {n : Numeral}
    (hn : n.phase = .mark ∨ ∃ down, n.phase = .sign down) : ∃ m, Leads (Next true) n digits m ∧ InPower m := by
  cases h with
  | @digits b rest hb hrest =>
    have hfirst : ∃ m, Next true n b m ∧ InPower m := by
      rcases hn with hn | ⟨down, hn⟩
      · obtain ⟨m, hpush, hm⟩ := exists_pushPower n false 0 (b.toNat - 48)
        exact ⟨m, by simp [Next, step, hn, digit?_of_isDigit hb, hpush, Except.map], hm⟩
      · obtain ⟨m, hpush, hm⟩ := exists_pushPower n down 0 (b.toNat - 48)
        exact ⟨m, by simp [Next, step, hn, digit?_of_isDigit hb, hpush, Except.map], hm⟩
    obtain ⟨m, hnext, hm⟩ := hfirst
    obtain ⟨m', hleads, hm'⟩ := leads_powerDigits hrest hm
    exact ⟨m', .cons hnext hleads, hm'⟩

theorem leads_exponent {octets : List UInt8} (h : IsExponent octets) {n : Numeral} (hn : InWhole n ∨ InFraction n) :
    ∃ m, Leads (Next true) n octets m ∧ m.isComplete = true := by
  cases h with
  | none =>
    refine ⟨n, .nil n, ?_⟩
    rcases hn with (hn | hn) | ⟨dropping, hn⟩ <;> simp [isComplete, hn]
  | @mark b sign digits hb hsign hdigits =>
    have hmark : Next true n b { n with phase := .mark } := by
      have hoctet : ∀ b ∈ ([101, 69] : List UInt8), digit? b = none ∧ b ≠ 46 ∧ (b = 101 ∨ b = 69) := by
        simp [digit?]
      obtain ⟨hdigit, hpoint, hmark⟩ := hoctet b hb
      rcases hn with (hn | hn) | ⟨dropping, hn⟩ <;> simp [Next, step, hn, hdigit, afterDigits, hpoint, hmark]
    have hsigned : ∃ m, Leads (Next true) { n with phase := .mark } sign m ∧
        (m.phase = .mark ∨ ∃ down, m.phase = .sign down) := by
      simp only [List.mem_cons, List.not_mem_nil, or_false] at hsign
      rcases hsign with rfl | rfl | rfl
      · exact ⟨_, .nil _, .inl rfl⟩
      · exact ⟨_, .single rfl, .inr ⟨false, rfl⟩⟩
      · exact ⟨_, .single rfl, .inr ⟨true, rfl⟩⟩
    obtain ⟨m, hleads, hm⟩ := hsigned
    obtain ⟨m', hleads', hm'⟩ := leads_power hdigits hm
    refine ⟨m', .cons hmark (hleads.append hleads'), ?_⟩
    rcases hm' with hm' | ⟨down, k, hm'⟩ <;> simp [isComplete, hm']

/-- **A numeral is read to its end**, whatever its value is. -/
theorem leads_numeral {octets : List UInt8} (h : IsNumeral octets) :
    ∃ b rest n m, octets = b :: rest ∧ start? b = some n ∧ Leads (Next true) n rest m ∧ m.isComplete = true := by
  cases h with
  | @parts sign whole fraction exponent hsign hwhole hfraction hexponent =>
    obtain ⟨b, rest, rfl⟩ : ∃ b rest, whole = b :: rest := by cases hwhole <;> exact ⟨_, _, rfl⟩
    obtain ⟨hb, hleads⟩ := leads_whole hwhole
    have hdigit := digit?_of_isDigit hb
    have hbehind : ∀ n : Numeral, n.phase = (if b.toNat - 48 = 0 then .zero else .whole) →
        ∃ m, Leads (Next true) n (rest ++ (fraction ++ exponent)) m ∧ m.isComplete = true := by
      intro n hn
      obtain ⟨m, hrest, hm⟩ := hleads n hn
      obtain ⟨m', hpoint, hm'⟩ := leads_fraction hfraction hm
      obtain ⟨m'', hmark, hm''⟩ := leads_exponent hexponent hm'
      exact ⟨m'', hrest.append (hpoint.append hmark), hm''⟩
    simp only [List.mem_cons, List.not_mem_nil, or_false] at hsign
    rcases hsign with rfl | rfl
    · obtain ⟨m, hm⟩ := hbehind ⟨if b.toNat - 48 = 0 then .zero else .whole, false, b.toNat - 48, 0, false⟩ rfl
      have hminus : b ≠ 45 := by rintro rfl; exact absurd hb.1 (by decide)
      exact ⟨b, _, _, m, rfl, by simp [start?, hminus, hdigit], hm⟩
    · obtain ⟨m, hrest, hm⟩ := hbehind ⟨if b.toNat - 48 = 0 then .zero else .whole, true, b.toNat - 48, 0, false⟩ rfl
      refine ⟨45, _, _, m, rfl, rfl, .cons ?_ hrest, hm⟩
      simp [Next, step, hdigit]

theorem digit?_ofNat {c : Char} (h : c.isDigit = true) :
    digit? (UInt8.ofNat c.toNat) = some (c.toNat - '0'.toNat) := by
  have hrange := Text.digit_range h
  rw [digit?_of_isDigit (isDigit_ofNat h), Utf8.toNat_octet (by omega)]
  rfl

/-- more digits of a number that fits, whatever its sign -/
theorem leads_figures {cs : List Char} (h : Text.Digits cs) (negative : Bool) {k : Nat}
    (hfits : Nat.ofDigitChars 10 cs k < UInt64.size) :
    Leads (Next false) ⟨.whole, negative, k, 0, false⟩ (cs.flatMap String.utf8EncodeChar)
      ⟨.whole, negative, Nat.ofDigitChars 10 cs k, 0, false⟩ := by
  induction cs generalizing k with
  | nil => exact .nil _
  | cons c cs ih =>
    obtain ⟨hc, hcs⟩ := List.forall_mem_cons.1 h
    have hascii := Text.digit_range hc
    have hdigit := digit?_ofNat hc
    rw [Nat.ofDigitChars_cons] at hfits ⊢
    generalize c.toNat - '0'.toNat = d at hdigit hfits ⊢
    -- the digits behind this one make the number larger only
    have hlarger : 10 * k + d ≤ Nat.ofDigitChars 10 cs (10 * k + d) := by
      rw [Text.ofDigitChars_eq]
      exact Nat.le_add_right_of_le (Nat.le_mul_of_pos_right _ (Nat.pow_pos (by decide)))
    have hstep : Next false ⟨.whole, negative, k, 0, false⟩ (UInt8.ofNat c.toNat) ⟨.whole, negative, 10 * k + d, 0, false⟩ := by
      have hroom : ¬ maxSignificand < 10 * k + d := by
        unfold maxSignificand
        omega
      simp [Next, step, hdigit, pushWhole, hroom, Nat.mul_comm k 10]
    rw [List.flatMap_cons, Utf8.encodeChar_of_small (by omega)]
    exact .cons hstep (ih hcs hfits)

/-- the digits of a number other than zero: the first one, and where the others lead from it -/
theorem exists_figures {n : Nat} (hzero : n ≠ 0) (h : n < UInt64.size) :
    ∃ b rest d, (Nat.toDigits 10 n).flatMap String.utf8EncodeChar = b :: rest ∧ digit? b = some d ∧ d ≠ 0 ∧
      ∀ negative, Leads (Next false) ⟨.whole, negative, d, 0, false⟩ rest ⟨.whole, negative, n, 0, false⟩ := by
  have hdigits := Text.digits_toDigits n
  have hvalue : Nat.ofDigitChars 10 (Nat.toDigits 10 n) 0 = n := Nat.ofDigitChars_ten_toDigits
  have hlead : (Nat.toDigits 10 n).head? ≠ some '0' := mt Text.head?_toDigits hzero
  obtain ⟨c, cs, hcs⟩ := List.exists_cons_of_ne_nil (@Nat.toDigits_ne_nil n 10)
  rw [hcs] at hdigits hvalue hlead ⊢
  obtain ⟨hc, hrest⟩ := List.forall_mem_cons.1 hdigits
  have hascii := Text.digit_range hc
  have hcount : c.toNat - '0'.toNat ≠ 0 := by
    intro hcount
    apply hlead
    rw [List.head?_cons, Char.toNat_inj.1 (Nat.le_antisymm (Nat.sub_eq_zero_iff_le.1 hcount) hascii.1)]
  rw [Nat.ofDigitChars_cons, Nat.mul_zero, Nat.zero_add] at hvalue
  refine ⟨_, cs.flatMap String.utf8EncodeChar, _, ?_, digit?_ofNat hc, hcount, fun negative => ?_⟩
  · rw [List.flatMap_cons, Utf8.encodeChar_of_small (by omega)]
    rfl
  · have hfigures := leads_figures hrest negative (hvalue ▸ h)
    rwa [hvalue] at hfigures

/-- **An integer of 64 bits is read exactly**, with or without a sign. -/
theorem leads_integer {n : Int} (hlow : -2 ^ 63 ≤ n) (hhigh : n < 2 ^ 64) :
    ∃ b rest start m, Utf8.encode (toString n) = b :: rest ∧ start? b = some start ∧
      Leads (Next false) start rest m ∧ m.isComplete = true ∧ m.value? = some (.integer n) := by
  obtain ⟨k, hk⟩ := Int.eq_nat_or_neg n
  by_cases hzero : k = 0
  · obtain rfl : n = 0 := by omega
    exact ⟨48, [], _, _, rfl, rfl, .nil _, rfl, rfl⟩
  · have hfits : k < UInt64.size := by
      rw [UInt64.size]
      omega
    obtain ⟨b, rest, d, hoctets, hdigit, hd, hleads⟩ := exists_figures hzero hfits
    rw [Utf8.encode]
    rcases hk with rfl | rfl
    · have hminus : b ≠ 45 := by
        rintro rfl
        cases hdigit
      rw [Text.toString_of_nonneg (Int.natCast_nonneg k), Int.toNat_natCast, hoctets]
      exact ⟨b, rest, _, _, rfl, by simp [start?, hminus, hdigit, hd], hleads false, rfl, rfl⟩
    · have hroom : ¬ Nat.pow 2 63 < k := by
        have hpow : Nat.pow 2 63 = 9223372036854775808 := rfl
        omega
      have hfirst : Next false ⟨.minus, true, 0, 0, false⟩ b ⟨.whole, true, d, 0, false⟩ := by
        simp [Next, step, hdigit, hd]
      rw [Text.toString_of_neg (by omega), Int.neg_neg, Int.toNat_natCast, List.flatMap_cons, hoctets]
      exact ⟨45, b :: rest, _, _, rfl, rfl, .cons hfirst (hleads true), rfl, by simp [value?, hzero, hroom]⟩

end Numeral

end SqlGateway.Json
