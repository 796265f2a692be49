/-
Decimal digits by place value. `number` is the value of digits, the last one for the ones; what is known of lists of
figures holds of it: how large it is, how it grows when digits follow, and that digits of one length spell it in one way
only (`number_inj`).

`natural?_eq_some`, `integer?_eq_some`: what is read as an integer is a sign, or none, and digits, at least one of them;
and every integer is read out of its decimal form (`integer?_toString`).
-/
import Mathlib.Data.Nat.Digits.Lemmas
import Mathlib.Tactic.Ring
import SqlGateway.Text.Characters
import SqlGateway.Text.Integer

namespace SqlGateway.Text

/-! ## Place value -/

/-- all of them are decimal digits -/
def Digits (cs : List Char) : Prop := ∀ c ∈ cs, c.isDigit = true

instance (cs : List Char) : Decidable (Digits cs) := decidable_of_iff (cs.all Char.isDigit = true) List.all_eq_true

/-- what a digit counts -/
def figure (c : Char) : Nat := c.toNat - '0'.toNat

/-- the number that digits spell: the last one counts ones, the one before it tens, and so on -/
def number (cs : List Char) : Nat := Nat.ofDigits 10 (cs.reverse.map figure)

theorem digit_range {c : Char} (h : c.isDigit = true) : 48 ≤ c.toNat ∧ c.toNat ≤ 57 := Char.isDigit_iff_toNat.1 h

theorem figure_lt {c : Char} (h : c.isDigit = true) : figure c < 10 := by
  have hrange := digit_range h
  simp only [figure, Char.reduceToNat]
  omega

theorem digitChar_figure {c : Char} (h : c.isDigit = true) : (figure c).digitChar = c := by
  have hrange := digit_range h
  apply Char.toNat_inj.1
  rw [Nat.toNat_digitChar_of_lt_ten (figure_lt h)]
  simp only [figure, Char.reduceToNat]
  omega

theorem figures_lt {cs : List Char} (h : Digits cs) : ∀ x ∈ cs.reverse.map figure, x < 10 := by
  intro x hx
  obtain ⟨c, hc, rfl⟩ := List.mem_map.1 hx
  exact figure_lt (h c (List.mem_reverse.1 hc))

theorem Digits.append {cs ds : List Char} (h : Digits cs) (h' : Digits ds) : Digits (cs ++ ds) :=
  List.forall_mem_append.2 ⟨h, h'⟩

theorem digits_zeros (n : Nat) : Digits (List.replicate n '0') := by
  intro c hc
  rw [List.eq_of_mem_replicate hc]
  rfl

theorem number_append (cs ds : List Char) : number (cs ++ ds) = number cs * 10 ^ ds.length + number ds := by
  simp only [number, List.reverse_append, List.map_append, Nat.ofDigits_append, List.length_map, List.length_reverse]
  ring

theorem number_zeros (n : Nat) : number (List.replicate n '0') = 0 := by
  induction n with
  | zero => rfl
  | succ n ih =>
    rw [List.replicate_succ', number_append, ih]
    rfl

theorem number_lt {cs : List Char} (h : Digits cs) : number cs < 10 ^ cs.length := by
  simpa [number] using Nat.ofDigits_lt_base_pow_length (by omega) (figures_lt h)

/-- **Digits of one length spell a number in one way.** -/
theorem number_inj {cs ds : List Char} (hcs : Digits cs) (hds : Digits ds) (hlength : cs.length = ds.length)
    (h : number cs = number ds) : cs = ds := by
  have hback : ∀ {es : List Char}, Digits es → (es.reverse.map figure).map Nat.digitChar = es.reverse := by
    intro es hes
    rw [List.map_map]
    refine (List.map_congr_left fun c hc => ?_).trans (List.map_id' _)
    exact digitChar_figure (hes c (List.mem_reverse.1 hc))
  have hfigures : cs.reverse.map figure = ds.reverse.map figure :=
    Nat.ofDigits_inj_of_len_eq (by omega) (by simp [hlength]) (figures_lt hcs) (figures_lt hds) h
  apply List.reverse_injective
  rw [← hback hcs, ← hback hds, hfigures]

/-- a reader that goes from the first digit to the last carries what it has read before them -/
theorem ofDigitChars_eq (cs : List Char) (n : Nat) : Nat.ofDigitChars 10 cs n = n * 10 ^ cs.length + number cs := by
  induction cs generalizing n with
  | nil => simp [number]
  | cons c cs ih =>
    have hsplit : number (c :: cs) = figure c * 10 ^ cs.length + number cs := by
      rw [← List.singleton_append, number_append]
      simp [number]
    rw [Nat.ofDigitChars_cons, ih, hsplit, List.length_cons]
    simp only [figure]
    ring

theorem ofDigitChars_eq_number (cs : List Char) : Nat.ofDigitChars 10 cs 0 = number cs := by
  rw [ofDigitChars_eq, Nat.zero_mul, Nat.zero_add]

/-! ## Reading -/

theorem digits?_eq_some {cs : List Char} {n : Nat} : digits? cs = some n ↔ cs ≠ [] ∧ Digits cs ∧ number cs = n := by
  simp [digits?, Digits, ofDigitChars_eq_number, and_assoc]

/-- digits without sign or after a plus -/
inductive SpellsNatural : List Char → Nat → Prop
  | bare {cs : List Char} : cs ≠ [] → Digits cs → SpellsNatural cs (number cs)
  | plus {cs : List Char} : cs ≠ [] → Digits cs → SpellsNatural ('+' :: cs) (number cs)

/-- digits without sign or after one -/
inductive SpellsInteger : List Char → Int → Prop
  | natural {cs : List Char} {n : Nat} : SpellsNatural cs n → SpellsInteger cs n
  | minus {cs : List Char} : cs ≠ [] → Digits cs → SpellsInteger ('-' :: cs) (-(number cs : Int))

theorem natural?_of_digits {cs : List Char} (h : Digits cs) : natural? cs = digits? cs := by
  unfold natural?
  split
  · exact absurd (h '+' List.mem_cons_self) (by decide)
  · rfl

theorem natural?_eq_some {cs : List Char} {n : Nat} : natural? cs = some n ↔ SpellsNatural cs n := by
  constructor
  · intro h
    unfold natural? at h
    split at h
    · obtain ⟨hne, hdigits, rfl⟩ := digits?_eq_some.1 h
      exact .plus hne hdigits
    · obtain ⟨hne, hdigits, rfl⟩ := digits?_eq_some.1 h
      exact .bare hne hdigits
  · intro h
    rcases h with ⟨hne, hdigits⟩ | ⟨hne, hdigits⟩
    · rw [natural?_of_digits hdigits]
      exact digits?_eq_some.2 ⟨hne, hdigits, rfl⟩
    · exact digits?_eq_some.2 ⟨hne, hdigits, rfl⟩

theorem integer?_minus (cs : List Char) : integer? ('-' :: cs) = (digits? cs).map fun n : Nat => -(n : Int) := by
  rw [integer?]
  cases digits? cs <;> rfl

theorem integer?_of_natural? {cs : List Char} {n : Nat} (h : natural? cs = some n) : integer? cs = some (n : Int) := by
  unfold integer?
  split
  · rename_i ds
    have hdigits : digits? ('-' :: ds) = some n := h
    exact absurd ((digits?_eq_some.1 hdigits).2.1 '-' List.mem_cons_self) (by decide)
  · rw [h]
    rfl

/-- without a minus, an integer is a natural number -/
theorem natural?_of_integer? {cs : List Char} {n : Int} (h : integer? cs = some n) (hminus : cs.head? ≠ some '-') :
    ∃ m : Nat, natural? cs = some m ∧ n = m := by
  unfold integer? at h
  split at h
  · exact absurd rfl hminus
  · cases hread : natural? cs with
    | none => simp [hread] at h
    | some m => exact ⟨m, rfl, by simpa [hread, eq_comm] using h⟩

theorem integer?_eq_some {cs : List Char} {n : Int} : integer? cs = some n ↔ SpellsInteger cs n := by
  constructor
  · intro h
    by_cases hminus : cs.head? = some '-'
    · obtain ⟨ds, rfl⟩ := List.head?_eq_some_iff.1 hminus
      rw [integer?_minus] at h
      obtain ⟨m, hm, rfl⟩ := Option.map_eq_some_iff.1 h
      obtain ⟨hne, hdigits, rfl⟩ := digits?_eq_some.1 hm
      exact .minus hne hdigits
    · obtain ⟨m, hm, rfl⟩ := natural?_of_integer? h hminus
      exact .natural (natural?_eq_some.1 hm)
  · intro h
    rcases h with hnatural | ⟨hne, hdigits⟩
    · exact integer?_of_natural? (natural?_eq_some.2 hnatural)
    · have hread := digits?_eq_some.2 ⟨hne, hdigits, rfl⟩
      rw [integer?_minus, hread, Option.map_some]

/-- no white space is a digit -/
theorem isBlank_of_isDigit {c : Char} (h : c.isDigit = true) : isBlank c = false := by
  have hrange := digit_range h
  simp only [isBlank, Bool.or_eq_false_iff, Bool.and_eq_false_iff, decide_eq_false_iff_not, beq_eq_false_iff_ne]
  omega

theorem trimStart_of_digits {cs rest : List Char} (hne : cs ≠ []) (h : Digits cs) :
    trimStart (cs ++ rest) = cs ++ rest := by
  obtain ⟨c, cs, rfl⟩ := List.exists_cons_of_ne_nil hne
  have hblank := isBlank_of_isDigit (h c List.mem_cons_self)
  rw [trimStart, List.cons_append, List.dropWhile_cons_of_neg]
  rw [hblank]
  decide

/-! ## The decimal form -/

theorem digits_toDigits (n : Nat) : Digits (Nat.toDigits 10 n) := (digits?_eq_some.1 (digits?_toDigits n)).2.1

theorem number_toDigits (n : Nat) : number (Nat.toDigits 10 n) = n := (digits?_eq_some.1 (digits?_toDigits n)).2.2

theorem natural?_toDigits (n : Nat) : natural? (Nat.toDigits 10 n) = some n := by
  rw [natural?_of_digits (digits_toDigits n), digits?_toDigits]

/-- a number other than zero does not begin with a zero -/
theorem head?_toDigits {n : Nat} (h : (Nat.toDigits 10 n).head? = some '0') : n = 0 := by
  induction n using Nat.strongRecOn with
  | ind n ih =>
    by_cases hsmall : n < 10
    · rw [Nat.toDigits_of_lt_base hsmall, List.head?_cons, Option.some.injEq] at h
      have hdigit := congrArg Char.toNat h
      rw [Nat.toNat_digitChar_of_lt_ten hsmall] at hdigit
      exact Nat.add_left_cancel hdigit
    · rw [Nat.toDigits_of_base_le (by decide) (by omega), List.head?_append_of_ne_nil _ Nat.toDigits_ne_nil] at h
      have hzero := ih (n / 10) (by omega) h
      omega

theorem toString_of_nonneg {n : Int} (h : 0 ≤ n) : (toString n).toList = Nat.toDigits 10 n.toNat := by
  rw [Int.toString_eq_repr, Int.repr_eq_if, if_pos h, Nat.toList_repr]

theorem toString_of_neg {n : Int} (h : n < 0) : (toString n).toList = '-' :: Nat.toDigits 10 (-n).toNat := by
  rw [Int.toString_eq_repr, Int.repr_eq_if, if_neg (by omega), String.toList_append, Nat.toList_repr]
  rfl

theorem integer?_toString (n : Int) : integer? (toString n).toList = some n := by
  by_cases hsign : 0 ≤ n
  · rw [toString_of_nonneg hsign, integer?_of_natural? (natural?_toDigits _), Int.toNat_of_nonneg hsign]
  · rw [toString_of_neg (by omega), integer?_minus, digits?_toDigits, Option.map_some, Int.toNat_of_nonneg (by omega), neg_neg]

/-- without a minus, of natural numbers alone -/
theorem natural?_toString {n : Int} {m : Nat} (h : natural? (toString n).toList = some m) : n = m := by
  have hread := integer?_of_natural? h
  rw [integer?_toString] at hread
  exact Option.some.inj hread

end SqlGateway.Text
