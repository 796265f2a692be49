/-
Dates with a time of day, reformatted. A `Stamp` is a text in the form of the database, `2024-02-29 13:05:09.25`, by its
digits. If its date is in the Gregorian calendar and its hour and minute exist, a column shows the same digits with `T`
for the blank and three places after the point; otherwise it shows the text as it stands.

- `DateTime.ofChars?_text`: a stamp is read as its numbers, if there is such a time.
- `DateTime.chars_numbers`: the numbers are written with the digits of the stamp.
- `temporal_columns`: what columns of either kind show for a stamp.
-/
import Mathlib.Data.List.TakeWhile
import Mathlib.Tactic.IntervalCases
import SqlGateway.Proofs.Text.Decimal
import SqlGateway.Store.Column

namespace SqlGateway

open Text (Digits number)

/-! ## The calendar -/

namespace Calendar

/-- every fourth year, but of the hundreds only every fourth -/
def IsLeap (year : Nat) : Prop := 4 ∣ year ∧ (100 ∣ year → 400 ∣ year)

instance (year : Nat) : Decidable (IsLeap year) := inferInstanceAs (Decidable (_ ∧ _))

/-- the lengths of the months, from January on -/
def monthLengths (year : Nat) : List Nat :=
  [31, if IsLeap year then 29 else 28, 31, 30, 31, 30, 31, 31, 30, 31, 30, 31]

/-- the date exists: months and days are counted from one -/
def Exists (year month day : Nat) : Prop :=
  1 ≤ month ∧ 1 ≤ day ∧ ∃ length, (monthLengths year)[month - 1]? = some length ∧ day ≤ length

theorem isLeapYear_iff (year : Nat) : DateTime.isLeapYear year = true ↔ IsLeap year := by
  simp only [DateTime.isLeapYear, IsLeap, Bool.and_eq_true, Bool.or_eq_true, beq_iff_eq, bne_iff_ne]
  omega

theorem monthLengths_getElem? (year : Nat) {month : Nat} (h : 1 ≤ month) (h' : month ≤ 12) :
    (monthLengths year)[month - 1]? = some (DateTime.daysInMonth year month) := by
  have hleap : (if IsLeap year then 29 else 28) = if DateTime.isLeapYear year then 29 else 28 :=
    if_congr (isLeapYear_iff year).symm rfl rfl
  interval_cases month <;> simp [monthLengths, DateTime.daysInMonth, hleap]

theorem exists_iff (year month day : Nat) :
    Exists year month day ↔
      (1 ≤ month ∧ month ≤ 12) ∧ 1 ≤ day ∧ day ≤ DateTime.daysInMonth year month := by
  constructor
  · rintro ⟨hmonth, hday, length, hlength, hle⟩
    have hbound : month - 1 < 12 := (List.getElem?_eq_some_iff.1 hlength).1
    rw [monthLengths_getElem? year hmonth (by omega)] at hlength
    obtain rfl := Option.some.inj hlength
    exact ⟨⟨hmonth, by omega⟩, hday, hle⟩
  · rintro ⟨⟨hmonth, hmonth'⟩, hday, hle⟩
    exact ⟨hmonth, hday, _, monthLengths_getElem? year hmonth hmonth', hle⟩

instance (year month day : Nat) : Decidable (Exists year month day) := decidable_of_iff' _ (exists_iff year month day)

end Calendar

/-! ## Stamps -/

/-- so many decimal digits -/
abbrev Figures (n : Nat) := { cs : List Char // cs.length = n ∧ Digits cs }

theorem Figures.number_lt {n : Nat} (f : Figures n) : number f.val < 10 ^ n := by
  obtain ⟨cs, rfl, hdigits⟩ := f
  exact Text.number_lt hdigits

/-- the digits of a date and a time of day; there may be none behind the point, and then there is no point -/
structure Stamp where
  year : Figures 4
  month : Figures 2
  day : Figures 2
  hour : Figures 2
  minute : Figures 2
  second : Figures 2
  fraction : { cs : List Char // Digits cs }

namespace Stamp

/-- date and time with a character between them, and what comes behind them -/
def written (s : Stamp) (between : Char) (rest : List Char) : List Char :=
  s.year.val ++ '-' :: (s.month.val ++ '-' :: (s.day.val ++ between :: (s.hour.val ++ ':' ::
    (s.minute.val ++ ':' :: (s.second.val ++ rest)))))

/-- the places behind the second -/
def places (s : Stamp) : List Char := if s.fraction.val = [] then [] else '.' :: s.fraction.val

/-- the text of a database -/
def text (s : Stamp) : String := .ofList (s.written ' ' s.places)

/-- the first three places, zeros where there are fewer -/
def milliseconds (s : Stamp) : List Char := (s.fraction.val ++ ['0', '0', '0']).take 3

/-- the text of a response -/
def shown (s : Stamp) : String := .ofList (s.written 'T' ('.' :: s.milliseconds))

/-- there is such a time, whatever the second is -/
def IsTime (s : Stamp) : Prop :=
  Calendar.Exists (number s.year.val) (number s.month.val) (number s.day.val) ∧
    number s.hour.val < 24 ∧ number s.minute.val < 60

instance (s : Stamp) : Decidable s.IsTime := inferInstanceAs (Decidable (_ ∧ _))

end Stamp

/-! ## Reading -/

namespace DateTime

variable {ds rest : List Char}

theorem scanDigits?_of_digits {width : Nat} (hlength : ds.length = width) (hne : ds ≠ []) (h : Digits ds) :
    scanDigits? width (ds ++ rest) = some (number ds, rest) := by
  have hdigits : ((ds ++ rest).take width).takeWhile Char.isDigit = ds := by
    rw [List.take_left' hlength]
    exact List.takeWhile_eq_self_iff.2 h
  rw [scanDigits?]
  simp only [hdigits, Text.digits?_eq_some.2 ⟨hne, h, rfl⟩, Option.map_some, List.drop_left]

theorem scanField?_of_digits (hlength : ds.length = 2) (h : Digits ds) :
    scanField? (ds ++ rest) = some (number ds, rest) := by
  have hne : ds ≠ [] := List.ne_nil_of_length_pos (by omega)
  rw [scanField?, Text.trimStart_of_digits hne h, scanDigits?_of_digits hlength hne h]

/-- the hour comes after the blank -/
theorem scanField?_of_blank (hlength : ds.length = 2) (h : Digits ds) :
    scanField? (' ' :: (ds ++ rest)) = some (number ds, rest) := by
  have hblank : Text.trimStart (' ' :: (ds ++ rest)) = Text.trimStart (ds ++ rest) := List.dropWhile_cons_of_pos rfl
  rw [scanField?, hblank]
  exact scanField?_of_digits hlength h

theorem scanYear?_of_digits (hlength : ds.length = 4) (h : Digits ds) :
    scanYear? (ds ++ rest) = some ((number ds : Int), rest) := by
  have hne : ds ≠ [] := List.ne_nil_of_length_pos (by omega)
  have hsign : ∀ c, c.isDigit = false → ∀ cs, ds ++ rest ≠ c :: cs := by
    rintro c hc cs heq
    obtain ⟨d, es, rfl⟩ := List.exists_cons_of_ne_nil hne
    have hd : d.isDigit = true := h d List.mem_cons_self
    rw [(List.cons.inj heq).1, hc] at hd
    cases hd
  rw [scanYear?, Text.trimStart_of_digits hne h]
  split
  · rename_i cs heq
    exact absurd heq (hsign '-' rfl cs)
  · rename_i cs heq
    exact absurd heq (hsign '+' rfl cs)
  · rw [scanDigits?_of_digits hlength hne h]
    rfl

theorem scanMark?_of_mark (mark : Char) : scanMark? mark (mark :: rest) = some rest := if_pos rfl

/-- the first nine places, zeros where there are fewer -/
def ninePlaces (places : List Char) : List Char := (places ++ List.replicate 9 '0').take 9

/-- the places of a second as nanoseconds -/
def nanoseconds (places : List Char) : Nat := number (ninePlaces places)

theorem length_ninePlaces (places : List Char) : (ninePlaces places).length = 9 := by simp [ninePlaces]

theorem digits_ninePlaces {places : List Char} (h : Digits places) : Digits (ninePlaces places) := by
  intro c hc
  exact h.append (Text.digits_zeros 9) c (List.mem_of_mem_take hc)

theorem scanFraction?_of_places {places : List Char} (hne : places ≠ []) (h : Digits places) :
    scanFraction? ('.' :: places) = some (nanoseconds places, []) := by
  have hdigits : places.takeWhile Char.isDigit = places := List.takeWhile_eq_self_iff.2 h
  have hkept : places.take 9 ≠ [] := by simpa using hne
  have hkept' : Digits (places.take 9) := fun c hc => h c (List.mem_of_mem_take hc)
  have hfilled : ninePlaces places = places.take 9 ++ List.replicate (9 - (places.take 9).length) '0' := by
    rw [ninePlaces, List.take_append, List.take_replicate, List.length_take]
    congr 2
    omega
  have hnumber : nanoseconds places = number (places.take 9) * Nat.pow 10 (9 - (places.take 9).length) := by
    rw [nanoseconds, hfilled, Text.number_append, Text.number_zeros, List.length_replicate, Nat.add_zero]
    rfl
  rw [scanFraction?]
  simp only [hdigits, Text.digits?_eq_some.2 ⟨hkept, hkept', rfl⟩, Option.map_some, List.drop_length, hnumber]

theorem scanFraction?_of_stamp (s : Stamp) : scanFraction? s.places = some (nanoseconds s.fraction.val, []) := by
  rw [Stamp.places]
  split
  · rename_i hnone
    rw [hnone]
    rfl
  · rename_i hne
    exact scanFraction?_of_places hne s.fraction.property

/-- the numbers of a stamp -/
def numbers (s : Stamp) : DateTime :=
  ⟨number s.year.val, number s.month.val, number s.day.val, number s.hour.val, number s.minute.val,
    number s.second.val, nanoseconds s.fraction.val⟩

/-- one part after the other -/
theorem bind_of_some {α β : Type} {x : Option α} {a : α} {f : α → Option β} (h : x = some a) : (x >>= f) = f a := by
  rw [h]
  rfl

/-- **A stamp is read as its numbers**, if they are a time that is counted. -/
theorem ofChars?_text (s : Stamp) :
    ofChars? s.text.toList = if (numbers s).isValid then some (numbers s) else none := by
  rw [Stamp.text, String.toList_ofList, Stamp.written]
  refine (bind_of_some (scanYear?_of_digits s.year.property.1 s.year.property.2)).trans ?_
  refine (bind_of_some (scanMark?_of_mark '-')).trans ?_
  refine (bind_of_some (scanField?_of_digits s.month.property.1 s.month.property.2)).trans ?_
  refine (bind_of_some (scanMark?_of_mark '-')).trans ?_
  refine (bind_of_some (scanField?_of_digits s.day.property.1 s.day.property.2)).trans ?_
  refine (bind_of_some (scanField?_of_blank s.hour.property.1 s.hour.property.2)).trans ?_
  refine (bind_of_some (scanMark?_of_mark ':')).trans ?_
  refine (bind_of_some (scanField?_of_digits s.minute.property.1 s.minute.property.2)).trans ?_
  refine (bind_of_some (scanMark?_of_mark ':')).trans ?_
  refine (bind_of_some (scanField?_of_digits s.second.property.1 s.second.property.2)).trans ?_
  refine (bind_of_some (scanFraction?_of_stamp s)).trans ?_
  show (do guard ((numbers s).isValid = true); return numbers s : Option DateTime) = _
  split
  · rename_i hvalid
    simp [hvalid]
  · rename_i hvalid
    simp [hvalid]

/-! ## Which stamps are times -/

theorem isValid_numbers {s : Stamp} (hsecond : number s.second.val ≤ 59) :
    (numbers s).isValid = true ↔ s.IsTime := by
  have hyear := Figures.number_lt s.year
  have hfirst : firstYear ≤ (number s.year.val : Int) := by
    rw [firstYear]
    omega
  have hlast : (number s.year.val : Int) ≤ lastYear := by
    rw [lastYear]
    omega
  have hsecond' : number s.second.val ≤ 60 := by omega
  simp only [isValid, Bool.and_eq_true, decide_eq_true_eq, Stamp.IsTime, Calendar.exists_iff, and_assoc]
  simp only [numbers, hfirst, hlast, hsecond', true_and, and_true]

/-! ## Writing -/

theorem digits_padded (width n : Nat) : Digits (padded width n) :=
  (Text.digits_zeros _).append (Text.digits_toDigits n)

theorem number_padded (width n : Nat) : number (padded width n) = n := by
  rw [padded, Text.number_append, Text.number_zeros, Text.number_toDigits, Nat.zero_mul, Nat.zero_add]

theorem length_padded {width n : Nat} (hwidth : 0 < width) (h : n < 10 ^ width) : (padded width n).length = width := by
  have hdigits : (Nat.toDigits 10 n).length ≤ width := (Nat.length_toDigits_le_iff (by decide) hwidth).2 h
  rw [padded, List.length_append, List.length_replicate]
  omega

/-- **A number is written with the digits that spell it**, where the width is theirs. -/
theorem padded_number (hne : ds ≠ []) (h : Digits ds) : padded ds.length (number ds) = ds := by
  have hlength := length_padded (List.length_pos_of_ne_nil hne) (Text.number_lt h)
  exact Text.number_inj (digits_padded _ _) h hlength (number_padded _ _)

theorem padded_figures {n : Nat} (hn : 0 < n) (f : Figures n) : padded n (number f.val) = f.val := by
  obtain ⟨cs, rfl, hdigits⟩ := f
  exact padded_number (List.ne_nil_of_length_pos hn) hdigits

theorem yearChars_figures (f : Figures 4) : yearChars (number f.val) = f.val := by
  have hyear := Figures.number_lt f
  rw [yearChars, if_pos (by omega)]
  exact padded_figures (by decide) f

/-- milliseconds are cut off nanoseconds, nothing is rounded -/
theorem nanoseconds_div {places : List Char} (h : Digits places) :
    nanoseconds places / 1000000 = number ((places ++ ['0', '0', '0']).take 3) := by
  have hthree : (ninePlaces places).take 3 = (places ++ ['0', '0', '0']).take 3 :=
    calc (ninePlaces places).take 3
        = (places ++ (['0', '0', '0'] ++ List.replicate 6 '0')).take 3 := by rw [ninePlaces, List.take_take]; rfl
      _ = (places ++ ['0', '0', '0'] ++ List.replicate 6 '0').take 3 := by rw [List.append_assoc]
      _ = (places ++ ['0', '0', '0']).take 3 := List.take_append_of_le_length (by simp)
  have hsix : ((ninePlaces places).drop 3).length = 6 := by rw [List.length_drop, length_ninePlaces]
  have hsplit : nanoseconds places =
      number ((places ++ ['0', '0', '0']).take 3) * 10 ^ 6 + number ((ninePlaces places).drop 3) := by
    rw [nanoseconds, ← hthree, ← hsix, ← Text.number_append, List.take_append_drop]
  have hsmall : number ((ninePlaces places).drop 3) < 10 ^ 6 := by
    rw [← hsix]
    apply Text.number_lt
    intro c hc
    exact digits_ninePlaces h c (List.mem_of_mem_drop hc)
  omega

theorem padded_nanoseconds (s : Stamp) : padded 3 (nanoseconds s.fraction.val / 1000000) = s.milliseconds := by
  have hlength : s.milliseconds.length = 3 := by simp [Stamp.milliseconds]
  have hdigits : Digits s.milliseconds := by
    intro c hc
    exact Digits.append s.fraction.property (Text.digits_zeros 3) c (List.mem_of_mem_take hc)
  rw [nanoseconds_div s.fraction.property]
  exact padded_figures (by decide) ⟨s.milliseconds, hlength, hdigits⟩

theorem chars_numbers (s : Stamp) : (numbers s).chars = s.shown.toList := by
  rw [Stamp.shown, String.toList_ofList, chars]
  simp only [numbers, yearChars_figures, padded_figures (by decide : 0 < 2), padded_nanoseconds, Stamp.written]
  simp

/-- what a stamp is read as, if its second is one -/
theorem ofChars?_of_second {s : Stamp} (hsecond : number s.second.val ≤ 59) :
    (s.IsTime → ofChars? s.text.toList = some (numbers s)) ∧ (¬ s.IsTime → ofChars? s.text.toList = none) := by
  rw [ofChars?_text, ← isValid_numbers hsecond]
  exact ⟨fun h => if_pos h, fun h => if_neg h⟩

end DateTime

/-! ## Main result -/

/-- **Times are shown with their own digits.** Of a stamp that is a time a column shows date and time with `T` between
them and with three places behind the second, which are those of the stamp or zeros; behind them a column of the kind
`timestamp` shows a `Z`. A stamp that is no time, since its day is not in the calendar or its hour or minute is too
large, is shown as it stands. -/
theorem temporal_columns (s : Stamp) (hsecond : number s.second.val ≤ 59) :
    (s.IsTime →
      ColumnKind.dateTime.value (Utf8.encode s.text) = .string s.shown ∧
      ColumnKind.timestamp.value (Utf8.encode s.text) = .string (s.shown ++ "Z")) ∧
    (¬ s.IsTime →
      ColumnKind.dateTime.value (Utf8.encode s.text) = .string s.text ∧
      ColumnKind.timestamp.value (Utf8.encode s.text) = .string s.text) := by
  obtain ⟨htime, hno⟩ := DateTime.ofChars?_of_second hsecond
  simp only [ColumnKind.value, ColumnKind.typed?, Utf8.decodeLossy_encode]
  constructor
  · intro h
    have hshown : String.ofList (s.shown.toList ++ ['Z']) = s.shown ++ "Z" := by
      rw [String.ofList_append, String.ofList_toList]
    rw [htime h, Option.map_some, Option.map_some, DateTime.chars_numbers, String.ofList_toList, hshown]
    exact ⟨rfl, rfl⟩
  · intro h
    rw [hno h]
    exact ⟨rfl, rfl⟩

/-- the end of a leap day, shortly before midnight -/
def leapDay : Stamp :=
  ⟨⟨['2', '0', '0', '0'], by decide⟩, ⟨['0', '2'], by decide⟩, ⟨['2', '9'], by decide⟩, ⟨['2', '3'], by decide⟩,
    ⟨['5', '9'], by decide⟩, ⟨['5', '9'], by decide⟩, ⟨['9', '9', '9', '6'], by decide⟩⟩

/-- the same day in a year that has none -/
def noLeapDay : Stamp := { leapDay with year := ⟨['1', '9', '0', '0'], by decide⟩, fraction := ⟨[], by decide⟩ }

theorem leapDay_shown :
    (number leapDay.second.val ≤ 59 ∧ leapDay.IsTime) ∧
      ColumnKind.timestamp.value (Utf8.encode "2000-02-29 23:59:59.9996") = .string "2000-02-29T23:59:59.999Z" ∧
      ¬ noLeapDay.IsTime ∧
      ColumnKind.dateTime.value (Utf8.encode "1900-02-29 23:59:59") = .string "1900-02-29 23:59:59" := by
  have hsecond : number leapDay.second.val ≤ 59 := by decide
  have htime : leapDay.IsTime := by decide
  have hno : ¬ noLeapDay.IsTime := by decide
  exact ⟨⟨hsecond, htime⟩, ((temporal_columns leapDay hsecond).1 htime).2, hno,
    ((temporal_columns noLeapDay hsecond).2 hno).1⟩

end SqlGateway
