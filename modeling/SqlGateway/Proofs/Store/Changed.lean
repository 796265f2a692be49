/-
The count of changed rows in the text that a write reports. `Tells` says which count a text tells: the digits behind the
first `changed:` and any white space, if there are some and 64 bits hold their number, and zero in every other case.

- `afterFirst?_eq_some`: the search stops at the first place where a pattern stands, however much of it stood before.
- `mark_between_characters`: among the octets of a text, too, the mark stands only where its characters do, so the text
  can be cut behind it.
- `changed_rows_exact`: the count that is read is the one that the text tells.
-/
import Mathlib.Data.List.TakeWhile
import SqlGateway.Proofs.Text.Blank
import SqlGateway.Proofs.Text.Decimal
import SqlGateway.Proofs.Text.Utf8
import SqlGateway.Store.Changed

namespace SqlGateway.Changed

open Text (Blank Digits number)

/-! ## The first place of a pattern -/

theorem afterFirst?_eq_none {pattern cs : List Char} (hne : pattern ≠ []) (h : afterFirst? pattern cs = none)
    (before after : List Char) : cs ≠ before ++ pattern ++ after := by
  intro hcs
  induction cs generalizing before with
  | nil =>
    have hnil := (List.append_eq_nil_iff.1 hcs.symm).1
    exact hne (List.append_eq_nil_iff.1 hnil).2
  | cons c cs ih =>
    rw [afterFirst?] at h
    split at h
    · cases h
    · rename_i hprefix
      cases before with
      | nil =>
        apply hprefix
        rw [List.isPrefixOf_iff_prefix, hcs, List.nil_append]
        exact List.prefix_append pattern after
      | cons b before => exact ih h before (List.cons.inj hcs).2

/-- **The search finds the first place.** -/
theorem afterFirst?_eq_some {pattern cs after : List Char} (hne : pattern ≠ []) :
    afterFirst? pattern cs = some after ↔
      ∃ before, cs = before ++ pattern ++ after ∧
        ∀ before' after', cs = before' ++ pattern ++ after' → before.length ≤ before'.length := by
  have hfound : ∀ {cs after}, afterFirst? pattern cs = some after →
      ∃ before, cs = before ++ pattern ++ after ∧
        ∀ before' after', cs = before' ++ pattern ++ after' → before.length ≤ before'.length := by
    intro cs
    induction cs with
    | nil => exact nofun
    | cons c cs ih =>
      intro after h
      rw [afterFirst?] at h
      split at h
      · rename_i hprefix
        obtain ⟨rest, hrest⟩ := List.isPrefixOf_iff_prefix.1 hprefix
        rw [← hrest, List.drop_left] at h
        exact ⟨[], by rw [← hrest, Option.some.inj h]; rfl, fun _ _ _ => Nat.zero_le _⟩
      · rename_i hprefix
        obtain ⟨before, hcs, hfirst⟩ := ih h
        refine ⟨c :: before, by rw [hcs]; rfl, fun before' after' heq => ?_⟩
        cases before' with
        | nil =>
          refine absurd ?_ hprefix
          rw [List.isPrefixOf_iff_prefix, heq, List.nil_append]
          exact List.prefix_append pattern after'
        | cons b before' => exact Nat.succ_le_succ (hfirst before' after' (List.cons.inj heq).2)
  refine ⟨hfound, fun ⟨before, hcs, hfirst⟩ => ?_⟩
  cases hsearch : afterFirst? pattern cs with
  | none => exact absurd hcs (afterFirst?_eq_none hne hsearch before after)
  | some found =>
    obtain ⟨before', hcs', hfirst'⟩ := hfound hsearch
    have hlength : before.length = before'.length := Nat.le_antisymm (hfirst _ _ hcs') (hfirst' _ _ hcs)
    have hsame := List.append_inj (hcs.symm.trans hcs') (by simp [hlength])
    rw [hsame.2]

/-! ## Letters of either case -/

theorem toNat_toLower (c : Char) :
    c.toLower.toNat = if 65 ≤ c.toNat ∧ c.toNat ≤ 90 then c.toNat + 32 else c.toNat := by
  have hcapital : (c.val ≥ 'A'.val ∧ c.val ≤ 'Z'.val) ↔ 65 ≤ c.toNat ∧ c.toNat ≤ 90 := by
    simp only [ge_iff_le, UInt32.le_iff_toNat_le]
    rfl
  unfold Char.toLower
  by_cases h : c.val ≥ 'A'.val ∧ c.val ≤ 'Z'.val
  · have hrange := hcapital.1 h
    rw [dif_pos h, if_pos hrange]
    change (c.val + ('a'.val - 'A'.val)).toNat = c.val.toNat + 32
    have hval : c.val.toNat = c.toNat := rfl
    rw [UInt32.toNat_add]
    simp only [Char.reduceVal, UInt32.reduceSub, UInt32.reduceToNat]
    omega
  · rw [dif_neg h, if_neg (mt hcapital.2 h)]

theorem isBlank_toLower (c : Char) : Text.isBlank c.toLower = Text.isBlank c := by
  unfold Text.isBlank
  rw [toNat_toLower]
  split
  · rename_i hcapital
    rw [Bool.eq_iff_iff]
    simp only [Bool.or_eq_true, Bool.and_eq_true, decide_eq_true_eq, beq_iff_eq]
    omega
  · rfl

theorem isDigit_toLower (c : Char) : c.toLower.isDigit = c.isDigit := by
  rw [Bool.eq_iff_iff, Char.isDigit_iff_toNat, Char.isDigit_iff_toNat, toNat_toLower]
  simp only [Char.reduceToNat]
  split <;> omega

theorem toLower_of_isDigit {c : Char} (h : c.isDigit = true) : c.toLower = c := by
  have hrange := Text.digit_range h
  rw [← Char.toNat_inj, toNat_toLower, if_neg (by omega)]

theorem trimStart_lowered (cs : List Char) : Text.trimStart (cs.map Char.toLower) = (Text.trimStart cs).map Char.toLower := by
  unfold Text.trimStart
  rw [List.dropWhile_map]
  congr 2
  exact funext isBlank_toLower

/-- capital letters do not count -/
theorem leadingCount_lowered (cs : List Char) : leadingCount (cs.map Char.toLower) = leadingCount cs := by
  have hdigits : (cs.map Char.toLower).takeWhile Char.isDigit = cs.takeWhile Char.isDigit := by
    have hsame : Char.isDigit ∘ Char.toLower = Char.isDigit := funext isDigit_toLower
    rw [List.takeWhile_map, hsame]
    exact (List.map_congr_left fun c hc => toLower_of_isDigit (List.mem_takeWhile_imp hc)).trans (List.map_id' _)
  unfold leadingCount
  rw [hdigits]

/-! ## What a text tells -/

/-- the letters before the count, each capital or small -/
def IsMark (cs : List Char) : Prop := cs.map Char.toLower = "changed:".toList

/-- there is no count to be read -/
def Unmarked (info : List Char) : Prop := ∀ before mark after, info = before ++ mark ++ after → ¬ IsMark mark

/-- a text taken apart: what stands before the first mark, the mark, white space and digits as far as either goes, and
the rest -/
structure Parts (info before mark blanks digits rest : List Char) : Prop where
  text : info = before ++ mark ++ (blanks ++ (digits ++ rest))
  mark : IsMark mark
  first : ∀ before' mark' after, info = before' ++ mark' ++ after → IsMark mark' → before.length ≤ before'.length
  blanks : Blank blanks
  blanks_end : ∀ c ∈ (digits ++ rest).head?, Text.isBlank c = false
  digits : Digits digits
  digits_end : ∀ c ∈ rest.head?, c.isDigit = false

/-- the count that a text tells -/
inductive Tells (info : String) : Nat → Prop
  | unmarked : Unmarked info.toList → Tells info 0
  | count {before mark blanks digits rest : List Char} :
    Parts info.toList before mark blanks digits rest → digits ≠ [] → number digits < 2 ^ 64 →
      Tells info (number digits)
  | noDigit {before mark blanks rest : List Char} :
    Parts info.toList before mark blanks [] rest → Tells info 0
  | tooLarge {before mark blanks digits rest : List Char} :
    Parts info.toList before mark blanks digits rest → 2 ^ 64 ≤ number digits → Tells info 0

theorem mark_ne_nil : "changed:".toList ≠ [] := by decide

theorem unmarked_iff {info : String} : Unmarked info.toList ↔ afterFirst? "changed:".toList (Text.lowered info) = none := by
  constructor
  · intro h
    cases hsearch : afterFirst? "changed:".toList (Text.lowered info) with
    | none => rfl
    | some rest =>
      obtain ⟨before, hsplit, -⟩ := (afterFirst?_eq_some mark_ne_nil).1 hsearch
      obtain ⟨start, after, hinfo, hstart, -⟩ := List.map_eq_append_iff.1 hsplit
      obtain ⟨before', mark, rfl, -, hmark⟩ := List.map_eq_append_iff.1 hstart
      exact absurd hmark (h before' mark after hinfo)
  · intro h before mark after hinfo hmark
    refine afterFirst?_eq_none mark_ne_nil h (before.map Char.toLower) (after.map Char.toLower) ?_
    rw [Text.lowered, hinfo, List.map_append, List.map_append, hmark]

/-- the count is what stands behind the first mark -/
theorem rows_of_first {info : String} {before mark after : List Char} (hinfo : info.toList = before ++ mark ++ after)
    (hmark : IsMark mark) (hfirst : ∀ before' mark' after', info.toList = before' ++ mark' ++ after' → IsMark mark' →
      before.length ≤ before'.length) : rows info = leadingCount (Text.trimStart after) := by
  have hsearch : afterFirst? "changed:".toList (Text.lowered info) = some (after.map Char.toLower) := by
    refine (afterFirst?_eq_some mark_ne_nil).2 ⟨before.map Char.toLower, ?_, fun before' after' hsplit => ?_⟩
    · rw [Text.lowered, hinfo, List.map_append, List.map_append, hmark]
    · obtain ⟨start, rest, hinfo', hstart, -⟩ := List.map_eq_append_iff.1 hsplit
      obtain ⟨earlier, mark', rfl, rfl, hmark'⟩ := List.map_eq_append_iff.1 hstart
      simpa using hfirst earlier mark' rest hinfo' hmark'
  rw [rows, hsearch]
  simp only
  rw [trimStart_lowered, leadingCount_lowered]

theorem takeWhile_digits {digits rest : List Char} (h : Digits digits) (hend : ∀ c ∈ rest.head?, c.isDigit = false) :
    (digits ++ rest).takeWhile Char.isDigit = digits := by
  rw [List.takeWhile_append_of_pos h]
  cases rest with
  | nil => rw [List.takeWhile_nil, List.append_nil]
  | cons c rest => rw [List.takeWhile_cons_of_neg (by simp [hend c rfl]), List.append_nil]

theorem Parts.rows_eq {info : String} {before mark blanks digits rest : List Char}
    (h : Parts info.toList before mark blanks digits rest) :
    (rows info).toNat = if digits ≠ [] ∧ number digits < 2 ^ 64 then number digits else 0 := by
  rw [rows_of_first h.text h.mark h.first, Text.trimStart_blanks h.blanks h.blanks_end, leadingCount,
    takeWhile_digits h.digits h.digits_end]
  have hsize : UInt64.size = 2 ^ 64 := rfl
  by_cases hempty : digits = []
  · subst hempty
    rfl
  · rw [Text.digits?_eq_some.2 ⟨hempty, h.digits, rfl⟩]
    simp only [hsize, ne_eq, hempty, not_false_eq_true, true_and]
    split
    · rename_i hfits
      rw [UInt64.toNat_ofNat_of_lt' hfits]
    · rfl

theorem Tells.rows_eq {info : String} {n : Nat} (h : Tells info n) : (rows info).toNat = n := by
  cases h with
  | unmarked hnone =>
    rw [rows, unmarked_iff.1 hnone]
    rfl
  | count hparts hne hfits => rw [hparts.rows_eq, if_pos ⟨hne, hfits⟩]
  | noDigit hparts => rw [hparts.rows_eq, if_neg (by simp)]
  | tooLarge hparts hlarge => rw [hparts.rows_eq, if_neg (by omega)]

/-- every text can be taken apart if it has a mark -/
theorem exists_parts {info : String} (h : ¬ Unmarked info.toList) :
    ∃ before mark blanks digits rest, Parts info.toList before mark blanks digits rest := by
  obtain ⟨lowered, hsearch⟩ := Option.ne_none_iff_exists'.1 (mt unmarked_iff.2 h)
  obtain ⟨before, hsplit, hfirst⟩ := (afterFirst?_eq_some mark_ne_nil).1 hsearch
  obtain ⟨start, after, hinfo, hstart, -⟩ := List.map_eq_append_iff.1 hsplit
  obtain ⟨before', mark, rfl, rfl, hmark⟩ := List.map_eq_append_iff.1 hstart
  have hdrop : ∀ (p : Char → Bool) (cs : List Char), ∀ c ∈ (cs.dropWhile p).head?, p c = false := by
    intro p cs c hc
    have hhead := List.head?_dropWhile_not p cs
    rw [Option.mem_def.1 hc] at hhead
    exact hhead
  have hdigits : (after.dropWhile Text.isBlank).takeWhile Char.isDigit ++
      (after.dropWhile Text.isBlank).dropWhile Char.isDigit = after.dropWhile Text.isBlank :=
    List.takeWhile_append_dropWhile
  refine ⟨before', mark, after.takeWhile Text.isBlank, (after.dropWhile Text.isBlank).takeWhile Char.isDigit,
    (after.dropWhile Text.isBlank).dropWhile Char.isDigit, ?_, hmark, ?_, fun c => List.mem_takeWhile_imp, ?_,
    fun c => List.mem_takeWhile_imp, hdrop _ _⟩
  · rw [hdigits, List.takeWhile_append_dropWhile, hinfo]
  · intro earlier mark' rest hinfo' hmark'
    have hlength := hfirst (earlier.map Char.toLower) (rest.map Char.toLower) (by
      rw [Text.lowered, hinfo', List.map_append, List.map_append, hmark'])
    simpa using hlength
  · rw [hdigits]
    exact hdrop _ _

theorem tells_rows (info : String) : Tells info (rows info).toNat := by
  by_cases hmark : Unmarked info.toList
  · have htells := Tells.unmarked hmark
    rwa [htells.rows_eq]
  · obtain ⟨before, mark, blanks, digits, rest, hparts⟩ := exists_parts hmark
    have htells : ∃ n, Tells info n := by
      by_cases hempty : digits = []
      · subst hempty
        exact ⟨_, .noDigit hparts⟩
      · by_cases hfits : number digits < 2 ^ 64
        · exact ⟨_, .count hparts hempty hfits⟩
        · exact ⟨_, .tooLarge hparts (Nat.le_of_not_lt hfits)⟩
    obtain ⟨n, hn⟩ := htells
    rwa [hn.rows_eq]

/-! ## A count that was written -/

/-- no mark begins within a mark -/
theorem mark_overlap {cs ds : List Char} {d : Char} (h : IsMark (cs ++ d :: ds)) (hd : d.toLower = 'c') : cs = [] := by
  cases cs with
  | nil => rfl
  | cons c cs =>
    have hletters : (cs ++ d :: ds).map Char.toLower = "hanged:".toList := (List.cons.inj h).2
    have hmem : 'c' ∈ "hanged:".toList := by
      rw [← hletters, ← hd]
      exact List.mem_map_of_mem (List.mem_append_right _ List.mem_cons_self)
    exact absurd hmem (by decide)

/-- behind a text without a mark, a mark is the first one -/
theorem first_of_unmarked {before mark after : List Char} (hbefore : Unmarked before) (hmark : IsMark mark)
    (before' mark' after' : List Char) (h : before ++ mark ++ after = before' ++ mark' ++ after')
    (hmark' : IsMark mark') : before.length ≤ before'.length := by
  obtain ⟨d, ds, rfl, hd, -⟩ := List.map_eq_cons_iff.1 (hmark : mark.map Char.toLower = 'c' :: "hanged:".toList)
  rw [List.append_assoc, List.append_assoc, List.append_eq_append_iff] at h
  rcases h with ⟨between, rfl, -⟩ | ⟨between, rfl, hrest⟩
  · simp
  · rcases List.append_eq_append_iff.1 hrest with ⟨more, rfl, -⟩ | ⟨more, rfl, hover⟩
    · exact absurd hmark' (hbefore before' mark' more (List.append_assoc _ _ _).symm)
    · -- the other mark begins in front of this one and reaches into it
      cases more with
      | nil =>
        rw [List.append_nil] at hmark'
        exact absurd hmark' (hbefore before' between [] (List.append_nil _).symm)
      | cons m more =>
        obtain rfl := (List.cons.inj hover).1
        rw [mark_overlap hmark' hd, List.append_nil]

theorem parts_of_written {p w r : List Char} (n : Nat) (hp : Unmarked p) (hw : Blank w)
    (hr : ∀ c ∈ r.head?, c.isDigit = false) :
    Parts (p ++ "Changed:".toList ++ (w ++ (Nat.toDigits 10 n ++ r))) p "Changed:".toList w (Nat.toDigits 10 n) r := by
  have hmark : IsMark "Changed:".toList := by rfl
  have hdigits := Text.digits_toDigits n
  refine ⟨rfl, hmark, first_of_unmarked hp hmark, hw, ?_, hdigits, hr⟩
  intro c hc
  rw [List.head?_append_of_ne_nil _ Nat.toDigits_ne_nil] at hc
  exact Text.isBlank_of_isDigit (hdigits c (List.mem_of_mem_head? hc))

theorem rows_of_written {p w r : String} {n : Nat} (hn : n < 2 ^ 64) (hp : Unmarked p.toList)
    (hw : Blank w.toList) (hr : ∀ c ∈ r.toList.head?, c.isDigit = false) :
    (rows (p ++ "Changed:" ++ w ++ toString n ++ r)).toNat = n := by
  have hparts := parts_of_written n hp hw hr
  have htext : (p ++ "Changed:" ++ w ++ toString n ++ r).toList =
      p.toList ++ "Changed:".toList ++ (w.toList ++ (Nat.toDigits 10 n ++ r.toList)) := by
    simp only [String.toList_append, List.append_assoc, Nat.toString_eq_repr, Nat.toList_repr]
  rw [← htext] at hparts
  rw [hparts.rows_eq, Text.number_toDigits, if_pos ⟨Nat.toDigits_ne_nil, hn⟩]

/-! ## Octets -/

/-- the octets of a text can be cut here: both parts are texts -/
def Cuts (text : String) (before after : List UInt8) : Prop :=
  ∃ s t : String, text = s ++ t ∧ before = Utf8.encode s ∧ after = Utf8.encode t

/-- behind the mark, a text can be cut, whatever characters it has -/
theorem cuts_behind_mark {text : String} {before after : List UInt8}
    (h : Utf8.encode text = before ++ Utf8.encode "changed:" ++ after) :
    Cuts text (before ++ Utf8.encode "changed:") after := by
  have hascii : ∀ c ∈ "changed:".toList, c.toNat < 128 := by simp
  obtain ⟨start, rest, htext, rfl, rfl⟩ := Utf8.ascii_stands_between mark_ne_nil hascii h
  refine ⟨String.ofList start ++ "changed:", String.ofList rest, ?_, ?_, ?_⟩
  · rw [← String.toList_inj, htext]
    simp
  · simp [Utf8.encode]
  · simp [Utf8.encode]

/-! ## Main result -/

/-- **The count is read exactly.** Of every text, the count that is read is the one that it tells: the number behind the
first mark and any white space, as long as 64 bits hold it, and otherwise zero. The octets of the text, its letters made
small, can be cut behind every place where the mark stands among them. So a count comes back as it was written, behind
any text without a mark and before any text that does not go on with a digit. -/
theorem changed_rows_exact :
    (∀ info n, Tells info n ↔ (rows info).toNat = n) ∧
    (∀ info before after,
      Utf8.encode (String.ofList (Text.lowered info)) = before ++ Utf8.encode "changed:" ++ after →
        Cuts (String.ofList (Text.lowered info)) (before ++ Utf8.encode "changed:") after) ∧
    ∀ (n : Nat) (p w r : String), n < 2 ^ 64 → Unmarked p.toList → Blank w.toList →
      (∀ c ∈ r.toList.head?, c.isDigit = false) → (rows (p ++ "Changed:" ++ w ++ toString n ++ r)).toNat = n := by
  refine ⟨?_, ?_, ?_⟩
  · intro info n
    constructor
    · exact Tells.rows_eq
    · rintro rfl
      exact tells_rows info
  · intro info before after
    exact cuts_behind_mark
  · intro n p w r
    exact rows_of_written

/-- the largest count, behind a mark that is broken off and a no-break space -/
theorem changed_rows_exact_at_bound :
    (2 ^ 64 - 1 < 2 ^ 64 ∧ Unmarked "é Changed".toList ∧ Blank "\u00a0 ".toList ∧
      ∀ c ∈ " Warnings: 0".toList.head?, c.isDigit = false) ∧
    (rows ("é Changed" ++ "Changed:" ++ "\u00a0 " ++ toString (2 ^ 64 - 1) ++ " Warnings: 0")).toNat = 2 ^ 64 - 1 := by
  have hbound : 2 ^ 64 - 1 < 2 ^ 64 := by decide
  have hprefix : Unmarked "é Changed".toList := unmarked_iff.2 (by decide)
  have hblanks : Blank "\u00a0 ".toList := by simp [Blank, Text.isBlank]
  have hrest : ∀ c ∈ " Warnings: 0".toList.head?, c.isDigit = false := by simp
  exact ⟨⟨hbound, hprefix, hblanks, hrest⟩, changed_rows_exact.2.2 _ _ _ _ hbound hprefix hblanks hrest⟩

end SqlGateway.Changed
