/-
What is written into a request target comes back, however it is escaped. `Percent.Spells` are the ways to write octets:
any of them as an escape, and as they are those that do not separate; in a query string a plus may stand for a space.
- `Form.decode_of_writes`: every list of pairs, whatever texts they are, is the one that its query string is read as.
- `addresses_of_spells`: every table but the empty one is the one that its name in a path is read as.

Both rest on `Percent.Spells.not_mem`: what spells octets holds none of the characters that separate.
-/
import SqlGateway.Proofs.Http.Plan

namespace SqlGateway.Http

/-! ## Cutting at an octet -/

theorem ne_of_not_mem {c : UInt8} {octets : List UInt8} (h : c ∉ octets) : ∀ b ∈ octets, (b != c) = true := by
  intro b hb
  rw [bne_iff_ne]
  rintro rfl
  exact h hb

theorem cut_of_not_mem {c : UInt8} {octets : List UInt8} (h : c ∉ octets) (rest : List UInt8) :
    (octets ++ c :: rest).takeWhile (· != c) = octets ∧ (octets ++ c :: rest).dropWhile (· != c) = c :: rest := by
  constructor
  · rw [List.takeWhile_append_of_pos (ne_of_not_mem h)]
    simp
  · rw [List.dropWhile_append_of_pos (ne_of_not_mem h)]
    simp

/-! ## Octets and their spellings -/

namespace Percent

/-- the written octets spell the others one by one: by an escape, its digits in either case, or by an octet that stands
for it -/
inductive Spells (stands : UInt8 → UInt8 → Prop) : List UInt8 → List UInt8 → Prop
  | nil : Spells stands [] []
  | plain {w b : UInt8} {written octets : List UInt8} :
    stands w b → Spells stands written octets → Spells stands (w :: written) (b :: octets)
  | escaped {d e : UInt8} {high low : Nat} {written octets : List UInt8} :
    Text.hexDigit? d = some high → Text.hexDigit? e = some low → Spells stands written octets →
      Spells stands (37 :: d :: e :: written) (UInt8.ofNat (high * 16 + low) :: octets)

/-- an octet stands for itself, unless it begins an escape -/
def Itself (w b : UInt8) : Prop := w = b ∧ w ≠ 37

namespace Spells

variable {stands : UInt8 → UInt8 → Prop} {written octets : List UInt8}

theorem imp {stands' : UInt8 → UInt8 → Prop} (h : Spells stands written octets)
    (himp : ∀ w b, stands w b → stands' w b) : Spells stands' written octets := by
  induction h with
  | nil => exact .nil
  | plain hstands _ ih => exact .plain (himp _ _ hstands) ih
  | escaped hd he _ ih => exact .escaped hd he ih

theorem append {written' octets' : List UInt8} (h : Spells stands written octets)
    (h' : Spells stands written' octets') : Spells stands (written ++ written') (octets ++ octets') := by
  induction h with
  | nil => exact h'
  | plain hstands _ ih => exact .plain hstands ih
  | escaped hd he _ ih => exact .escaped hd he ih

theorem decode_eq (h : Spells Itself written octets) : decode written = octets := by
  induction h with
  | nil => rfl
  | plain hstands _ ih =>
    obtain ⟨rfl, hne⟩ := hstands
    rw [decode_cons hne, ih]
  | escaped hd he _ ih =>
    rw [decode]
    simp only [hd, he, ih]

/-- what is no part of an escape and stands for nothing is not written -/
theorem not_mem (h : Spells stands written octets) {c : UInt8} (hpercent : c ≠ 37)
    (hdigit : Text.hexDigit? c = none) (hstands : ∀ b, ¬ stands c b) : c ∉ written := by
  have hother : ∀ {d : UInt8} {n : Nat}, Text.hexDigit? d = some n → c ≠ d := by
    rintro d n hd rfl
    exact absurd (hdigit.symm.trans hd) nofun
  induction h with
  | nil => exact List.not_mem_nil
  | @plain w b _ _ hw _ ih =>
    have hne : c ≠ w := fun heq => hstands b (heq ▸ hw)
    simp only [List.mem_cons, not_or]
    exact ⟨hne, ih⟩
  | escaped hd he _ ih =>
    simp only [List.mem_cons, not_or]
    exact ⟨hpercent, hother hd, hother he, ih⟩

theorem nil_of_nil (h : Spells stands [] octets) : octets = [] := by
  cases h
  rfl

end Spells

theorem hexDigit?_hexDigit : ∀ n, n < 16 → Text.hexDigit? (hexDigit n) = some n := by decide

theorem spells_escape (stands : UInt8 → UInt8 → Prop) (b : UInt8) : Spells stands (escape b) [b] := by
  have hb : b.toNat < 256 := b.toNat_lt
  have hsplit : UInt8.ofNat (b.toNat / 16 * 16 + b.toNat % 16) = b := by
    rw [Nat.div_add_mod', UInt8.ofNat_toNat]
  have hhigh := hexDigit?_hexDigit (b.toNat / 16) (by omega)
  have hlow := hexDigit?_hexDigit (b.toNat % 16) (by omega)
  have hspells : Spells stands (escape b) [UInt8.ofNat (b.toNat / 16 * 16 + b.toNat % 16)] := .escaped hhigh hlow .nil
  rwa [hsplit] at hspells

/-- octets spelled one by one -/
theorem spells_flatMap {stands : UInt8 → UInt8 → Prop} {spelling : UInt8 → List UInt8}
    (h : ∀ b, Spells stands (spelling b) [b]) (octets : List UInt8) :
    Spells stands (octets.flatMap spelling) octets := by
  induction octets with
  | nil => exact .nil
  | cons b octets ih => exact (h b).append ih

theorem spells_encode {stands : UInt8 → UInt8 → Prop} (h : ∀ b, isUnreserved b = true → stands b b)
    (octets : List UInt8) : Spells stands (encode octets) octets := by
  apply spells_flatMap
  intro b
  split
  · rename_i hfree
    exact .plain (h b hfree) .nil
  · exact spells_escape stands b

end Percent

/-! ## Query strings -/

namespace Form

open Percent (Spells Itself)

/-- in a query string a plus stands for a space, and what separates does not stand for itself -/
def Stands (w b : UInt8) : Prop := (w = 43 ∧ b = 32) ∨ (w = b ∧ w ∉ [35, 37, 38, 43, 61])

theorem stands_self {b : UInt8} (h : Percent.isUnreserved b = true ∨ b = 42) : Stands b b := by
  have hreserved : ∀ c ∈ [35, 37, 38, 43, 61], ¬ (Percent.isUnreserved c = true ∨ c = 42) := by decide +kernel
  exact .inr ⟨rfl, fun hmem => hreserved b hmem h⟩

/-- a key and a value with `=` between them -/
def WritesPair (piece : List UInt8) (p : String × String) : Prop :=
  ∃ key value, Spells Stands key (Utf8.encode p.1) ∧ Spells Stands value (Utf8.encode p.2) ∧ piece = key ++ 61 :: value

/-- the query string writes these pairs in their order, with `&` between them -/
def Writes (query : List UInt8) (pairs : List (String × String)) : Prop :=
  ∃ pieces, List.Forall₂ WritesPair pieces pairs ∧ query = [38].intercalate pieces

theorem split_eq_splitOn (separator : UInt8) (octets : List UInt8) :
    split separator octets = octets.splitOn separator := by
  induction octets with
  | nil => rfl
  | cons b rest ih =>
    simp only [split, ih, List.splitOn, List.splitOnP_cons_eq_if_modifyHead, beq_iff_eq]
    by_cases h : b = separator
    · rw [if_pos h, if_pos h]
    · rw [if_neg h, if_neg h]
      cases hpieces : rest.splitOnP (· == separator) with
      | nil => exact absurd hpieces (List.splitOnP_ne_nil _ _)
      | cons piece pieces => rfl

/-- where a plus is a space already, octets stand for themselves -/
theorem spells_spaced {written octets : List UInt8} (h : Spells Stands written octets) :
    Spells Itself (written.map fun b => if b = 43 then 32 else b) octets := by
  have hdigit : ∀ {d : UInt8} {n : Nat}, Text.hexDigit? d = some n → (if d = 43 then 32 else d) = d := by
    intro d n hd
    apply if_neg
    rintro rfl
    have hplus : Text.hexDigit? 43 = none := by decide
    exact absurd (hplus.symm.trans hd) nofun
  induction h with
  | nil => exact .nil
  | plain hstands _ ih =>
    rcases hstands with ⟨rfl, rfl⟩ | ⟨rfl, hfree⟩
    · exact .plain ⟨rfl, by decide⟩ ih
    · simp only [List.mem_cons, not_or] at hfree
      rw [List.map_cons, if_neg hfree.2.2.2.1]
      exact .plain ⟨rfl, hfree.2.1⟩ ih
  | escaped hd he _ ih =>
    rw [List.map_cons, List.map_cons, List.map_cons, hdigit hd, hdigit he]
    exact .escaped hd he ih

theorem decodeText_of_spells {written : List UInt8} {s : String} (h : Spells Stands written (Utf8.encode s)) :
    decodeText written = s := by
  rw [decodeText, (spells_spaced h).decode_eq, Utf8.decodeLossy_encode]

theorem not_mem_of_spells {written octets : List UInt8} (h : Spells Stands written octets) :
    35 ∉ written ∧ 38 ∉ written ∧ 61 ∉ written := by
  have hseparates : ∀ c ∈ [35, 38, 61], c ≠ 37 ∧ c ≠ 43 ∧ Text.hexDigit? c = none ∧ c ∈ [35, 37, 38, 43, 61] := by
    decide +kernel
  have hnot : ∀ c ∈ [35, 38, 61], c ∉ written := by
    intro c hc
    obtain ⟨hpercent, hplus, hdigit, hmem⟩ := hseparates c hc
    apply h.not_mem hpercent hdigit
    rintro b (⟨heq, -⟩ | ⟨-, hfree⟩)
    · exact hplus heq
    · exact hfree hmem
  exact ⟨hnot 35 (by decide), hnot 38 (by decide), hnot 61 (by decide)⟩

theorem WritesPair.decodePair {piece : List UInt8} {p : String × String} (h : WritesPair piece p) :
    decodePair piece = p := by
  obtain ⟨key, value, hkey, hvalue, rfl⟩ := h
  obtain ⟨htake, hdrop⟩ := cut_of_not_mem (not_mem_of_spells hkey).2.2 value
  rw [Form.decodePair, htake, hdrop, List.drop_one, List.tail_cons, decodeText_of_spells hkey,
    decodeText_of_spells hvalue]

theorem WritesPair.not_mem {piece : List UInt8} {p : String × String} (h : WritesPair piece p) :
    35 ∉ piece ∧ 38 ∉ piece := by
  obtain ⟨key, value, hkey, hvalue, rfl⟩ := h
  obtain ⟨hkeyHash, hkeyAnd, -⟩ := not_mem_of_spells hkey
  obtain ⟨hvalueHash, hvalueAnd, -⟩ := not_mem_of_spells hvalue
  simp [hkeyHash, hkeyAnd, hvalueHash, hvalueAnd]

theorem WritesPair.ne_nil {piece : List UInt8} {p : String × String} (h : WritesPair piece p) : piece ≠ [] := by
  obtain ⟨key, value, -, -, rfl⟩ := h
  simp

/-- **A query string gives back its pairs**, with their order, empty texts and repeated keys. -/
theorem decode_of_writes {query : List UInt8} {pairs : List (String × String)} (h : Writes query pairs) :
    decode query = pairs := by
  obtain ⟨pieces, hall, rfl⟩ := h
  have hread : List.Forall₂ (fun piece p => decodePair piece = p) pieces pairs := hall.imp fun _ _ h => h.decodePair
  have hpiece : ∀ piece ∈ pieces, (38 : UInt8) ∉ piece ∧ piece ≠ [] := by
    intro piece hmem
    obtain ⟨p, hp⟩ := exists_of_forall₂_left hall hmem
    exact ⟨hp.not_mem.2, hp.ne_nil⟩
  cases hpieces : pieces with
  | nil =>
    subst hpieces
    rw [List.forall₂_nil_left_iff.1 hall]
    rfl
  | cons =>
    rw [← hpieces, decode, split_eq_splitOn, List.splitOn_intercalate]
    · rw [List.filter_eq_self.2 fun piece hmem => by simpa using (hpiece piece hmem).2]
      exact List.forall₂_eq_eq_eq ▸ (List.forall₂_map_left_iff.2 hread)
    · exact fun piece hmem => (hpiece piece hmem).1
    · rw [hpieces]
      exact List.cons_ne_nil _ _

theorem Writes.hash_not_mem {query : List UInt8} {pairs : List (String × String)} (h : Writes query pairs) :
    35 ∉ query := by
  obtain ⟨pieces, hall, rfl⟩ := h
  induction hall with
  | nil => exact List.not_mem_nil
  | @cons piece p pieces pairs hpiece hrest ih =>
    cases pieces with
    | nil => simpa using hpiece.not_mem.1
    | cons next pieces =>
      rw [List.intercalate_cons_cons]
      simp only [List.mem_append, List.mem_singleton, not_or]
      exact ⟨⟨hpiece.not_mem.1, by decide⟩, ih⟩

/-- pairs whose texts are spelled one by one -/
theorem writes_of_spells {spelling : String → List UInt8} (h : ∀ s, Spells Stands (spelling s) (Utf8.encode s))
    (pairs : List (String × String)) :
    Writes ([38].intercalate (pairs.map fun p => spelling p.1 ++ 61 :: spelling p.2)) pairs := by
  refine ⟨_, ?_, rfl⟩
  rw [List.forall₂_map_left_iff, List.forall₂_same]
  intro p _
  exact ⟨_, _, h p.1, h p.2, rfl⟩

theorem writes_encode (pairs : List (String × String)) : Writes (encode pairs) pairs := by
  apply writes_of_spells
  intro s
  exact Percent.spells_encode (fun b hb => stands_self (.inl hb)) (Utf8.encode s)

theorem decode_encode (pairs : List (String × String)) : decode (encode pairs) = pairs :=
  decode_of_writes (writes_encode pairs)

end Form

/-! ## Paths -/

namespace Target

/-- in a path, what ends a segment, the path or the target does not stand for itself -/
def Stands (w b : UInt8) : Prop := w = b ∧ w ∉ [35, 37, 47, 63]

/-- the path of a table -/
def tablePath (table : String) : List UInt8 := 47 :: Percent.encode (Utf8.encode table)

theorem not_mem_of_spells {written octets : List UInt8} (h : Percent.Spells Stands written octets) :
    35 ∉ written ∧ 47 ∉ written ∧ 63 ∉ written := by
  have hseparates : ∀ c ∈ [35, 47, 63], c ≠ 37 ∧ Text.hexDigit? c = none ∧ c ∈ [35, 37, 47, 63] := by
    decide +kernel
  have hnot : ∀ c ∈ [35, 47, 63], c ∉ written := by
    intro c hc
    obtain ⟨hpercent, hdigit, hmem⟩ := hseparates c hc
    apply h.not_mem hpercent hdigit
    rintro b ⟨-, hfree⟩
    exact hfree hmem
  exact ⟨hnot 35 (by decide), hnot 47 (by decide), hnot 63 (by decide)⟩

theorem spells_encode (table : String) :
    Percent.Spells Stands (Percent.encode (Utf8.encode table)) (Utf8.encode table) := by
  have hreserved : ∀ b ∈ [35, 37, 47, 63], Percent.isUnreserved b = false := by decide +kernel
  apply Percent.spells_encode
  intro b hb
  refine ⟨rfl, fun hmem => ?_⟩
  exact absurd (hb.symm.trans (hreserved b hmem)) nofun

end Target

/-- **A path gives back its table.** -/
theorem addresses_of_spells {r : Request} {table : String} {segment : List UInt8}
    (hpath : r.target.path = 47 :: segment) (hspells : Percent.Spells Target.Stands segment (Utf8.encode table))
    (hne : table ≠ "") : r.Addresses table := by
  have hdecode : Percent.decode segment = Utf8.encode table := by
    apply Percent.Spells.decode_eq
    exact hspells.imp fun w b ⟨heq, hfree⟩ => ⟨heq, fun h => hfree (by simp [h])⟩
  refine ⟨segment, ⟨hpath, ?_, (Target.not_mem_of_spells hspells).2.1⟩, ?_⟩
  · rintro rfl
    have hempty := Utf8.decode?_encode table
    rw [hspells.nil_of_nil] at hempty
    exact hne (Option.some.inj hempty).symm
  · rw [hdecode, Utf8.decode?_encode]

theorem addresses_encode {r : Request} {table : String} (hpath : r.target.path = Target.tablePath table)
    (hne : table ≠ "") : r.Addresses table :=
  addresses_of_spells hpath (Target.spells_encode table) hne

end SqlGateway.Http
