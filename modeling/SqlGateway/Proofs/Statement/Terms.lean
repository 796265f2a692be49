/-
The text of a filter, read back. Behind the table stands a semicolon, or WHERE and terms: a key up to the `=` before the
next quote, a value up to the quote after that, then `" AND "` and the next term, or the semicolon at the end. Keys and
values may hold all of these but the quote, and may be empty; they are told apart by the quotes alone.

- `readTerms?_eq_some`: terms are read exactly as they are written.
- `filter_reads_back`: a filter's pairs come back out of its text, so no other pairs give that text.
-/
import SqlGateway.Proofs.Statement.Assignments

namespace SqlGateway

/-! ## The reader -/

namespace Term

/-- neither the key nor the value holds a double quote -/
def Unquoted (t : String × String) : Prop := '"' ∉ t.1.toList ∧ '"' ∉ t.2.toList

instance (t : String × String) : Decidable (Unquoted t) := inferInstanceAs (Decidable (_ ∧ _))

/-- how the term is written -/
def text (t : String × String) : String := Statement.equation t.1 t.2

/-- one term, and what stands behind it: a key and its value are written as a column and its value are -/
def read? (cs : List Char) : Option ((String × String) × List Char) :=
  (Assignment.read? cs).map fun r => ((r.1.column, r.1.value), r.2)

/-- a term is read where it is written, whatever is behind it -/
theorem read?_eq_some {cs rest : List Char} {t : String × String} :
    read? cs = some (t, rest) ↔ Unquoted t ∧ cs = (text t).toList ++ rest := by
  rw [read?, Option.map_eq_some_iff]
  constructor
  · rintro ⟨⟨a, rest⟩, hread, heq⟩
    cases heq
    exact Assignment.read?_eq_some.1 hread
  · intro h
    exact ⟨(⟨t.1, t.2⟩, rest), Assignment.read?_eq_some.2 h, rfl⟩

theorem read?_length {cs rest : List Char} {t : String × String} (h : read? cs = some (t, rest)) :
    rest.length < cs.length := by
  obtain ⟨⟨a, rest⟩, hread, heq⟩ := Option.map_eq_some_iff.1 h
  cases heq
  exact Assignment.read?_length hread

end Term

open Term (Unquoted)

/-- the terms of a list up to the semicolon at its end -/
def readTerms? (cs : List Char) : Option (List (String × String)) :=
  match _hread : Term.read? cs with
  | some (t, [';']) => some [t]
  | some (t, ' ' :: 'A' :: 'N' :: 'D' :: ' ' :: rest) => (readTerms? rest).map (t :: ·)
  | _ => none
termination_by cs.length
decreasing_by
  have hlength := Term.read?_length ‹_›
  simp only [List.length_cons] at hlength
  omega

/-- what stands behind WHERE -/
def termsText (ts : List (String × String)) : List Char := (Statement.termList ts ++ ";").toList

theorem termsText_singleton (t : String × String) : termsText [t] = (Term.text t).toList ++ [';'] := by
  simp [termsText, Statement.termList, Term.text]

theorem termsText_cons_cons (t u : String × String) (ts : List (String × String)) :
    termsText (t :: u :: ts) =
      (Term.text t).toList ++ ' ' :: 'A' :: 'N' :: 'D' :: ' ' :: termsText (u :: ts) := by
  have hsplit : Statement.termList (t :: u :: ts) = Term.text t ++ " AND " ++ Statement.termList (u :: ts) :=
    String.intercalate_cons_cons
  rw [termsText, hsplit]
  simp [termsText]

theorem readTerms?_of_end {cs : List Char} {t : String × String} (h : Term.read? cs = some (t, [';'])) :
    readTerms? cs = some [t] := by
  rw [readTerms?]
  split <;> simp_all

theorem readTerms?_of_and {cs rest : List Char} {t : String × String}
    (h : Term.read? cs = some (t, ' ' :: 'A' :: 'N' :: 'D' :: ' ' :: rest)) :
    readTerms? cs = (readTerms? rest).map (t :: ·) := by
  rw [readTerms?]
  split <;> simp_all

theorem readTerms?_termsText {ts : List (String × String)} (hne : ts ≠ []) (hquotes : ∀ t ∈ ts, Unquoted t) :
    readTerms? (termsText ts) = some ts := by
  induction ts with
  | nil => exact absurd rfl hne
  | cons t ts ih =>
    obtain ⟨hfirst, hrest⟩ := List.forall_mem_cons.1 hquotes
    rcases ts with _ | ⟨u, ts⟩
    · exact readTerms?_of_end (Term.read?_eq_some.2 ⟨hfirst, termsText_singleton t⟩)
    · have hread := Term.read?_eq_some.2 ⟨hfirst, termsText_cons_cons t u ts⟩
      rw [readTerms?_of_and hread, ih (List.cons_ne_nil u ts) hrest, Option.map_some]

/-- **Terms are read exactly as they were written.** -/
theorem readTerms?_eq_some {cs : List Char} {ts : List (String × String)} :
    readTerms? cs = some ts ↔ ts ≠ [] ∧ (∀ t ∈ ts, Unquoted t) ∧ cs = termsText ts := by
  constructor
  · intro h
    fun_induction readTerms? cs generalizing ts with
    | case1 cs t hread =>
      cases h
      obtain ⟨hquotes, rfl⟩ := Term.read?_eq_some.1 hread
      exact ⟨List.cons_ne_nil _ _, List.forall_mem_singleton.2 hquotes, (termsText_singleton t).symm⟩
    | case2 cs t rest hread ih =>
      obtain ⟨ts, hts, rfl⟩ := Option.map_eq_some_iff.1 h
      obtain ⟨hquotes, rfl⟩ := Term.read?_eq_some.1 hread
      obtain ⟨hne, hrest, rfl⟩ := ih hts
      refine ⟨List.cons_ne_nil _ _, List.forall_mem_cons.2 ⟨hquotes, hrest⟩, ?_⟩
      rcases ts with _ | ⟨u, ts⟩
      · exact absurd rfl hne
      · exact (termsText_cons_cons t u ts).symm
    | case3 => cases h
  · rintro ⟨hne, hquotes, rfl⟩
    exact readTerms?_termsText hne hquotes

/-! ## What stands behind the table -/

/-- the end of a filter's text tells its terms: a semicolon if there are none, or a list of them behind WHERE -/
inductive Tells : String → List (String × String) → Prop
  | nothing : Tells ";" []
  | terms {list : String} {ts : List (String × String)} :
    readTerms? list.toList = some ts → Tells (" WHERE " ++ list) ts

/-- the end of a filter's text -/
def filterTail : List (String × String) → String
  | [] => ";"
  | ts => " WHERE " ++ (Statement.termList ts ++ ";")

theorem filter_sql_eq (table : String) (ts : List (String × String)) :
    (Statement.filter table ts).sql = "SELECT * FROM " ++ table ++ filterTail ts := by
  rcases ts with _ | ⟨t, ts⟩
  · rfl
  · calc (Statement.filter table (t :: ts)).sql
        = "SELECT * FROM " ++ table ++ " WHERE " ++ Statement.termList (t :: ts) ++ ";" := rfl
      _ = "SELECT * FROM " ++ table ++ (" WHERE " ++ (Statement.termList (t :: ts) ++ ";")) := by
        simp only [String.append_assoc]

/-- what a text tells is what it was written with -/
theorem tells_iff {tail : String} {ts : List (String × String)} :
    Tells tail ts ↔ (∀ t ∈ ts, Unquoted t) ∧ tail = filterTail ts := by
  constructor
  · intro h
    cases h with
    | nothing => exact ⟨nofun, rfl⟩
    | @terms list _ hread =>
      obtain ⟨hne, hquotes, htext⟩ := readTerms?_eq_some.1 hread
      obtain rfl : list = Statement.termList ts ++ ";" := String.toList_inj.1 htext
      obtain ⟨t, ts, rfl⟩ := List.exists_cons_of_ne_nil hne
      exact ⟨hquotes, rfl⟩
  · rintro ⟨hquotes, rfl⟩
    rcases ts with _ | ⟨t, ts⟩
    · exact .nothing
    · exact .terms (readTerms?_termsText (List.cons_ne_nil t ts) hquotes)

/-- the semicolon alone is no list, and a list is read in one way -/
theorem filterTail_inj {ts us : List (String × String)} (hts : ∀ t ∈ ts, Unquoted t) (hus : ∀ u ∈ us, Unquoted u)
    (h : filterTail ts = filterTail us) : ts = us := by
  have hfirst : ∀ t ts, filterTail (t :: ts) ≠ filterTail [] := by
    intro t ts heq
    have hchar := congrArg (fun s => s.toList.head?) heq
    simp [filterTail] at hchar
  rcases ts with _ | ⟨t, ts⟩
  · rcases us with _ | ⟨u, us⟩
    · rfl
    · exact absurd h.symm (hfirst u us)
  · rcases us with _ | ⟨u, us⟩
    · exact absurd h (hfirst t ts)
    · have htext : termsText (t :: ts) = termsText (u :: us) := congrArg String.toList ((String.append_right_inj _).1 h)
      have hread := readTerms?_termsText (List.cons_ne_nil t ts) hts
      rw [htext, readTerms?_termsText (List.cons_ne_nil u us) hus] at hread
      exact (Option.some.inj hread).symm

/-! ## Main result -/

/-- **No term is lost, doubled or moved.** What follows the table in a filter's text tells the filter's terms, in their
order and with all repetitions, and tells of no others. So another filter of the same table has this text only if its
terms are the same. -/
theorem filter_reads_back (table : String) {ts : List (String × String)} (hquotes : ∀ t ∈ ts, Unquoted t) :
    ∃ tail : String,
      (Statement.filter table ts).sql = "SELECT * FROM " ++ table ++ tail ∧
      (tail = ";" ↔ ts = []) ∧
      (∀ us, Tells tail us ↔ us = ts) ∧
      ∀ us, (∀ u ∈ us, Unquoted u) → (Statement.filter table us).sql = (Statement.filter table ts).sql → us = ts := by
  refine ⟨filterTail ts, filter_sql_eq table ts, ?_, ?_, ?_⟩
  · constructor
    · intro hnothing
      exact filterTail_inj hquotes nofun hnothing
    · rintro rfl
      rfl
  · intro us
    rw [tells_iff]
    constructor
    · rintro ⟨hquotes', htail⟩
      exact filterTail_inj hquotes' hquotes htail.symm
    · rintro rfl
      exact ⟨hquotes, rfl⟩
  · intro us hquotes' hsame
    rw [filter_sql_eq, filter_sql_eq] at hsame
    exact filterTail_inj hquotes' hquotes ((String.append_right_inj _).1 hsame)

/-- what separates terms, in a key and in a value; a term that comes twice, and one with nothing in it -/
def separatingTerms : List (String × String) :=
  [("a= AND b", "x;"), ("", ""), ("a= AND b", "x;"), ("c=", " WHERE c=")]

theorem separatingTerms_read_back :
    (∀ t ∈ separatingTerms, Unquoted t) ∧
      (Statement.filter "t" separatingTerms).sql =
        "SELECT * FROM t WHERE a= AND b=\"x;\" AND =\"\" AND a= AND b=\"x;\" AND c==\" WHERE c=\";" ∧
      ∀ us, Tells " WHERE a= AND b=\"x;\" AND =\"\" AND a= AND b=\"x;\" AND c==\" WHERE c=\";" us ↔
        us = separatingTerms := by
  have hquotes : ∀ t ∈ separatingTerms, Unquoted t := by decide
  obtain ⟨tail, htext, -, hunique, -⟩ := filter_reads_back "t" hquotes
  have hsql : (Statement.filter "t" separatingTerms).sql = "SELECT * FROM " ++ "t" ++
      " WHERE a= AND b=\"x;\" AND =\"\" AND a= AND b=\"x;\" AND c==\" WHERE c=\";" := by rfl
  obtain rfl := (String.append_right_inj _).1 (hsql.symm.trans htext)
  exact ⟨hquotes, hsql, hunique⟩

end SqlGateway
