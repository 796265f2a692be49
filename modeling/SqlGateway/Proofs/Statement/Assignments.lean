/-
The list after SET, read back. A column is what stands before the next quote, up to its final `=`; a value is what
stands before the quote after that; then the list ends or a comma follows. `readSetList?_setList`: a list of assignments
that hold no double quote is read out of its own text. Columns and values may hold anything else, `=`, commas and blanks
too: nothing but quotes is searched for.

`set_list_reads_back`: what an insert and an update set is what the body says, entry by entry.
-/
import SqlGateway.Proofs.Statement.Conditions

namespace SqlGateway

/-! ## The reader -/

namespace Assignment

/-- what stands before the next quote, and what stands behind it -/
def upToQuote? : List Char → Option (List Char × List Char)
  | [] => none
  | '"' :: rest => some ([], rest)
  | c :: rest => (upToQuote? rest).map fun p => (c :: p.1, p.2)

/-- a text without its final equals sign -/
def beforeEquals? (cs : List Char) : Option (List Char) :=
  if cs.getLast? = some '=' then some cs.dropLast else none

/-- one assignment, and what stands behind it -/
def read? (cs : List Char) : Option (Assignment × List Char) := do
  let (name, rest) ← upToQuote? cs
  let column ← beforeEquals? name
  let (value, rest) ← upToQuote? rest
  return (⟨.ofList column, .ofList value⟩, rest)

/-- neither the column nor the value holds a double quote -/
def Unquoted (a : Assignment) : Prop := '"' ∉ a.column.toList ∧ '"' ∉ a.value.toList

instance (a : Assignment) : Decidable a.Unquoted := by unfold Unquoted; infer_instance

/-- how the assignment is written -/
def text (a : Assignment) : String := Statement.equation a.column a.value

theorem text_toList (a : Assignment) (rest : List Char) :
    a.text.toList ++ rest = (a.column.toList ++ ['=']) ++ '"' :: (a.value.toList ++ '"' :: rest) := by
  simp [text, Statement.equation]

theorem upToQuote?_eq_some {cs before rest : List Char} :
    upToQuote? cs = some (before, rest) ↔ '"' ∉ before ∧ cs = before ++ '"' :: rest := by
  fun_induction upToQuote? cs generalizing before with
  | case1 => simp
  | case2 tail =>
    rw [Option.some.injEq, Prod.mk.injEq]
    constructor
    · rintro ⟨rfl, rfl⟩
      exact ⟨List.not_mem_nil, rfl⟩
    · rintro ⟨hbefore, heq⟩
      cases before with
      | nil => exact ⟨rfl, (List.cons.inj heq).2⟩
      | cons c before => exact absurd ((List.cons.inj heq).1 ▸ List.mem_cons_self) hbefore
  | case3 c tail hc ih =>
    rw [Option.map_eq_some_iff]
    constructor
    · rintro ⟨⟨before, rest⟩, hread, heq⟩
      cases heq
      obtain ⟨hbefore, rfl⟩ := ih.1 hread
      exact ⟨by simp [hbefore, Ne.symm hc], rfl⟩
    · rintro ⟨hbefore, heq⟩
      cases before with
      | nil => exact absurd (List.cons.inj heq).1 hc
      | cons d before =>
        obtain ⟨rfl, htail⟩ := List.cons.inj heq
        exact ⟨_, ih.2 ⟨fun h => hbefore (List.mem_cons_of_mem _ h), htail⟩, rfl⟩

theorem beforeEquals?_eq_some {cs column : List Char} : beforeEquals? cs = some column ↔ cs = column ++ ['='] := by
  unfold beforeEquals?
  constructor
  · intro h
    split at h
    · rename_i hlast
      cases h
      exact (List.dropLast_append_getLast? _ hlast).symm
    · cases h
  · rintro rfl
    simp

/-- an assignment is read where it is written, whatever is behind it -/
theorem read?_eq_some {cs rest : List Char} {a : Assignment} :
    read? cs = some (a, rest) ↔ a.Unquoted ∧ cs = a.text.toList ++ rest := by
  constructor
  · intro h
    obtain ⟨⟨name, tail⟩, hname, h⟩ := Option.bind_eq_some_iff.1 h
    obtain ⟨column, hcolumn, h⟩ := Option.bind_eq_some_iff.1 h
    obtain ⟨⟨value, rest'⟩, hvalue, h⟩ := Option.bind_eq_some_iff.1 h
    cases h
    obtain ⟨hnameFree, rfl⟩ := upToQuote?_eq_some.1 hname
    obtain ⟨hvalueFree, rfl⟩ := upToQuote?_eq_some.1 hvalue
    obtain rfl := beforeEquals?_eq_some.1 hcolumn
    rw [text_toList, String.toList_ofList, String.toList_ofList]
    refine ⟨⟨?_, ?_⟩, rfl⟩
    · rw [String.toList_ofList]
      exact fun hmem => hnameFree (List.mem_append_left _ hmem)
    · rwa [String.toList_ofList]
  · rintro ⟨⟨hcolumn, hvalue⟩, rfl⟩
    have hname : '"' ∉ a.column.toList ++ ['='] := by simpa using hcolumn
    have hfirst := upToQuote?_eq_some.2 ⟨hname, text_toList a rest⟩
    have hsecond := upToQuote?_eq_some.2 ⟨hvalue, (rfl : a.value.toList ++ '"' :: rest = _)⟩
    have hequals := beforeEquals?_eq_some.2 (rfl : a.column.toList ++ ['='] = _)
    simp [read?, hfirst, hsecond, hequals]

theorem read?_length {cs rest : List Char} {a : Assignment} (h : read? cs = some (a, rest)) :
    rest.length < cs.length := by
  obtain ⟨-, rfl⟩ := read?_eq_some.1 h
  rw [text_toList]
  simp only [List.length_append, List.length_cons]
  omega

end Assignment

open Assignment (Unquoted read?)

/-- the assignments of a list, one after the other: behind each of them stands a comma or nothing -/
def readSetList? (cs : List Char) : Option (List Assignment) :=
  match _hread : read? cs with
  | some (a, []) => some [a]
  | some (a, ',' :: rest) => (readSetList? rest).map (a :: ·)
  | _ => none
termination_by cs.length
decreasing_by
  have hlength := Assignment.read?_length ‹_›
  rw [List.length_cons] at hlength
  omega

theorem setList_cons_cons (a b : Assignment) (as : List Assignment) :
    (Statement.setList (a :: b :: as)).toList = a.text.toList ++ ',' :: (Statement.setList (b :: as)).toList := by
  have hsplit : Statement.setList (a :: b :: as) = a.text ++ "," ++ Statement.setList (b :: as) :=
    String.intercalate_cons_cons
  rw [hsplit]
  simp

theorem setList_singleton (a : Assignment) : (Statement.setList [a]).toList = a.text.toList ++ [] := by
  simp [Statement.setList, Assignment.text]

theorem readSetList?_of_end {cs : List Char} {a : Assignment} (h : read? cs = some (a, [])) :
    readSetList? cs = some [a] := by
  rw [readSetList?]
  split <;> simp_all

theorem readSetList?_of_comma {cs rest : List Char} {a : Assignment} (h : read? cs = some (a, ',' :: rest)) :
    readSetList? cs = (readSetList? rest).map (a :: ·) := by
  rw [readSetList?]
  split <;> simp_all

theorem readSetList?_setList {as : List Assignment} (hne : as ≠ []) (hquotes : ∀ a ∈ as, a.Unquoted) :
    readSetList? (Statement.setList as).toList = some as := by
  induction as with
  | nil => exact absurd rfl hne
  | cons a as ih =>
    obtain ⟨hfirst, hrest⟩ := List.forall_mem_cons.1 hquotes
    cases as with
    | nil => exact readSetList?_of_end (Assignment.read?_eq_some.2 ⟨hfirst, setList_singleton a⟩)
    | cons b as =>
      have hread := Assignment.read?_eq_some.2 ⟨hfirst, setList_cons_cons a b as⟩
      rw [readSetList?_of_comma hread, ih (List.cons_ne_nil b as) hrest, Option.map_some]

/-! ## The assignments of a body -/

/-- the entry of `values` that the assignment is taken from -/
structure Assignment.ComesFrom (a : Assignment) (entry : Json) : Prop where
  column : entry.get? "column" = some (.string a.column)
  value : ∃ v, entry.get? "value" = some v ∧ v.scalarText? = some a.value

theorem Assignment.ofJson_eq_ok {entry : Json} {a : Assignment} : Assignment.ofJson entry = .ok a ↔ a.ComesFrom entry := by
  constructor
  · intro h
    unfold Assignment.ofJson at h
    split at h
    · rename_i column v hcolumn hvalue
      cases ht : v.scalarText? with
      | none => simp [ht] at h
      | some t =>
        simp only [ht, Except.ok.injEq] at h
        subst h
        exact ⟨hcolumn, v, hvalue, ht⟩
    · cases h
  · rintro ⟨hcolumn, v, hvalue, ht⟩
    simp only [Assignment.ofJson, hcolumn, hvalue, ht]

theorem assignments_eq_ok {body : Json} {as : List Assignment} :
    Body.assignments body = .ok as ↔
      as ≠ [] ∧ ∃ entries, body.get? "values" = some (.array entries) ∧
        List.Forall₂ (fun entry a => a.ComesFrom entry) entries as := by
  simp only [← Assignment.ofJson_eq_ok]
  unfold Body.assignments
  constructor
  · intro h
    split at h
    · cases h
    · cases h
    · rename_i entries hne hvalues
      have hall := mapM_eq_ok.1 h
      exact ⟨(ne_nil_iff_of_forall₂ hall).1 hne, entries, hvalues, hall⟩
    · cases h
  · rintro ⟨hne, entries, hvalues, hall⟩
    cases entries with
    | nil => exact absurd (List.forall₂_nil_left_iff.1 hall) hne
    | cons entry entries =>
      rw [hvalues]
      exact mapM_eq_ok.2 hall

theorem insert_eq_ok {table sql : String} {body : Json} :
    (Operation.create.statement table body).map Statement.sql = .ok sql ↔
      ∃ as, Body.assignments body = .ok as ∧ sql = "INSERT INTO " ++ table ++ " SET " ++ Statement.setList as := by
  constructor
  · intro h
    obtain ⟨s, hs, rfl⟩ := map_eq_ok.1 h
    obtain ⟨as, ha, hs⟩ := bind_eq_ok.1 hs
    cases hs
    exact ⟨as, ha, rfl⟩
  · rintro ⟨as, ha, rfl⟩
    exact map_eq_ok.2 ⟨_, bind_eq_ok.2 ⟨as, ha, rfl⟩, rfl⟩

theorem update_of_assignments {table sql : String} {body : Json} {as : List Assignment}
    (ha : Body.assignments body = .ok as) :
    (Operation.update.statement table body).map Statement.sql = .ok sql ↔
      Guarded body ("UPDATE " ++ table ++ " SET " ++ Statement.setList as) sql := by
  rw [update_eq_ok]
  constructor
  · intro h
    cases h with
    | update ha' hguarded =>
      obtain rfl := Except.ok.inj (ha'.symm.trans ha)
      exact hguarded
  · exact .update ha

/-- what the list says is what was assigned: two lists of one text are the same -/
theorem setList_inj {as bs : List Assignment} (has : as ≠ []) (hquotes : ∀ a ∈ as, a.Unquoted) (hbs : bs ≠ [])
    (hquotes' : ∀ b ∈ bs, b.Unquoted) (h : Statement.setList as = Statement.setList bs) : as = bs := by
  have hread := readSetList?_setList has hquotes
  rw [h, readSetList?_setList hbs hquotes'] at hread
  exact (Option.some.inj hread).symm

/-! ## Main result -/

/-- **No assignment is lost, doubled or moved.** The list that an insert sets is read back as the assignments of the body,
one for each entry under `values` and in the same order, so another body gives the same insert only by the same
assignments. An update sets the very same list, and no more than its condition follows. -/
theorem set_list_reads_back {table : String} {body : Json} {as : List Assignment} (ha : Body.assignments body = .ok as)
    (hquotes : ∀ a ∈ as, a.Unquoted) :
    ∃ list : String,
      (Operation.create.statement table body).map Statement.sql = .ok ("INSERT INTO " ++ table ++ " SET " ++ list) ∧
      readSetList? list.toList = some as ∧
      (∃ entries, body.get? "values" = some (.array entries) ∧
        List.Forall₂ (fun entry a => a.ComesFrom entry) entries as) ∧
      (∀ other others, Body.assignments other = .ok others → (∀ a ∈ others, a.Unquoted) →
        (Operation.create.statement table other).map Statement.sql =
          (Operation.create.statement table body).map Statement.sql → others = as) ∧
      ∀ sql, (Operation.update.statement table body).map Statement.sql = .ok sql ↔
        Guarded body ("UPDATE " ++ table ++ " SET " ++ list) sql := by
  obtain ⟨hne, hentries⟩ := assignments_eq_ok.1 ha
  have hinsert := insert_eq_ok.2 ⟨as, ha, (rfl : "INSERT INTO " ++ table ++ " SET " ++ Statement.setList as = _)⟩
  refine ⟨Statement.setList as, hinsert, readSetList?_setList hne hquotes, hentries, ?_, fun _ => update_of_assignments ha⟩
  intro other others hothers hquotes' hsame
  obtain ⟨as', ha', htext⟩ := insert_eq_ok.1 (hsame.trans hinsert)
  obtain rfl := Except.ok.inj (hothers.symm.trans ha')
  have hlists : Statement.setList as = Statement.setList others := (String.append_right_inj _).1 htext
  exact setList_inj (assignments_eq_ok.1 hothers).1 hquotes' hne hquotes hlists.symm

/-- separators in a column and in a value, the column again, and an entry with nothing in it -/
def separators : Json :=
  .object [("values", .array [.object [("column", .string "a=b,c"), ("value", .string "x=y, (z)")],
    .object [("value", .bool true), ("column", .string "a=b,c")],
    .object [("column", .string ""), ("value", .string "")]])]

/-- what is read out of them -/
def separated : List Assignment := [⟨"a=b,c", "x=y, (z)"⟩, ⟨"a=b,c", "true"⟩, ⟨"", ""⟩]

theorem separators_read_back :
    Body.assignments separators = .ok separated ∧ (∀ a ∈ separated, a.Unquoted) ∧
      (Operation.create.statement "t" separators).map Statement.sql =
        .ok "INSERT INTO t SET a=b,c=\"x=y, (z)\",a=b,c=\"true\",=\"\"" ∧
      readSetList? "a=b,c=\"x=y, (z)\",a=b,c=\"true\",=\"\"".toList = some separated ∧
      (Operation.update.statement "t" separators).map Statement.sql =
        .ok "UPDATE t SET a=b,c=\"x=y, (z)\",a=b,c=\"true\",=\"\"" := by
  have ha : Body.assignments separators = .ok separated := by rfl
  have hquotes : ∀ a ∈ separated, a.Unquoted := by decide
  obtain ⟨list, hinsert, hread, -, -, hupdate⟩ := @set_list_reads_back "t" separators separated ha hquotes
  have htext : (Operation.create.statement "t" separators).map Statement.sql =
      .ok ("INSERT INTO " ++ "t" ++ " SET " ++ "a=b,c=\"x=y, (z)\",a=b,c=\"true\",=\"\"") := by rfl
  obtain rfl := (String.append_right_inj _).1 (Except.ok.inj (htext.symm.trans hinsert))
  exact ⟨ha, hquotes, hinsert, hread, (hupdate _).2 (.bare .missing)⟩

end SqlGateway
