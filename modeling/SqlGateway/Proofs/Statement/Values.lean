/-
Values cannot change what a statement does around them. Two bodies that are the same but for values (`SameBody`) are
refused with one error, or give statements with one outline: the values of assignments and filters, and those of
comparisons at any depth, take part in nothing but their own literals.

For the outline the texts of a statement must be plain (`PlainTexts`): no double quote in a name, and in a value no
backslash either. For the refusal nothing is asked of them.
-/
import SqlGateway.Proofs.Condition.Shape
import SqlGateway.Statement.Operation

namespace SqlGateway

open Condition (Comparison IsPlain IsScalar SameTree comparisonsOf quote)

/-! ## Bodies that differ in values -/

/-- the same entry of `values` but for a scalar -/
def SameEntry : Json → Json → Prop := Json.Differ fun key a b => key = "value" ∧ IsScalar a ∧ IsScalar b

inductive SameEntries : Json → Json → Prop
  | array {vs ws : List Json} : List.Forall₂ SameEntry vs ws → SameEntries (.array vs) (.array ws)

/-- the same document but for values of assignments and comparisons -/
def SameDocument : Json → Json → Prop :=
  Json.Differ fun key a b => key = "values" ∧ SameEntries a b ∨ key = "conditions" ∧ SameTree a b

/-- the same body but for values: for a filter any scalar member is one -/
def Operation.SameBody : Operation → Json → Json → Prop
  | filter => Json.Differ fun _ a b => IsScalar a ∧ IsScalar b
  | create | update | delete | select => SameDocument

/-! ## The texts of a statement -/

namespace Body

def assigned (body : Json) : List Assignment := (assignments body).toOption.getD []

def projected (body : Json) : List String := (columns body).toOption.join.getD []

/-- the comparisons of the condition, at any depth -/
def comparisons (body : Json) : List Comparison := (conditions body).elim [] comparisonsOf

theorem assigned_eq {body : Json} {as : List Assignment} (h : assignments body = .ok as) : assigned body = as := by
  rw [assigned, h]
  rfl

end Body

namespace Operation

/-- the names of columns, fields and keys that a statement takes from a body, and the entries of its projection -/
def names (op : Operation) (body : Json) : List String :=
  match op with
  | create => (Body.assigned body).map Assignment.column
  | update => (Body.assigned body).map Assignment.column ++ (Body.comparisons body).map Comparison.field
  | delete => (Body.comparisons body).map Comparison.field
  | select => Body.projected body ++ (Body.comparisons body).map Comparison.field
  | filter => (Body.terms body).map Prod.fst

/-- the values that a statement takes from a body -/
def values (op : Operation) (body : Json) : List String :=
  match op with
  | create => (Body.assigned body).map Assignment.value
  | update => (Body.assigned body).map Assignment.value ++ (Body.comparisons body).flatMap fun c => c.right.texts
  | delete | select => (Body.comparisons body).flatMap fun c => c.right.texts
  | filter => (Body.terms body).map Prod.snd

structure PlainTexts (op : Operation) (table : String) (body : Json) : Prop where
  table : '"' ∉ table.toList
  names : ∀ name ∈ op.names body, '"' ∉ name.toList
  values : ∀ v ∈ op.values body, IsPlain v

theorem PlainTexts.contained {op : Operation} {table : String} {body : Json} (h : op.PlainTexts table body)
    (hop : op ∈ [update, delete, select]) : ∀ c ∈ Body.comparisons body, c.Contained := by
  intro c hc
  have hfield : c.field ∈ (Body.comparisons body).map Comparison.field := List.mem_map_of_mem hc
  have htexts : ∀ v ∈ c.right.texts, v ∈ (Body.comparisons body).flatMap fun c => c.right.texts :=
    fun v hv => List.mem_flatMap.2 ⟨c, hc, hv⟩
  simp only [List.mem_cons, List.not_mem_nil, or_false] at hop
  rcases hop with rfl | rfl | rfl
  · exact ⟨h.names _ (List.mem_append_right _ hfield), fun v hv => h.values _ (List.mem_append_right _ (htexts v hv))⟩
  · exact ⟨h.names _ hfield, fun v hv => h.values _ (htexts v hv)⟩
  · exact ⟨h.names _ (List.mem_append_right _ hfield), fun v hv => h.values _ (htexts v hv)⟩

end Operation

/-! ## What is taken from two bodies -/

def Assignment.SameColumn (a b : Assignment) : Prop := a.column = b.column

theorem Assignment.agree_ofJson {v w : Json} (h : SameEntry v w) :
    Agree SameColumn (Assignment.ofJson v) (Assignment.ofJson w) := by
  have hcolumn : v.get? "column" = w.get? "column" := by
    apply h.get?_eq
    rintro a b ⟨hkey, -⟩
    exact absurd hkey (by decide)
  unfold Assignment.ofJson
  rw [hcolumn]
  rcases h.get? "value" with heq | ⟨a, b, ha, hb, -, hascalar, hbscalar⟩
  · rw [heq]
    exact .refl (fun a => Eq.refl a.column) _
  · obtain ⟨s, hs⟩ := Condition.exists_scalarText?.2 hascalar
    obtain ⟨t, ht⟩ := Condition.exists_scalarText?.2 hbscalar
    rw [ha, hb]
    cases w.get? "column" with
    | none => exact .error _
    | some column =>
      cases column with
      | string name =>
        simp only [hs, ht]
        exact .ok rfl
      | _ => exact .error _

/-- a condition is there in both or in neither -/
def SameCondition (b b' : Json) : Option String → Option String → Prop :=
  Option.Rel fun s t => (∀ c ∈ Body.comparisons b, c.Contained) → (∀ c ∈ Body.comparisons b', c.Contained) →
    SameOutline s t

section

variable {b b' : Json} (h : SameDocument b b')
include h

theorem agree_assignments :
    Agree (List.Forall₂ Assignment.SameColumn) (Body.assignments b) (Body.assignments b') := by
  unfold Body.assignments
  rcases h.get? "values" with heq | ⟨v, w, hv, hw, ⟨-, hentries⟩ | ⟨hkey, -⟩⟩
  · rw [heq]
    exact .refl (fun as => List.forall₂_same.2 fun a _ => Eq.refl a.column) _
  · rw [hv, hw]
    cases hentries with
    | array hall =>
      cases hall with
      | nil => exact .error _
      | cons hfirst hrest =>
        have hentries := List.Forall₂.cons hfirst hrest
        exact .mapM (hentries.imp fun _ _ => Assignment.agree_ofJson)
  · exact absurd hkey (by decide)

theorem columns_eq : Body.columns b = Body.columns b' := by
  have hcolumns : b.get? "columns" = b'.get? "columns" := by
    apply h.get?_eq
    rintro v w (⟨hkey, -⟩ | ⟨hkey, -⟩) <;> exact absurd hkey (by decide)
  unfold Body.columns
  rw [hcolumns]

theorem conditions_rel : Option.Rel SameTree (Body.conditions b) (Body.conditions b') := by
  unfold Body.conditions
  rcases h.get? "conditions" with heq | ⟨v, w, hv, hw, ⟨hkey, -⟩ | ⟨-, htree⟩⟩
  · rw [heq]
    cases (b'.get? "conditions").filter Json.isTruthy with
    | none => exact .none
    | some v => exact .some (.leaf (.same v))
  · exact absurd hkey (by decide)
  · rw [hv, hw, Option.filter_some, Option.filter_some, htree.isTruthy_eq]
    split
    · exact .some htree
    · exact .none

theorem agree_condition : Agree (SameCondition b b') (Body.condition b) (Body.condition b') := by
  have hrel := conditions_rel h
  unfold SameCondition Body.condition Body.comparisons
  generalize Body.conditions b = tree, Body.conditions b' = tree' at hrel ⊢
  cases hrel with
  | none => exact .ok .none
  | @some v w htree =>
    rcases htree.agree_compile.cases_eq with ⟨e, hv, hw⟩ | ⟨s, t, hv, hw, hst⟩
    · simp only [hv, hw]
      exact .error _
    · simp only [hv, hw]
      exact .ok (.some hst)

end

theorem terms_forall₂ {b b' : Json} (h : Operation.filter.SameBody b b') :
    List.Forall₂ (fun s t => s.1 = t.1) (Body.terms b) (Body.terms b') := by
  unfold Body.terms
  rw [List.forall₂_map_left_iff, List.forall₂_map_right_iff]
  unfold Operation.SameBody at h
  cases h with
  | same => exact List.forall₂_same.2 fun _ _ => rfl
  | members hall => exact hall.imp fun _ _ hmember => hmember.1

/-! ## How a statement is put together -/

theorem SameOutline.equation {name v w : String} (hname : '"' ∉ name.toList) (hv : IsPlain v) (hw : IsPlain w) :
    SameOutline (Statement.equation name v) (Statement.equation name w) := by
  have hsplit : ∀ u, Statement.equation name u = name ++ "=" ++ quote u := by
    intro u
    apply String.toList_injective
    simp [Statement.equation, quote]
  rw [hsplit, hsplit]
  exact ((SameOutline.unquoted hname).append (.unquoted (by decide))).append (.quoted hv hw)

/-- the same names set to plain values -/
theorem SameOutline.equations {α : Type} {name value : α → String} {as bs : List α} {separator : String}
    (hseparator : '"' ∉ separator.toList) (h : List.Forall₂ (fun a b => name a = name b) as bs)
    (hnames : ∀ s ∈ as.map name, '"' ∉ s.toList) (hv : ∀ v ∈ as.map value, IsPlain v)
    (hw : ∀ v ∈ bs.map value, IsPlain v) :
    SameOutline (separator.intercalate (as.map fun a => Statement.equation (name a) (value a)))
      (separator.intercalate (bs.map fun b => Statement.equation (name b) (value b))) := by
  refine .intercalate hseparator ?_
  rw [List.forall₂_map_left_iff, List.forall₂_map_right_iff]
  have hboth := List.forall₂_iff_zip.1 h
  refine List.forall₂_iff_zip.2 ⟨hboth.1, fun {a b} hp => ?_⟩
  obtain ⟨ha, hb⟩ := List.of_mem_zip hp
  have hname : name a = name b := hboth.2 hp
  rw [← hname]
  exact .equation (hnames _ (List.mem_map_of_mem ha)) (hv _ (List.mem_map_of_mem ha)) (hw _ (List.mem_map_of_mem hb))

theorem SameOutline.whereClause {s t : String} (h : SameOutline s t) :
    SameOutline (Statement.whereClause s) (Statement.whereClause t) :=
  ((SameOutline.unquoted (by decide)).append h).append (.unquoted (by decide))

theorem SameCondition.clause {b b' : Json} {c d : Option String} (h : SameCondition b b' c d)
    (hb : ∀ c ∈ Body.comparisons b, c.Contained) (hb' : ∀ c ∈ Body.comparisons b', c.Contained) :
    SameOutline (c.elim "" Statement.whereClause) (d.elim "" Statement.whereClause) := by
  cases h with
  | none => exact .unquoted (by decide)
  | some hst => exact (hst hb hb').whereClause

namespace Operation

variable {table : String} {b b' : Json}

/-- the two statements, if their texts are plain, have one outline -/
def SameStatement (op : Operation) (table : String) (b b' : Json) (s t : Statement) : Prop :=
  op.PlainTexts table b → op.PlainTexts table b' → SameOutline s.sql t.sql

theorem agree_create (h : create.SameBody b b') :
    Agree (create.SameStatement table b b') (create.statement table b) (create.statement table b') := by
  refine (agree_assignments h).bind fun as bs has hbs hcolumns => .ok fun hp hq => ?_
  have hhead : '"' ∉ ("INSERT INTO " ++ table ++ " SET ").toList := by simp [hp.table]
  obtain rfl := Body.assigned_eq has
  obtain rfl := Body.assigned_eq hbs
  have hset : SameOutline (Statement.setList _) (Statement.setList _) :=
    .equations (by decide) hcolumns hp.names hp.values hq.values
  exact (SameOutline.unquoted hhead).append hset

theorem agree_update (h : update.SameBody b b') :
    Agree (update.SameStatement table b b') (update.statement table b) (update.statement table b') := by
  refine (agree_assignments h).bind fun as bs has hbs hcolumns =>
    (agree_condition h).bind fun c d _ _ hcondition => .ok fun hp hq => ?_
  have hhead : '"' ∉ ("UPDATE " ++ table ++ " SET ").toList := by simp [hp.table]
  obtain rfl := Body.assigned_eq has
  obtain rfl := Body.assigned_eq hbs
  have hset : SameOutline (Statement.setList _) (Statement.setList _) :=
    .equations (by decide) hcolumns (fun s hs => hp.names s (List.mem_append_left _ hs))
      (fun v hv => hp.values v (List.mem_append_left _ hv)) fun v hv => hq.values v (List.mem_append_left _ hv)
  have hclause := hcondition.clause (hp.contained (by decide)) (hq.contained (by decide))
  exact ((SameOutline.unquoted hhead).append hset).append hclause

theorem agree_delete (h : delete.SameBody b b') :
    Agree (delete.SameStatement table b b') (delete.statement table b) (delete.statement table b') := by
  refine (agree_condition h).bind fun c d _ _ hcondition => ?_
  cases hcondition with
  | none => exact .error _
  | some hst =>
    refine .ok fun hp hq => ?_
    have hhead : '"' ∉ ("DELETE FROM " ++ table).toList := by simp [hp.table]
    have hclause := (hst (hp.contained (by decide)) (hq.contained (by decide))).whereClause
    exact (SameOutline.unquoted hhead).append hclause

theorem unquoted_projection {columns : Option (List String)} (h : ∀ s ∈ columns.getD [], '"' ∉ s.toList) :
    '"' ∉ (columns.elim "*" ",".intercalate).toList := by
  rcases columns with _ | _ | ⟨column, rest⟩
  · decide
  · decide
  · intro hmem
    rw [Option.elim_some, Condition.intercalate_toList] at hmem
    rcases List.mem_append.1 hmem with hmem | hmem
    · exact h column List.mem_cons_self hmem
    · obtain ⟨s, hs, hmem⟩ := List.mem_flatMap.1 hmem
      rcases List.mem_append.1 hmem with hmem | hmem
      · exact absurd hmem (by decide)
      · exact h s (List.mem_cons_of_mem _ hs) hmem

theorem agree_select (h : select.SameBody b b') :
    Agree (select.SameStatement table b b') (select.statement table b) (select.statement table b') := by
  unfold Operation.statement
  rw [columns_eq h]
  refine (Agree.refl (fun _ => rfl) _).bind fun columns columns' hb _ hcolumns =>
    (agree_condition h).bind fun c d _ _ hcondition => .ok fun hp hq => ?_
  subst hcolumns
  have hprojected : Body.projected b' = columns.getD [] := by
    rw [Body.projected, hb]
    rfl
  have hprojection := unquoted_projection fun s hs => hq.names s (List.mem_append_left _ (hprojected ▸ hs))
  have hhead : '"' ∉ ("SELECT " ++ columns.elim "*" ",".intercalate ++ " FROM " ++ table).toList := by
    simp [hp.table, hprojection]
  have hclause := hcondition.clause (hp.contained (by decide)) (hq.contained (by decide))
  exact (SameOutline.unquoted hhead).append hclause

theorem agree_filter (h : filter.SameBody b b') :
    Agree (filter.SameStatement table b b') (filter.statement table b) (filter.statement table b') := by
  have hterms := terms_forall₂ h
  refine .ok fun hp hq => ?_
  have hnames : ∀ s ∈ (Body.terms b).map Prod.fst, '"' ∉ s.toList := hp.names
  have hv : ∀ v ∈ (Body.terms b).map Prod.snd, IsPlain v := hp.values
  have hw : ∀ v ∈ (Body.terms b').map Prod.snd, IsPlain v := hq.values
  generalize Body.terms b = ss, Body.terms b' = ts at hterms hnames hv hw ⊢
  cases hterms with
  | nil =>
    have htext : '"' ∉ ("SELECT * FROM " ++ table ++ ";").toList := by simp [hp.table]
    exact .unquoted htext
  | @cons s t ss ts hfirst hrest =>
    have hhead : '"' ∉ ("SELECT * FROM " ++ table ++ " WHERE ").toList := by simp [hp.table]
    have hlist : SameOutline (Statement.termList (s :: ss)) (Statement.termList (t :: ts)) :=
      .equations (by decide) (.cons hfirst hrest) hnames hv hw
    exact ((SameOutline.unquoted hhead).append hlist).append (.unquoted (by decide))

end Operation

/-! ## Main result -/

/-- **Values cannot change a statement around them.** For every operation and table, two bodies that are the same but
for values are refused with one error, or give two statements; and these, if their texts are plain, are the same text
without what stands in literals. -/
theorem outline_independent_of_values {op : Operation} {table : String} {b b' : Json} (h : op.SameBody b b') :
    (∃ e, op.statement table b = .error e ∧ op.statement table b' = .error e) ∨
      ∃ s t, op.statement table b = .ok s ∧ op.statement table b' = .ok t ∧
        (op.PlainTexts table b → op.PlainTexts table b' → outline s.sql = outline t.sql) := by
  have hagree : Agree (op.SameStatement table b b') (op.statement table b) (op.statement table b') := by
    cases op with
    | create => exact Operation.agree_create h
    | update => exact Operation.agree_update h
    | delete => exact Operation.agree_delete h
    | select => exact Operation.agree_select h
    | filter => exact Operation.agree_filter h
  rcases hagree.cases_eq with hfail | ⟨s, t, hs, ht, hst⟩
  · exact .inl hfail
  · exact .inr ⟨s, t, hs, ht, fun hp hq => (hst hp hq).outline_eq⟩

/-- a quote or a backslash in a value does change the outline -/
example : ∀ v ∈ ["x\" OR \"y", "\\"],
    outline (Statement.filter "t" [("k", "x")]).sql ≠ outline (Statement.filter "t" [("k", v)]).sql := by
  decide

/-- the rows with one of some keys -/
def keyed (keys : List Json) : Json :=
  .object [("op", .string "select_any_in"), ("left", .object [("type", .string "field"), ("field", .string "id")]),
    ("right", .array keys)]

/-- a column to set in these rows -/
def assigning (value : Json) (keys : List Json) : Json :=
  .object [("values", .array [.object [("column", .string "name"), ("value", value)]]),
    ("conditions", .object [("conjunction", .string "or"), ("children", .array [keyed keys])])]

theorem assigning_sameBody {v w : Json} {ks ls : List Json} (hv : IsScalar v) (hw : IsScalar w)
    (hkeys : List.Forall₂ Condition.SameSlot ks ls) : Operation.update.SameBody (assigning v ks) (assigning w ls) := by
  have hleaf : SameTree (keyed ks) (keyed ls) :=
    .leaf (.members (.cons ⟨rfl, .inl rfl⟩ (.cons ⟨rfl, .inl rfl⟩ (.cons ⟨rfl, .inr ⟨rfl, .items hkeys⟩⟩ .nil))))
  have htree := @SameTree.group [("conjunction", .string "or")] [] [keyed ks] [keyed ls] rfl fun p hp => by
    obtain rfl := List.mem_singleton.1 hp
    exact hleaf
  have hentries : SameEntries (.array [.object [("column", .string "name"), ("value", v)]])
      (.array [.object [("column", .string "name"), ("value", w)]]) :=
    .array (.cons (.members (.cons ⟨rfl, .inl rfl⟩ (.cons ⟨rfl, .inr ⟨rfl, hv, hw⟩⟩ .nil))) .nil)
  exact .members (.cons ⟨rfl, .inr (.inl ⟨rfl, hentries⟩)⟩ (.cons ⟨rfl, .inr (.inr ⟨rfl, htree⟩)⟩ .nil))

def harmless : Json := assigning (.string "Ann") [.natural 1, .natural 2]

/-- values that would end the statement, were they not in literals -/
def hostile : Json := assigning (.string "; DROP TABLE users; --") [.string "1) OR (TRUE", .null]

theorem hostile_outline : Operation.update.SameBody harmless hostile ∧
    Operation.update.PlainTexts "users" harmless ∧ Operation.update.PlainTexts "users" hostile ∧
    ∃ s t, Operation.update.statement "users" harmless = .ok s ∧ Operation.update.statement "users" hostile = .ok t ∧
      outline s.sql = outline t.sql := by
  have hsame : Operation.update.SameBody harmless hostile :=
    assigning_sameBody trivial trivial (.cons (.inr ⟨trivial, trivial⟩) (.cons (.inr ⟨trivial, trivial⟩) .nil))
  have hp : Operation.update.PlainTexts "users" harmless := ⟨by decide, by decide, by decide⟩
  have hq : Operation.update.PlainTexts "users" hostile := ⟨by decide, by decide, by decide⟩
  have hok : ∃ s, Operation.update.statement "users" harmless = .ok s := ⟨_, by rfl⟩
  refine ⟨hsame, hp, hq, ?_⟩
  rcases @outline_independent_of_values .update "users" harmless hostile hsame with ⟨e, he, -⟩ | ⟨s, t, hs, ht, hst⟩
  · obtain ⟨s, hs⟩ := hok
    exact absurd (hs.symm.trans he) nofun
  · exact ⟨s, t, hs, ht, hst hp hq⟩

end SqlGateway
