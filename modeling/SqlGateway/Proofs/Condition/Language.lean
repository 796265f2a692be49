/-
The language of condition trees, stated on request values alone, and the text of each.

- `IsGroup` says which values are condition trees: by which members a group, a node and a comparison have, by the table
  `operatorNames` of what each operator compares with. Nothing is said of how a value is read.
- `GroupText` gives a tree its text: the items under `children` in their order, joined by the words of `between`; a group
  inside a group in one pair of parentheses; a comparison by the table `fragment?`, its values as `ScalarText` has them.
- `compile_accepts_language`: `compile` succeeds exactly on this language, with exactly this text.
-/
import SqlGateway.Condition.Sql
import SqlGateway.Proofs.Condition.OfJson

namespace SqlGateway.Condition

/-! ## The tables -/

/-- the names of the operators, by what they compare with -/
def operatorNames : OperandKind → List String
  | .absent => ["is_empty", "is_not_empty"]
  | .range => ["between", "not_between"]
  | .set => ["select_any_in", "select_not_any_in"]
  | .scalar =>
    ["equal", "select_equals", "not_equal", "select_not_equals", "less", "less_or_equal", "greater", "greater_or_equal",
      "like", "not_like", "starts_with", "ends_with"]

/-- the text of a field's comparison, by the operator's name and its values -/
def fragment? (f : String) : String → List String → Option String
  | "equal", [v] | "select_equals", [v] => some ("(" ++ f ++ " = \"" ++ v ++ "\")")
  | "not_equal", [v] | "select_not_equals", [v] => some ("(" ++ f ++ " != \"" ++ v ++ "\")")
  | "less", [v] => some ("(" ++ f ++ " < \"" ++ v ++ "\")")
  | "less_or_equal", [v] => some ("(" ++ f ++ " <= \"" ++ v ++ "\")")
  | "greater", [v] => some ("(" ++ f ++ " > \"" ++ v ++ "\")")
  | "greater_or_equal", [v] => some ("(" ++ f ++ " >= \"" ++ v ++ "\")")
  | "between", [low, high] => some ("(" ++ f ++ " BETWEEN \"" ++ low ++ "\" AND \"" ++ high ++ "\")")
  | "not_between", [low, high] => some ("(" ++ f ++ " NOT BETWEEN \"" ++ low ++ "\" AND \"" ++ high ++ "\")")
  | "is_empty", [] => some ("(" ++ f ++ " IS NULL)")
  | "is_not_empty", [] => some ("(" ++ f ++ " IS NOT NULL)")
  | "like", [v] => some ("(" ++ f ++ " LIKE \"" ++ v ++ "\")")
  | "not_like", [v] => some ("(" ++ f ++ " NOT LIKE \"" ++ v ++ "\")")
  | "starts_with", [v] => some ("(" ++ f ++ " LIKE \"" ++ v ++ "%\")")
  | "ends_with", [v] => some ("(" ++ f ++ " LIKE \"%" ++ v ++ "\")")
  | "select_any_in", vs => some ("(" ++ f ++ " IN (" ++ ",".intercalate (vs.map fun v => "\"" ++ v ++ "\"") ++ "))")
  | "select_not_any_in", vs =>
    some ("(" ++ f ++ " NOT IN (" ++ ",".intercalate (vs.map fun v => "\"" ++ v ++ "\"") ++ "))")
  | _, _ => none

/-- what stands between the items of a group -/
def between : Conjunction → String
  | .and => " AND "
  | .or => " OR "

/-- the text of a value that is neither an array nor an object -/
inductive ScalarText : Json → String → Prop
  | null : ScalarText .null "null"
  | yes : ScalarText (.bool true) "true"
  | no : ScalarText (.bool false) "false"
  | number (n : Number) : ScalarText (.number n) n.text
  | string (s : String) : ScalarText (.string s) s

/-! ## The language -/

/-- neither an array nor an object -/
def IsScalar : Json → Prop
  | .array _ | .object _ => False
  | _ => True

/-- what may stand under `right` beside an operator of this name -/
inductive IsOperand (name : String) : Option Json → Prop
  | anything {right : Option Json} : name ∈ operatorNames .absent → IsOperand name right
  | pair {low high : Json} :
    name ∈ operatorNames .range → IsScalar low → IsScalar high → IsOperand name (some (.array [low, high]))
  | list {items : List Json} :
    name ∈ operatorNames .set → items ≠ [] → (∀ i ∈ items, IsScalar i) → IsOperand name (some (.array items))
  | value {v : Json} : name ∈ operatorNames .scalar → IsScalar v → IsOperand name (some v)

/-- a value that names a field on the left, and an operator -/
structure LeafShape (v : Json) (field name : String) : Prop where
  left : ∃ l, v.get? "left" = some l ∧ l.get? "type" = some (.string "field") ∧ l.get? "field" = some (.string field)
  op : v.get? "op" = some (.string name)

def IsLeaf (v : Json) : Prop := ∃ field name, LeafShape v field name ∧ IsOperand name (v.get? "right")

/-- a value with a `conjunction` must be a group, any other a comparison -/
inductive IsNode : Json → Prop
  | leaf {v : Json} : v.get? "conjunction" = none → IsLeaf v → IsNode v
  | group {v : Json} {conjunction : Conjunction} {items : List Json} :
    GroupShape v conjunction items → (∀ i ∈ items, IsNode i) → IsNode v

def IsGroup (v : Json) : Prop := ∃ conjunction items, GroupShape v conjunction items ∧ ∀ i ∈ items, IsNode i

/-! ## Its texts -/

/-- the texts of the values under `right` -/
inductive OperandTexts (name : String) : Option Json → List String → Prop
  | anything {right : Option Json} : name ∈ operatorNames .absent → OperandTexts name right []
  | pair {low high : Json} {s t : String} :
    name ∈ operatorNames .range → ScalarText low s → ScalarText high t →
      OperandTexts name (some (.array [low, high])) [s, t]
  | list {items : List Json} {texts : List String} :
    name ∈ operatorNames .set → items ≠ [] → List.Forall₂ ScalarText items texts →
      OperandTexts name (some (.array items)) texts
  | value {v : Json} {t : String} :
    name ∈ operatorNames .scalar → ScalarText v t → OperandTexts name (some v) [t]

def LeafText (v : Json) (t : String) : Prop :=
  ∃ field name texts, LeafShape v field name ∧ OperandTexts name (v.get? "right") texts ∧
    fragment? field name texts = some t

inductive NodeText : Json → String → Prop
  | leaf {v : Json} {t : String} : v.get? "conjunction" = none → LeafText v t → NodeText v t
  | group {v : Json} {conjunction : Conjunction} {items : List Json} {texts : List String} :
    GroupShape v conjunction items → items.length = texts.length → (∀ p ∈ items.zip texts, NodeText p.1 p.2) →
      NodeText v ("(" ++ (between conjunction).intercalate texts ++ ")")

def GroupText (v : Json) (t : String) : Prop :=
  ∃ conjunction items texts, GroupShape v conjunction items ∧ List.Forall₂ NodeText items texts ∧
    t = (between conjunction).intercalate texts

/-! ## Words and values -/

theorem separator_eq (conjunction : Conjunction) : conjunction.separator = between conjunction := by
  cases conjunction <;> rfl

theorem scalarText_iff {v : Json} {t : String} : ScalarText v t ↔ v.scalarText? = some t := by
  refine ⟨fun h => ?_, fun h => ?_⟩
  · cases h <;> rfl
  · cases v with
    | bool b => cases b <;> cases h <;> constructor
    | null | number | string => cases h; constructor
    | array | object => cases h

theorem forall₂_scalarText {items : List Json} {texts : List String} :
    List.Forall₂ ScalarText items texts ↔ List.Forall₂ (fun i t => i.scalarText? = some t) items texts :=
  ⟨fun h => h.imp fun _ _ => scalarText_iff.1, fun h => h.imp fun _ _ => scalarText_iff.2⟩

/-! ## Comparisons -/

theorem mem_operatorNames {name : String} {kind : OperandKind} :
    name ∈ operatorNames kind ↔ ∃ op : Operator, op.name = name ∧ op.operandKind = kind := by
  refine ⟨fun h => ?_, fun h => ?_⟩
  · have hall : ∀ n ∈ operatorNames kind, (Operator.ofName? n).map Operator.operandKind = some kind := by
      cases kind <;> decide
    obtain ⟨op, hop, hkind⟩ := Option.map_eq_some_iff.1 (hall name h)
    exact ⟨op, (Operator.ofName?_eq_some.1 hop).symm, hkind⟩
  · obtain ⟨op, rfl, rfl⟩ := h
    cases op <;> decide

theorem exists_scalarText? {v : Json} : (∃ t, v.scalarText? = some t) ↔ IsScalar v := by
  cases v with
  | bool b => cases b <;> simp [Json.scalarText?, IsScalar]
  | _ => simp [Json.scalarText?, IsScalar]

theorem exists_scalarText {v : Json} : (∃ t, ScalarText v t) ↔ IsScalar v := by
  simp only [scalarText_iff, exists_scalarText?]

theorem exists_operandTexts {name : String} {right : Option Json} :
    (∃ texts, OperandTexts name right texts) ↔ IsOperand name right := by
  refine ⟨fun h => ?_, fun h => ?_⟩
  · obtain ⟨texts, h⟩ := h
    cases h with
    | anything hname => exact .anything hname
    | pair hname hlow hhigh => exact .pair hname (exists_scalarText.1 ⟨_, hlow⟩) (exists_scalarText.1 ⟨_, hhigh⟩)
    | list hname hne hall =>
      exact .list hname hne fun i hi => exists_scalarText.1 (exists_of_forall₂_left hall hi)
    | value hname hv => exact .value hname (exists_scalarText.1 ⟨_, hv⟩)
  · cases h with
    | anything hname => exact ⟨[], .anything hname⟩
    | pair hname hlow hhigh =>
      obtain ⟨s, hs⟩ := exists_scalarText.2 hlow
      obtain ⟨t, ht⟩ := exists_scalarText.2 hhigh
      exact ⟨[s, t], .pair hname hs ht⟩
    | list hname hne hall =>
      obtain ⟨texts, htexts⟩ := exists_forall₂ fun i hi => exists_scalarText.2 (hall i hi)
      exact ⟨texts, .list hname hne htexts⟩
    | value hname hv =>
      obtain ⟨t, ht⟩ := exists_scalarText.2 hv
      exact ⟨[t], .value hname ht⟩

theorem OperandTexts.exists_operator {name : String} {right : Option Json} {texts : List String}
    (h : OperandTexts name right texts) : ∃ op : Operator, op.name = name := by
  cases h with
  | anything hname | pair hname | list hname | value hname =>
    obtain ⟨op, hop, -⟩ := mem_operatorNames.1 hname
    exact ⟨op, hop⟩

/-- the names of a kind are those of its operators, and no other operator has one of them -/
theorem name_mem_operatorNames {op : Operator} {kind : OperandKind} :
    op.name ∈ operatorNames kind ↔ op.operandKind = kind := by
  refine ⟨fun h => ?_, fun h => mem_operatorNames.2 ⟨op, rfl, h⟩⟩
  obtain ⟨op', hname, rfl⟩ := mem_operatorNames.1 h
  have hsame := Operator.ofName?_name op'
  rw [hname, Operator.ofName?_name] at hsame
  rw [Option.some.inj hsame]

/-- the texts under `right` are those of the operand that is taken from it -/
theorem operandTexts_iff {op : Operator} {right : Option Json} {texts : List String} :
    OperandTexts op.name right texts ↔ ∃ o, Operand.Takes op right o ∧ o.texts = texts := by
  refine ⟨fun h => ?_, fun h => ?_⟩
  · cases h with
    | anything hname => exact ⟨_, .absent (name_mem_operatorNames.1 hname), rfl⟩
    | pair hname hlow hhigh =>
      exact ⟨_, .range (name_mem_operatorNames.1 hname) (scalarText_iff.1 hlow) (scalarText_iff.1 hhigh), rfl⟩
    | list hname hne hall => exact ⟨_, .set (name_mem_operatorNames.1 hname) hne (forall₂_scalarText.1 hall), rfl⟩
    | value hname hv => exact ⟨_, .scalar (name_mem_operatorNames.1 hname) (scalarText_iff.1 hv), rfl⟩
  · obtain ⟨o, ho, rfl⟩ := h
    cases ho with
    | absent hkind => exact .anything (name_mem_operatorNames.2 hkind)
    | scalar hkind hv => exact .value (name_mem_operatorNames.2 hkind) (scalarText_iff.2 hv)
    | range hkind hlow hhigh =>
      exact .pair (name_mem_operatorNames.2 hkind) (scalarText_iff.2 hlow) (scalarText_iff.2 hhigh)
    | set hkind hne hall => exact .list (name_mem_operatorNames.2 hkind) hne (forall₂_scalarText.2 hall)

/-- the table by names and the table by operators agree -/
theorem fragment?_eq {op : Operator} {o : Operand} (f : String) (h : o.kind = op.operandKind) :
    fragment? f op.name o.texts = (predicate? op o).map fun p => "(" ++ (f ++ " " ++ p) ++ ")" := by
  cases op <;> cases o <;> first
    | (cases h; done)
    | (refine congrArg some (String.toList_injective ?_); simp [quote, Operand.texts, Function.comp_def])

theorem OperandTexts.exists_fragment {name : String} {right : Option Json} {texts : List String}
    (h : OperandTexts name right texts) (f : String) : ∃ t, fragment? f name texts = some t := by
  obtain ⟨op, rfl⟩ := h.exists_operator
  obtain ⟨o, ho, rfl⟩ := operandTexts_iff.1 h
  obtain ⟨p, hp⟩ := Option.isSome_iff_exists.1 (predicate?_isSome ho.kind)
  exact ⟨_, by rw [fragment?_eq f ho.kind, hp, Option.map_some]⟩

theorem leafText_iff {v : Json} {t : String} :
    LeafText v t ↔ ∃ c, Comparison.ofJson v = .ok c ∧ c.sql = .ok t := by
  refine ⟨fun h => ?_, fun h => ?_⟩
  · obtain ⟨field, name, texts, hshape, hright, ht⟩ := h
    obtain ⟨op, rfl⟩ := hright.exists_operator
    obtain ⟨o, ho, rfl⟩ := operandTexts_iff.1 hright
    refine ⟨⟨field, op, o⟩, Comparison.ofJson_eq_ok.2 ⟨fieldOfJson?_eq_some.2 hshape.left, hshape.op, ho⟩, ?_⟩
    rw [fragment?_eq field ho.kind] at ht
    obtain ⟨p, hp, rfl⟩ := Option.map_eq_some_iff.1 ht
    simp [Comparison.sql_eq_ok, Comparison.text, hp]
  · obtain ⟨⟨field, op, o⟩, hc, hsql⟩ := h
    obtain ⟨hfield, hop, ho⟩ := Comparison.ofJson_eq_ok.1 hc
    obtain ⟨hsome, rfl⟩ := Comparison.sql_eq_ok.1 hsql
    obtain ⟨p, hp⟩ := Option.isSome_iff_exists.1 hsome
    refine ⟨field, op.name, o.texts, ⟨fieldOfJson?_eq_some.1 hfield, hop⟩, operandTexts_iff.2 ⟨o, ho, rfl⟩, ?_⟩
    rw [fragment?_eq field ho.kind, hp]
    simp only [Comparison.text, hp, Option.map_some, Option.getD_some]

/-! ## Trees -/

theorem nodeText_group {v : Json} {t : String} (h : GroupText v t) : NodeText v ("(" ++ t ++ ")") := by
  obtain ⟨conjunction, items, texts, hshape, hall, rfl⟩ := h
  obtain ⟨hlength, hzip⟩ := List.forall₂_iff_zip.1 hall
  exact .group hshape hlength fun p hp => hzip hp

/-- a group whose items are all read and written out is so itself -/
theorem exists_group {v : Json} {conjunction : Conjunction} {items : List Json} {texts : List String}
    (hshape : GroupShape v conjunction items)
    (hall : List.Forall₂ (fun i u => ∃ n, Node.ofJson i = .ok n ∧ n.sql = .ok u) items texts) :
    ∃ g, Group.ofJson v = .ok g ∧ g.conjunction = conjunction ∧
      Joined conjunction g.children ((between conjunction).intercalate texts) := by
  obtain ⟨children, hread, hsql⟩ := forall₂_comp.1 hall
  have hne : texts ≠ [] := (ne_nil_iff_of_forall₂ hall).1 hshape.inhabited
  rw [← separator_eq]
  exact ⟨⟨conjunction, children⟩, Group.ofJson_eq_ok.2 ⟨items, hshape, hread⟩, rfl, texts, hsql, hne, rfl⟩

theorem groupText_of_joined {v : Json} {g : Group} {t : String} (hg : Group.ofJson v = .ok g)
    (ht : Joined g.conjunction g.children t)
    (h : ∀ n ∈ g.children, ∀ i u, Node.ofJson i = .ok n → n.sql = .ok u → NodeText i u) : GroupText v t := by
  obtain ⟨items, hshape, hread⟩ := Group.ofJson_eq_ok.1 hg
  obtain ⟨texts, hsql, -, rfl⟩ := ht
  have htexts := forall₂_imp_of_mem hsql fun n hn u hu i hi => h n hn i u hi hu
  refine ⟨g.conjunction, items, texts, hshape, ?_, by rw [separator_eq]⟩
  exact (forall₂_comp.2 ⟨g.children, hread, htexts⟩).imp fun i u ⟨_, hi, hu⟩ => hu i hi

theorem nodeText_iff {v : Json} {t : String} : NodeText v t ↔ ∃ n, Node.ofJson v = .ok n ∧ n.sql = .ok t := by
  refine ⟨fun h => ?_, fun h => ?_⟩
  · induction h with
    | leaf hnone hleaf =>
      obtain ⟨c, hc, hsql⟩ := leafText_iff.1 hleaf
      exact ⟨.leaf c, Node.ofJson_eq_leaf.2 ⟨hnone, hc⟩, (Node.sql_leaf c).trans hsql⟩
    | group hshape hlength _ ih =>
      obtain ⟨g, hg, rfl, hjoined⟩ := exists_group hshape (List.forall₂_iff_zip.2 ⟨hlength, fun h => ih _ h⟩)
      exact ⟨g.toNode, Node.ofJson_eq_group.2 hg, Node.sql_group.2 ⟨_, hjoined, rfl⟩⟩
  · obtain ⟨n, hn, hsql⟩ := h
    induction n using Node.induct generalizing v t with
    | leaf c =>
      obtain ⟨hnone, hc⟩ := Node.ofJson_eq_leaf.1 hn
      exact .leaf hnone (leafText_iff.2 ⟨c, hc, Node.sql_leaf c ▸ hsql⟩)
    | group conjunction children ih =>
      obtain ⟨s, hs, rfl⟩ := Node.sql_group.1 hsql
      exact nodeText_group (groupText_of_joined (Node.ofJson_eq_group.1 hn) hs fun n hn _ _ => ih n hn)

theorem groupText_iff {v : Json} {t : String} : GroupText v t ↔ compile v = .ok t := by
  unfold compile
  rw [bind_eq_ok]
  refine ⟨fun h => ?_, fun h => ?_⟩
  · obtain ⟨conjunction, items, texts, hshape, hall, rfl⟩ := h
    obtain ⟨g, hg, rfl, hjoined⟩ := exists_group hshape (hall.imp fun i u => nodeText_iff.1)
    exact ⟨g, hg, Group.sql_eq_ok.2 hjoined⟩
  · obtain ⟨g, hg, hsql⟩ := h
    exact groupText_of_joined hg (Group.sql_eq_ok.1 hsql) fun n _ i u hi hu => nodeText_iff.2 ⟨n, hi, hu⟩

theorem exists_leafText {v : Json} : (∃ t, LeafText v t) ↔ IsLeaf v := by
  refine ⟨fun h => ?_, fun h => ?_⟩
  · obtain ⟨t, field, name, texts, hshape, hright, -⟩ := h
    exact ⟨field, name, hshape, exists_operandTexts.1 ⟨texts, hright⟩⟩
  · obtain ⟨field, name, hshape, hright⟩ := h
    obtain ⟨texts, htexts⟩ := exists_operandTexts.2 hright
    obtain ⟨t, ht⟩ := htexts.exists_fragment field
    exact ⟨t, field, name, texts, hshape, htexts, ht⟩

theorem exists_nodeText {v : Json} : (∃ t, NodeText v t) ↔ IsNode v := by
  refine ⟨fun h => ?_, fun h => ?_⟩
  · obtain ⟨t, h⟩ := h
    induction h with
    | leaf hnone hleaf => exact .leaf hnone (exists_leafText.1 ⟨_, hleaf⟩)
    | @group v conjunction items texts hshape hlength _ ih =>
      have hall : List.Forall₂ (fun i _ => IsNode i) items texts :=
        List.forall₂_iff_zip.2 ⟨hlength, fun h => ih _ h⟩
      refine .group hshape fun i hi => ?_
      obtain ⟨_, h⟩ := exists_of_forall₂_left hall hi
      exact h
  · induction h with
    | leaf hnone hleaf =>
      obtain ⟨t, ht⟩ := exists_leafText.2 hleaf
      exact ⟨t, .leaf hnone ht⟩
    | group hshape _ ih =>
      obtain ⟨texts, hall⟩ := exists_forall₂ ih
      exact ⟨_, nodeText_group ⟨_, _, texts, hshape, hall, rfl⟩⟩

theorem exists_groupText {v : Json} : (∃ t, GroupText v t) ↔ IsGroup v := by
  refine ⟨fun h => ?_, fun h => ?_⟩
  · obtain ⟨t, conjunction, items, texts, hshape, hall, -⟩ := h
    exact ⟨conjunction, items, hshape, fun i hi => exists_nodeText.1 (exists_of_forall₂_left hall hi)⟩
  · obtain ⟨conjunction, items, hshape, hall⟩ := h
    obtain ⟨texts, htexts⟩ := exists_forall₂ fun i hi => exists_nodeText.2 (hall i hi)
    exact ⟨_, conjunction, items, texts, hshape, htexts, rfl⟩

/-! ## Main result -/

/-- **The language, and its texts.** A value has a text exactly when it is a condition tree, at every depth; and the
text that it has is the one that the tables give. -/
theorem compile_accepts_language (v : Json) :
    ((∃ text, compile v = .ok text) ↔ IsGroup v) ∧ ∀ text, compile v = .ok text ↔ GroupText v text := by
  refine ⟨?_, fun text => groupText_iff.symm⟩
  simp only [← groupText_iff]
  exact exists_groupText

end SqlGateway.Condition
