/-
What a request value must look like to be a condition tree, one level at a time. `Group.ofJson_eq_ok` says when a value
is read as a group, in terms of its own members and of the items under `children`, and `Comparison.ofJson_eq_ok` when it
is read as a comparison; `Node.ofJson_eq_group` and `Node.ofJson_eq_leaf` say which of the two a node is.
`Group.consistent_of_ofJson`: what is read is consistent, at every depth.
-/
import SqlGateway.Condition.OfJson
import SqlGateway.Proofs.Condition.Tree

namespace SqlGateway.Condition

theorem members_lookup (v : Json) (key : String) : v.members.lookup key = v.get? key := by
  cases v <;> rfl

theorem asString?_eq_some {v : Json} {s : String} : v.asString? = some s ↔ v = .string s := by
  cases v <;> simp [Json.asString?]

theorem asArray?_eq_some {v : Json} {items : List Json} : v.asArray? = some items ↔ v = .array items := by
  cases v <;> simp [Json.asArray?]

/-! ## Names -/

/-- the names of a conjunction: its keyword, in letters of either case -/
inductive Conjunction.Named : Conjunction → String → Prop
  | and {name : String} : Text.sameLetters name "AND" → Named .and name
  | or {name : String} : Text.sameLetters name "OR" → Named .or name

theorem Conjunction.Named.unique {c d : Conjunction} {name : String} (hc : c.Named name) (hd : d.Named name) : c = d := by
  have hne : ¬ (Text.sameLetters name "AND" ∧ Text.sameLetters name "OR") := by
    rintro ⟨hand, hor⟩
    simp only [Text.sameLetters, beq_iff_eq] at hand hor
    exact absurd (hand.symm.trans hor) (by decide)
  cases hc with
  | and hand =>
    cases hd with
    | and => rfl
    | or hor => exact absurd ⟨hand, hor⟩ hne
  | or hor =>
    cases hd with
    | and hand => exact absurd ⟨hand, hor⟩ hne
    | or => rfl

/-- names in capital letters will do as well -/
theorem Conjunction.ofName?_eq (name : String) :
    Conjunction.ofName? name =
      if Text.sameLetters name "AND" then some .and else if Text.sameLetters name "OR" then some .or else none := by
  have hsame {s t : String} (h : Text.lowered s = Text.lowered t) : Text.sameLetters name s = Text.sameLetters name t := by
    rw [Text.sameLetters, Text.sameLetters, h]
  rw [Conjunction.ofName?, @hsame "and" "AND" (by decide), @hsame "or" "OR" (by decide)]

theorem Conjunction.named_of_ofName? {name : String} {c : Conjunction} (h : Conjunction.ofName? name = some c) :
    c.Named name := by
  rw [Conjunction.ofName?_eq] at h
  split at h
  · cases h
    exact .and ‹_›
  split at h
  · cases h
    exact .or ‹_›
  · cases h

theorem Conjunction.ofName?_eq_some {name : String} {c : Conjunction} :
    Conjunction.ofName? name = some c ↔ c.Named name := by
  refine ⟨Conjunction.named_of_ofName?, fun h => ?_⟩
  obtain ⟨d, hd⟩ : ∃ d, Conjunction.ofName? name = some d := by
    rw [Conjunction.ofName?_eq]
    cases h with
    | and hname => exact ⟨.and, if_pos hname⟩
    | or hname =>
      rw [if_pos hname]
      split <;> exact ⟨_, rfl⟩
  rw [hd, (Conjunction.named_of_ofName? hd).unique h]

theorem Operator.ofName?_eq_some {name : String} {op : Operator} :
    Operator.ofName? name = some op ↔ name = op.name := by
  constructor
  · intro h
    unfold Operator.ofName? at h
    grind [Operator.name]
  · rintro rfl
    exact Operator.ofName?_name op

/-! ## Groups -/

/-- a value with a conjunction and at least one item under `children` -/
structure GroupShape (v : Json) (conjunction : Conjunction) (items : List Json) : Prop where
  named : ∃ name, v.get? "conjunction" = some (.string name) ∧ conjunction.Named name
  children : v.get? "children" = some (.array items)
  inhabited : items ≠ []

theorem Conjunction.ofJson_eq_ok {v : Json} {c : Conjunction} :
    Conjunction.ofJson v = .ok c ↔ ∃ name, v = .string name ∧ c.Named name := by
  cases v with
  | string name =>
    simp only [Conjunction.ofJson, Json.string.injEq, exists_eq_left', ← Conjunction.ofName?_eq_some]
    cases Conjunction.ofName? name <;> simp
  | _ => simp [Conjunction.ofJson]

theorem Conjunction.ofMembers_eq_ok {v : Json} {c : Conjunction} :
    Conjunction.ofMembers v.members = .ok c ↔
      (∃ name, v.get? "conjunction" = some (.string name) ∧ c.Named name) ∧
        (v.get? "children").isSome := by
  unfold Conjunction.ofMembers
  simp only [members_lookup]
  cases v.get? "conjunction" <;> cases v.get? "children" <;> simp [Conjunction.ofJson_eq_ok]

/-- of the children it matters only that there are some -/
theorem Conjunction.ofMembers_congr {v w : Json}
    (hconjunction : (v.get? "conjunction").map Conjunction.ofJson = (w.get? "conjunction").map Conjunction.ofJson)
    (hchildren : (v.get? "children").isSome = (w.get? "children").isSome) :
    Conjunction.ofMembers v.members = Conjunction.ofMembers w.members := by
  unfold Conjunction.ofMembers
  simp only [members_lookup]
  generalize v.get? "conjunction" = c, w.get? "conjunction" = d, v.get? "children" = vs, w.get? "children" = ws at *
  cases c <;> cases d <;> cases vs <;> cases ws <;> simp_all

theorem childrenOfMembers_congr {v w : Json} (h : v.get? "children" = w.get? "children") :
    childrenOfMembers v.members = childrenOfMembers w.members := by
  rw [childrenOfMembers_eq, childrenOfMembers_eq, members_lookup, members_lookup, h]

theorem childrenOfMembers_eq_ok {v : Json} {children : List Node} :
    childrenOfMembers v.members = .ok children ↔
      ∃ items, v.get? "children" = some (.array items) ∧
        List.Forall₂ (fun i n => Node.ofJson i = .ok n) items children := by
  rw [childrenOfMembers_eq, members_lookup]
  refine ⟨fun h => ?_, fun h => ?_⟩
  · split at h
    · rename_i items hitems
      obtain ⟨w, hw, harray⟩ := Option.bind_eq_some_iff.1 hitems
      exact ⟨items, hw.trans (congrArg some (asArray?_eq_some.1 harray)), mapM_eq_ok.1 h⟩
    · cases h
  · obtain ⟨items, hitems, hall⟩ := h
    simp only [hitems, Option.bind_some, Json.asArray?]
    exact mapM_eq_ok.2 hall

theorem Group.make_eq_ok {c : Conjunction} {children : List Node} {g : Group} :
    Group.make c children = .ok g ↔ children ≠ [] ∧ g = ⟨c, children⟩ := by
  unfold Group.make
  cases children <;> simp [eq_comm]

theorem Group.ofJson_eq_ok {v : Json} {g : Group} :
    Group.ofJson v = .ok g ↔
      ∃ items, GroupShape v g.conjunction items ∧ List.Forall₂ (fun i n => Node.ofJson i = .ok n) items g.children := by
  unfold Group.ofJson
  simp only [bind_eq_ok, Conjunction.ofMembers_eq_ok, childrenOfMembers_eq_ok, Group.make_eq_ok]
  refine ⟨fun h => ?_, fun h => ?_⟩
  · obtain ⟨c, ⟨hnamed, -⟩, children, ⟨items, hitems, hall⟩, hne, rfl⟩ := h
    exact ⟨items, ⟨hnamed, hitems, (ne_nil_iff_of_forall₂ hall).2 hne⟩, hall⟩
  · obtain ⟨items, hshape, hall⟩ := h
    have hchildren : (v.get? "children").isSome := by simp [hshape.children]
    have hne : g.children ≠ [] := (ne_nil_iff_of_forall₂ hall).1 hshape.inhabited
    exact ⟨g.conjunction, ⟨hshape.named, hchildren⟩, g.children, ⟨items, hshape.children, hall⟩, hne, rfl⟩

/-! ## Comparisons -/

theorem fieldOfJson?_some (l : Json) :
    fieldOfJson? (some l) =
      if (l.get? "type").bind Json.asString? = some "field" then (l.get? "field").bind Json.asString? else none := by
  change Option.bind (if _ then some () else none) _ = _
  split <;> rfl

theorem fieldOfJson?_eq_some {left : Option Json} {field : String} :
    fieldOfJson? left = some field ↔
      ∃ l, left = some l ∧ l.get? "type" = some (.string "field") ∧ l.get? "field" = some (.string field) := by
  cases left with
  | none =>
    have hnone : fieldOfJson? none = none := rfl
    simp [hnone]
  | some l => simp [fieldOfJson?_some, Option.bind_eq_some_iff, asString?_eq_some]

/-- the operand that an operator takes from the value under `right`; one that compares with nothing takes any -/
inductive Operand.Takes (op : Operator) : Option Json → Operand → Prop
  | absent {right : Option Json} : op.operandKind = .absent → Takes op right .absent
  | scalar {v : Json} {t : String} :
    op.operandKind = .scalar → v.scalarText? = some t → Takes op (some v) (.scalar t)
  | range {low high : Json} {s t : String} :
    op.operandKind = .range → low.scalarText? = some s → high.scalarText? = some t →
      Takes op (some (.array [low, high])) (.range s t)
  | set {items : List Json} {texts : List String} :
    op.operandKind = .set → items ≠ [] → List.Forall₂ (fun i t => i.scalarText? = some t) items texts →
      Takes op (some (.array items)) (.set texts)

theorem Operand.takes_of_ofJson? {op : Operator} {right : Option Json} {o : Operand}
    (h : Operand.ofJson? op right = some o) : Operand.Takes op right o := by
  unfold Operand.ofJson? at h
  split at h
  · rename_i hkind
    cases h
    exact .absent hkind
  · rename_i hkind
    obtain ⟨t, ht, rfl⟩ := Option.map_eq_some_iff.1 h
    obtain ⟨v, rfl, hv⟩ := Option.bind_eq_some_iff.1 ht
    exact .scalar hkind hv
  · rename_i hkind
    split at h
    · rename_i low high harray
      obtain ⟨v, rfl, hv⟩ := Option.bind_eq_some_iff.1 harray
      cases asArray?_eq_some.1 hv
      obtain ⟨s, hs, h⟩ := Option.bind_eq_some_iff.1 h
      obtain ⟨t, ht, h⟩ := Option.bind_eq_some_iff.1 h
      cases h
      exact .range hkind hs ht
    · cases h
  · rename_i hkind
    split at h
    · rename_i item rest harray
      obtain ⟨v, rfl, hv⟩ := Option.bind_eq_some_iff.1 harray
      cases asArray?_eq_some.1 hv
      obtain ⟨texts, htexts, rfl⟩ := Option.map_eq_some_iff.1 h
      exact .set hkind (List.cons_ne_nil _ _) (mapM_eq_some.1 htexts)
    · cases h

theorem Operand.ofJson?_eq_some {op : Operator} {right : Option Json} {o : Operand} :
    Operand.ofJson? op right = some o ↔ Operand.Takes op right o := by
  refine ⟨Operand.takes_of_ofJson?, fun h => ?_⟩
  cases h with
  | absent hkind => simp only [Operand.ofJson?, hkind]
  | scalar hkind hv => simp [Operand.ofJson?, hkind, hv]
  | range hkind hlow hhigh => simp [Operand.ofJson?, hkind, Json.asArray?, hlow, hhigh]
  | @set items texts hkind hne hall =>
    cases items with
    | nil => exact absurd rfl hne
    | cons item rest =>
      simp only [Operand.ofJson?, hkind, Option.bind_some, Json.asArray?, mapM_eq_some.2 hall, Option.map_some]

theorem Operand.Takes.kind {op : Operator} {right : Option Json} {o : Operand} (h : Operand.Takes op right o) :
    o.kind = op.operandKind := by
  cases h with
  | absent hkind | scalar hkind | range hkind | set hkind => exact hkind.symm

theorem Operand.Takes.ne_empty {op : Operator} {right : Option Json} {o : Operand} (h : Operand.Takes op right o) :
    o ≠ .set [] := by
  rintro rfl
  cases h with
  | set _ hne hall => exact (ne_nil_iff_of_forall₂ hall).1 hne rfl

/-- no operator has the empty name, which stands for an `op` that is missing or no text -/
theorem opName_eq_name {v : Json} {op : Operator} :
    ((v.get? "op").bind Json.asString?).getD "" = op.name ↔ v.get? "op" = some (.string op.name) := by
  have hne : "" ≠ op.name := by cases op <;> decide
  refine ⟨fun h => ?_, fun h => ?_⟩
  · cases hs : (v.get? "op").bind Json.asString? with
    | none => rw [hs] at h; exact absurd h hne
    | some name =>
      rw [hs] at h
      obtain ⟨w, hw, hstring⟩ := Option.bind_eq_some_iff.1 hs
      rw [hw, asString?_eq_some.1 hstring]
      exact congrArg (some ∘ Json.string) h
  · rw [h]
    rfl

theorem Comparison.ofJson_eq_ok {v : Json} {c : Comparison} :
    Comparison.ofJson v = .ok c ↔
      fieldOfJson? (v.get? "left") = some c.field ∧ v.get? "op" = some (.string c.op.name) ∧
        Operand.Takes c.op (v.get? "right") c.right := by
  obtain ⟨field, op, right⟩ := c
  rw [← opName_eq_name, ← Operator.ofName?_eq_some, ← Operand.ofJson?_eq_some]
  unfold Comparison.ofJson
  dsimp only
  generalize ((v.get? "op").bind Json.asString?).getD "" = name
  cases fieldOfJson? (v.get? "left") with
  | none => simp
  | some f =>
    cases Operator.ofName? name with
    | none => simp
    | some o =>
      cases hr : Operand.ofJson? o (v.get? "right") with
      | none =>
        simp only [hr, Option.some.injEq, reduceCtorEq, false_iff]
        rintro ⟨-, rfl, h⟩
        exact absurd (hr.symm.trans h) nofun
      | some r =>
        simp only [hr, pure, Except.pure, Except.ok.injEq, Comparison.mk.injEq, Option.some.injEq]
        refine and_congr_right fun _ => and_congr_right fun h => ?_
        rw [← h, hr, Option.some.injEq]

/-! ## Nodes -/

theorem Node.ofJson_eq (v : Json) :
    Node.ofJson v =
      if (v.get? "conjunction").isSome then (Group.ofJson v).map Group.toNode
      else if (v.get? "op").isSome && (v.get? "left").isSome then (Comparison.ofJson v).map .leaf
      else .error .invalidNode := by
  cases v with
  | object members =>
    have hgroup : (Group.ofJson (.object members)).map Group.toNode = do
        let conjunction ← Conjunction.ofMembers members
        let children ← childrenOfMembers members
        return (← Group.make conjunction children).toNode := by
      simp only [Group.ofJson, Json.members]
      cases Conjunction.ofMembers members with
      | error e => rfl
      | ok c =>
        cases childrenOfMembers members with
        | error e => rfl
        | ok children =>
          cases hg : Group.make c children <;> simp [bind, Except.bind, Except.map, hg, pure, Except.pure]
    rw [hgroup, Node.ofJson]
    rfl
  | _ => rfl

theorem Group.conjunction_isSome {v : Json} {g : Group} (h : Group.ofJson v = .ok g) :
    (v.get? "conjunction").isSome := by
  obtain ⟨items, hshape, -⟩ := Group.ofJson_eq_ok.1 h
  obtain ⟨name, hname, -⟩ := hshape.named
  simp [hname]

theorem Node.ofJson_eq_group {v : Json} {conjunction : Conjunction} {children : List Node} :
    Node.ofJson v = .ok (.group conjunction children) ↔ Group.ofJson v = .ok ⟨conjunction, children⟩ := by
  rw [Node.ofJson_eq]
  refine ⟨fun h => ?_, fun h => ?_⟩
  · split at h
    · obtain ⟨g, hg, heq⟩ := map_eq_ok.1 h
      cases heq
      exact hg
    · split at h
      · obtain ⟨c, -, heq⟩ := map_eq_ok.1 h
        cases heq
      · cases h
  · rw [if_pos (Group.conjunction_isSome h), h]
    rfl

theorem Node.ofJson_eq_leaf {v : Json} {c : Comparison} :
    Node.ofJson v = .ok (.leaf c) ↔ v.get? "conjunction" = none ∧ Comparison.ofJson v = .ok c := by
  rw [Node.ofJson_eq]
  refine ⟨fun h => ?_, fun h => ?_⟩
  · split at h
    · obtain ⟨g, -, heq⟩ := map_eq_ok.1 h
      cases heq
    · rename_i hnone
      split at h
      · obtain ⟨d, hd, heq⟩ := map_eq_ok.1 h
        cases heq
        exact ⟨Option.not_isSome_iff_eq_none.1 hnone, hd⟩
      · cases h
  · obtain ⟨hnone, hc⟩ := h
    obtain ⟨hfield, hop, -⟩ := Comparison.ofJson_eq_ok.1 hc
    obtain ⟨l, hleft, -, -⟩ := fieldOfJson?_eq_some.1 hfield
    simp [hnone, hop, hleft, hc, Except.map]

/-! ## What is read is consistent -/

theorem Comparison.consistent_of_ofJson {v : Json} {c : Comparison} (h : Comparison.ofJson v = .ok c) :
    c.Consistent := by
  obtain ⟨-, -, htakes⟩ := Comparison.ofJson_eq_ok.1 h
  exact ⟨htakes.kind, htakes.ne_empty⟩

theorem Node.consistent_of_ofJson {n : Node} {v : Json} (h : Node.ofJson v = .ok n) : n.Consistent := by
  induction n using Node.induct generalizing v with
  | leaf c => exact .leaf (Comparison.consistent_of_ofJson (Node.ofJson_eq_leaf.1 h).2)
  | group conjunction children ih =>
    obtain ⟨items, hshape, hall⟩ := Group.ofJson_eq_ok.1 (Node.ofJson_eq_group.1 h)
    refine .group ((ne_nil_iff_of_forall₂ hall).1 hshape.inhabited) fun n hn => ?_
    obtain ⟨i, -, hi⟩ := exists_of_forall₂_right hall hn
    exact ih n hn hi

theorem Group.consistent_of_ofJson {v : Json} {g : Group} (h : Group.ofJson v = .ok g) : g.Consistent :=
  Node.consistent_of_ofJson (Node.ofJson_eq_group.2 h)

end SqlGateway.Condition
