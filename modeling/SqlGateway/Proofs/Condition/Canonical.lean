/-
Which trees a request can bring. `Group.toJson` writes a tree as a request would carry it: the conjunction by its
keyword, the children in their order, a comparison by its operator's name, its field and the values of its operand as
texts. `ofJson_ok_iff_consistent`: the trees that are read out of request values are the consistent ones, no others
and all of them, and each is read out of its own request value.
-/
import SqlGateway.Proofs.Condition.OfJson

namespace SqlGateway.Condition

/-! ## Trees as request values -/

/-- the member that an operand is written as; where there is nothing to compare with, there is none -/
def Operand.members : Operand → List (String × Json)
  | absent => []
  | scalar v => [("right", .string v)]
  | range low high => [("right", .array [.string low, .string high])]
  | set items => [("right", .array (items.map .string))]

def Comparison.toJson (c : Comparison) : Json :=
  .object (("op", .string c.op.name) :: ("left", .object [("type", .string "field"), ("field", .string c.field)]) ::
    c.right.members)

/-- a group of request values -/
def groupJson (conjunction : Conjunction) (items : List Json) : Json :=
  .object [("conjunction", .string conjunction.sql), ("children", .array items)]

mutual

def Node.toJson : Node → Json
  | .leaf c => c.toJson
  | .group conjunction children => groupJson conjunction (itemsOf children)

/-- the request value of each child -/
def itemsOf : List Node → List Json
  | [] => []
  | node :: rest => node.toJson :: itemsOf rest

end

def Group.toJson (g : Group) : Json := g.toNode.toJson

/-! ## Reading them back -/

theorem scalarTexts_of_strings (items : List String) :
    List.Forall₂ (fun i t => Json.scalarText? i = some t) (items.map Json.string) items := by
  rw [List.forall₂_map_left_iff, List.forall₂_same]
  intro t _
  rfl

theorem Comparison.get?_left (c : Comparison) :
    c.toJson.get? "left" = some (.object [("type", .string "field"), ("field", .string c.field)]) := rfl

theorem Comparison.get?_op (c : Comparison) : c.toJson.get? "op" = some (.string c.op.name) := rfl

theorem Comparison.get?_conjunction (c : Comparison) : c.toJson.get? "conjunction" = none := by
  obtain ⟨field, op, right⟩ := c
  cases right <;> rfl

/-- the operand is taken back from where it is written -/
theorem Comparison.Consistent.takes {c : Comparison} (h : c.Consistent) :
    Operand.Takes c.op (c.toJson.get? "right") c.right := by
  obtain ⟨field, op, right⟩ := c
  have hkind : right.kind = op.operandKind := h.kind
  have hne : right ≠ .set [] := h.inhabited
  cases right with
  | absent => exact .absent hkind.symm
  | scalar v => exact .scalar hkind.symm rfl
  | range low high => exact .range hkind.symm rfl rfl
  | set items =>
    refine .set hkind.symm ?_ (scalarTexts_of_strings items)
    intro hnil
    rw [List.map_eq_nil_iff.1 hnil] at hne
    exact hne rfl

theorem Comparison.Consistent.ofJson_toJson {c : Comparison} (h : c.Consistent) : Comparison.ofJson c.toJson = .ok c := by
  have hfield : fieldOfJson? (c.toJson.get? "left") = some c.field :=
    fieldOfJson?_eq_some.2 ⟨_, c.get?_left, rfl, rfl⟩
  exact Comparison.ofJson_eq_ok.2 ⟨hfield, c.get?_op, h.takes⟩

theorem groupShape_groupJson (conjunction : Conjunction) {items : List Json} (hne : items ≠ []) :
    GroupShape (groupJson conjunction items) conjunction items := by
  refine ⟨⟨conjunction.sql, rfl, ?_⟩, rfl, hne⟩
  cases conjunction with
  | and => exact .and rfl
  | or => exact .or rfl

theorem itemsOf_ne_nil {children : List Node} (hne : children ≠ []) : itemsOf children ≠ [] := by
  cases children with
  | nil => exact absurd rfl hne
  | cons node rest => exact List.cons_ne_nil _ _

/-- children that come back one by one come back as a list -/
theorem forall₂_itemsOf {children : List Node} (h : ∀ n ∈ children, Node.ofJson n.toJson = .ok n) :
    List.Forall₂ (fun i n => Node.ofJson i = .ok n) (itemsOf children) children := by
  induction children with
  | nil => exact .nil
  | cons node rest ih =>
    obtain ⟨hfirst, hrest⟩ := List.forall_mem_cons.1 h
    exact .cons hfirst (ih hrest)

theorem Node.Consistent.ofJson_toJson {n : Node} (h : n.Consistent) : Node.ofJson n.toJson = .ok n := by
  induction h with
  | @leaf c hc => exact Node.ofJson_eq_leaf.2 ⟨c.get?_conjunction, hc.ofJson_toJson⟩
  | @group conjunction children hne _ ih =>
    have hshape := groupShape_groupJson conjunction (itemsOf_ne_nil hne)
    apply Node.ofJson_eq_group.2
    exact Group.ofJson_eq_ok.2 ⟨_, hshape, forall₂_itemsOf ih⟩

theorem Group.Consistent.ofJson_toJson {g : Group} (h : g.Consistent) : Group.ofJson g.toJson = .ok g :=
  Node.ofJson_eq_group.1 (Node.Consistent.ofJson_toJson h)

/-! ## Main result -/

/-- **Exactly the consistent trees are read.** At every depth of a tree that is read each group has a child, each
operand is of the kind that its operator compares with, and no set is empty; and a tree of which this holds is read
out of its own request value. -/
theorem ofJson_ok_iff_consistent (g : Group) :
    ((∃ v, Group.ofJson v = .ok g) ↔ g.Consistent) ∧ (Group.ofJson g.toJson = .ok g ↔ g.Consistent) := by
  have hsound : ∀ v, Group.ofJson v = .ok g → g.Consistent := fun v h => Group.consistent_of_ofJson h
  refine ⟨⟨?_, ?_⟩, ?_, ?_⟩
  · rintro ⟨v, hv⟩
    exact hsound v hv
  · intro hg
    exact ⟨g.toJson, hg.ofJson_toJson⟩
  · exact hsound g.toJson
  · exact Group.Consistent.ofJson_toJson

/-- a range, a set and an operator without an operand, at two depths -/
example :
    Group.ofJson (Group.toJson ⟨.or, [.leaf ⟨"a", .notBetween, .range "" "x"⟩,
      .group .and [.leaf ⟨"b", .isEmpty, .absent⟩, .leaf ⟨"", .selectAnyIn, .set ["\""]⟩]]⟩) =
      .ok ⟨.or, [.leaf ⟨"a", .notBetween, .range "" "x"⟩,
        .group .and [.leaf ⟨"b", .isEmpty, .absent⟩, .leaf ⟨"", .selectAnyIn, .set ["\""]⟩]]⟩ := by
  rfl

end SqlGateway.Condition
