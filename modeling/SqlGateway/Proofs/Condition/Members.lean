/-
The members that a condition tree is read from. `SameDocumented v w`: two request values have the same under the members
of a condition tree, at every depth. A node with a `conjunction` is compared by it and by its `children`, any other node
by `op`, by `left` and by `right`. A keyword may be spelled differently, of `left` only the `type` and the `field` count,
and `right` does not count beside an operator that compares with nothing. Members of other names do not count, nor does
the order of members.

`compile_eq_of_sameDocumented`: nothing else decides what a value is compiled to, nor why it is refused.
-/
import SqlGateway.Proofs.Condition.Language

namespace SqlGateway.Condition

/-! ## The same members -/

/-- the same value under `conjunction`, or two spellings of one keyword -/
inductive SameConjunction (v w : Json) : Prop
  | same {c : Json} : v.get? "conjunction" = some c → w.get? "conjunction" = some c → SameConjunction v w
  | spelled {conjunction : Conjunction} {name name' : String} :
    v.get? "conjunction" = some (.string name) → w.get? "conjunction" = some (.string name') →
      conjunction.Named name → conjunction.Named name' → SameConjunction v w

/-- references to the same field of the same type -/
structure SameReference (l m : Json) : Prop where
  type : l.get? "type" = m.get? "type"
  field : l.get? "field" = m.get? "field"

/-- the members of a comparison coincide -/
structure SameComparison (v w : Json) : Prop where
  op : v.get? "op" = w.get? "op"
  left : Option.Rel SameReference (v.get? "left") (w.get? "left")
  right : v.get? "right" = w.get? "right" ∨ ∃ name ∈ ["is_empty", "is_not_empty"], v.get? "op" = some (.string name)

/-- the members of a condition tree coincide, at every depth -/
inductive SameDocumented : Json → Json → Prop
  | comparison {v w : Json} :
    v.get? "conjunction" = none → w.get? "conjunction" = none → SameComparison v w → SameDocumented v w
  | unchanged {v w : Json} : SameConjunction v w → v.get? "children" = w.get? "children" → SameDocumented v w
  | children {v w : Json} {vs ws : List Json} :
    SameConjunction v w → v.get? "children" = some (.array vs) → w.get? "children" = some (.array ws) →
      vs.length = ws.length → (∀ p ∈ vs.zip ws, SameDocumented p.1 p.2) → SameDocumented v w

theorem SameDocumented.of_forall₂ {v w : Json} {vs ws : List Json} (hconjunction : SameConjunction v w)
    (hv : v.get? "children" = some (.array vs)) (hw : w.get? "children" = some (.array ws))
    (hall : List.Forall₂ SameDocumented vs ws) : SameDocumented v w := by
  obtain ⟨hlength, hzip⟩ := List.forall₂_iff_zip.1 hall
  exact .children hconjunction hv hw hlength fun p hp => hzip hp

/-- values that have the same under every key of a condition tree -/
theorem SameDocumented.of_get? {v w : Json}
    (h : ∀ key ∈ ["conjunction", "children", "op", "left", "right"], v.get? key = w.get? key) : SameDocumented v w := by
  have hconjunction := h "conjunction" (by simp)
  cases hw : w.get? "conjunction" with
  | some c => exact .unchanged (.same (hconjunction.trans hw) hw) (h "children" (by simp))
  | none =>
    have hleft : Option.Rel SameReference (v.get? "left") (w.get? "left") := by
      rw [h "left" (by simp)]
      cases w.get? "left" with
      | none => exact .none
      | some l => exact .some ⟨rfl, rfl⟩
    exact .comparison (hconjunction.trans hw) hw ⟨h "op" (by simp), hleft, .inl (h "right" (by simp))⟩

/-! ## What is read of them -/

theorem SameConjunction.map_ofJson {v w : Json} (h : SameConjunction v w) :
    (v.get? "conjunction").map Conjunction.ofJson = (w.get? "conjunction").map Conjunction.ofJson := by
  cases h with
  | same hv hw => rw [hv, hw]
  | spelled hv hw hname hname' =>
    have hc := Conjunction.ofJson_eq_ok.2 ⟨_, rfl, hname⟩
    have hc' := Conjunction.ofJson_eq_ok.2 ⟨_, rfl, hname'⟩
    rw [hv, hw, Option.map_some, Option.map_some, hc, hc']

theorem SameConjunction.isSome {v w : Json} (h : SameConjunction v w) :
    (v.get? "conjunction").isSome ∧ (w.get? "conjunction").isSome := by
  cases h with
  | same hv hw | spelled hv hw => exact ⟨Option.isSome_of_eq_some hv, Option.isSome_of_eq_some hw⟩

theorem fieldOfJson?_eq_of_rel {l m : Option Json} (h : Option.Rel SameReference l m) :
    fieldOfJson? l = fieldOfJson? m := by
  cases h with
  | none => rfl
  | some hreference => rw [fieldOfJson?_some, fieldOfJson?_some, hreference.type, hreference.field]

/-- an operator that compares with nothing takes no notice of what stands on the right -/
theorem Operand.ofJson?_of_absent {op : Operator} (hkind : op.operandKind = .absent) (right : Option Json) :
    Operand.ofJson? op right = some .absent :=
  Operand.ofJson?_eq_some.2 (.absent hkind)

theorem SameComparison.ofJson_eq {v w : Json} (h : SameComparison v w) : Comparison.ofJson v = Comparison.ofJson w := by
  unfold Comparison.ofJson
  rw [fieldOfJson?_eq_of_rel h.left, ← h.op]
  rcases h.right with hright | ⟨name, hname, hop⟩
  · rw [hright]
  · have habsent : name ∈ operatorNames .absent := hname
    obtain ⟨op, rfl, hkind⟩ := mem_operatorNames.1 habsent
    have hoperator : Operator.ofName? (((v.get? "op").bind Json.asString?).getD "") = some op := by
      rw [opName_eq_name.2 hop, Operator.ofName?_name]
    simp only [hoperator, Operand.ofJson?_of_absent hkind]

theorem Group.ofJson_congr {v w : Json} (hconjunction : SameConjunction v w)
    (hpresent : (v.get? "children").isSome = (w.get? "children").isSome)
    (hchildren : childrenOfMembers v.members = childrenOfMembers w.members) : Group.ofJson v = Group.ofJson w := by
  unfold Group.ofJson
  rw [Conjunction.ofMembers_congr hconjunction.map_ofJson hpresent, hchildren]

/-- without a conjunction a value is no group, whatever else it has -/
theorem Group.ofJson_of_none {v : Json} (h : v.get? "conjunction" = none) : Group.ofJson v = .error .notAGroup := by
  unfold Group.ofJson Conjunction.ofMembers
  rw [members_lookup, h]
  rfl

theorem SameConjunction.node_eq {v w : Json} (h : SameConjunction v w) (hgroup : Group.ofJson v = Group.ofJson w) :
    Node.ofJson v = Node.ofJson w := by
  rw [Node.ofJson_eq, Node.ofJson_eq, if_pos h.isSome.1, if_pos h.isSome.2, hgroup]

theorem SameComparison.node_eq {v w : Json} (h : SameComparison v w) (hv : v.get? "conjunction" = none)
    (hw : w.get? "conjunction" = none) : Node.ofJson v = Node.ofJson w := by
  have hleft : (v.get? "left").isSome = (w.get? "left").isSome := by
    have hrel := h.left
    generalize v.get? "left" = l, w.get? "left" = m at hrel ⊢
    cases hrel <;> rfl
  rw [Node.ofJson_eq, Node.ofJson_eq, hv, hw, h.op, hleft, h.ofJson_eq]
  rfl

/-- both as a whole tree and as a node of one, by induction on the depth to which members are compared -/
theorem SameDocumented.ofJson_eq {v w : Json} (h : SameDocumented v w) :
    Group.ofJson v = Group.ofJson w ∧ Node.ofJson v = Node.ofJson w := by
  induction h with
  | comparison hv hw hcomparison =>
    exact ⟨(Group.ofJson_of_none hv).trans (Group.ofJson_of_none hw).symm, hcomparison.node_eq hv hw⟩
  | unchanged hconjunction hchildren =>
    have hgroup := Group.ofJson_congr hconjunction (congrArg _ hchildren) (childrenOfMembers_congr hchildren)
    exact ⟨hgroup, hconjunction.node_eq hgroup⟩
  | @children v w vs ws hconjunction hv hw hlength _ ih =>
    have hnodes : List.Forall₂ (fun a b => Node.ofJson a = Node.ofJson b) vs ws :=
      List.forall₂_iff_zip.2 ⟨hlength, fun hp => (ih _ hp).2⟩
    have hchildren : childrenOfMembers v.members = childrenOfMembers w.members := by
      simp only [childrenOfMembers_eq, members_lookup, hv, hw, Option.bind_some, Json.asArray?]
      exact mapM_eq_of_forall₂ hnodes
    have hgroup := Group.ofJson_congr hconjunction (by rw [hv, hw]; rfl) hchildren
    exact ⟨hgroup, hconjunction.node_eq hgroup⟩

/-! ## Main result -/

/-- **Only the documented members count.** Two values that have the same under the members of a condition tree, at every
depth, are compiled to the same text, or refused with the same error. -/
theorem compile_eq_of_sameDocumented {v w : Json} (h : SameDocumented v w) : compile v = compile w := by
  unfold compile
  rw [h.ofJson_eq.1]

/-- a group inside a group, with members in one order and keywords in one case -/
def plainTree : Json :=
  .object [("conjunction", .string "and"), ("children", .array
    [.object [("op", .string "is_empty"), ("left", .object [("type", .string "field"), ("field", .string "email")])],
      .object [("conjunction", .string "OR"), ("children", .array
        [.object [("op", .string "less"), ("left", .object [("type", .string "field"), ("field", .string "age")]),
          ("right", .natural 5)]])]])]

/-- the same tree with members that do not count: beside each of those that do, and under `right` where nothing is
compared; the order and the case are different -/
def dressedTree : Json :=
  .object [("children", .array
    [.object [("right", .array [.null]), ("children", .array []),
        ("left", .object [("note", .null), ("field", .string "email"), ("type", .string "field")]),
        ("op", .string "is_empty")],
      .object [("op", .string "no such operator"), ("left", .null), ("children", .array
        [.object [("id", .natural 1), ("right", .natural 5), ("op", .string "less"),
          ("left", .object [("type", .string "field"), ("field", .string "age")])]]), ("conjunction", .string "oR")]]),
    ("id", .natural 0), ("conjunction", .string "And")]

theorem dressedTree_compiled : SameDocumented plainTree dressedTree ∧
    compile plainTree = compile dressedTree ∧ compile dressedTree = .ok "(email IS NULL) AND ((age < \"5\"))" := by
  have hcomparison : SameDocumented (.object [("op", .string "is_empty"),
        ("left", .object [("type", .string "field"), ("field", .string "email")])])
      (.object [("right", .array [.null]), ("children", .array []),
        ("left", .object [("note", .null), ("field", .string "email"), ("type", .string "field")]),
        ("op", .string "is_empty")]) :=
    .comparison rfl rfl ⟨rfl, .some ⟨rfl, rfl⟩, .inr ⟨_, List.mem_cons_self, rfl⟩⟩
  have hsame : SameDocumented plainTree dressedTree := by
    apply SameDocumented.of_forall₂ (.spelled rfl rfl (.and (by decide)) (.and (by decide))) rfl rfl
    refine .cons hcomparison (.cons ?_ .nil)
    apply SameDocumented.of_forall₂ (.spelled rfl rfl (.or (by decide)) (.or (by decide))) rfl rfl
    exact .cons (.of_get? (by decide)) .nil
  exact ⟨hsame, compile_eq_of_sameDocumented hsame, rfl⟩

end SqlGateway.Condition
