/-
What is asked of a condition tree, and in which order. `groupChecks` lists the checks of a group, each with the error
that it reports: first those of the group itself, then those of its children from left to right, each child's own
children included, and at last that there was a child. `nodeChecks` lists those of a child, which is a group if it has a
`conjunction` and a comparison otherwise. A list holds all checks, whatever comes of the ones before.

`settles_compile`: a value is compiled exactly if all its checks pass, and otherwise its error is that of the first
that does not. `Under.ofJson_eq_error`: an error that is reached on the way down is the error of the whole tree, and
what stands to the right of the way is not looked at.
-/
import SqlGateway.Proofs.Checks
import SqlGateway.Proofs.Condition.Language

namespace SqlGateway.Condition

/-! ## The children of a value -/

/-- the items under `children`, if it is an array -/
def childItems (v : Json) : List Json := ((v.get? "children").bind Json.asArray?).getD []

theorem childItems_eq {v : Json} {items : List Json} (h : v.get? "children" = some (.array items)) :
    childItems v = items := by
  unfold childItems
  rw [h]
  rfl

theorem sizeOf_lt_of_get? {key : String} {v w : Json} (h : v.get? key = some w) : sizeOf w < sizeOf v := by
  cases v with
  | object members =>
    obtain ⟨before, after, rfl, -⟩ := List.lookup_eq_some_iff.1 h
    have hmem : (key, w) ∈ before ++ (key, w) :: after := List.mem_append_right _ List.mem_cons_self
    have hlt := List.sizeOf_lt_of_mem hmem
    simp only [Json.object.sizeOf_spec, Prod.mk.sizeOf_spec] at hlt ⊢
    omega
  | _ => cases h

theorem sizeOf_lt_of_mem_childItems {v item : Json} (h : item ∈ childItems v) : sizeOf item < sizeOf v := by
  unfold childItems at h
  cases hchildren : v.get? "children" with
  | none =>
    rw [hchildren] at h
    exact absurd h List.not_mem_nil
  | some w =>
    rw [hchildren] at h
    have hw := sizeOf_lt_of_get? hchildren
    cases w with
    | array items =>
      have hitem : sizeOf item < sizeOf items := List.sizeOf_lt_of_mem h
      simp only [Json.array.sizeOf_spec] at hw
      omega
    | _ => exact absurd h List.not_mem_nil

/-! ## The checks -/

/-- how a conjunction is reported: a text as it is, any other value in its written form -/
def conjunctionText : Json → String
  | .string name => name
  | v => v.compact

/-- the text under `op`; none counts as the empty text -/
def operatorText (v : Json) : String := ((v.get? "op").bind Json.asString?).getD ""

/-- the left side refers to this field -/
def RefersTo (v : Json) (field : String) : Prop :=
  ∃ l, v.get? "left" = some l ∧ l.get? "type" = some (.string "field") ∧ l.get? "field" = some (.string field)

/-- what is asked of the conjunction of a group -/
def conjunctionChecks (v : Json) : List (Check CompileError) :=
  [⟨(v.get? "conjunction").isSome ∧ (v.get? "children").isSome, .notAGroup⟩,
    ⟨∃ name, ∃ c : Conjunction, v.get? "conjunction" = some (.string name) ∧ c.Named name,
      .invalidConjunction ((v.get? "conjunction").elim "" conjunctionText)⟩]

/-- what is asked of the right side, once the operator is known -/
def rightChecks (v : Json) : List (Check CompileError) :=
  (Operator.ofName? (operatorText v)).toList.map fun op =>
    ⟨IsOperand op.name (v.get? "right"), .invalidRightOperand op⟩

/-- what is asked of a comparison -/
def leafChecks (v : Json) : List (Check CompileError) :=
  ⟨(v.get? "op").isSome ∧ (v.get? "left").isSome, .invalidNode⟩ ::
    ⟨∃ field, RefersTo v field, .invalidLeftOperand⟩ ::
    ⟨∃ op : Operator, op.name = operatorText v, .unknownOperator (operatorText v)⟩ ::
    rightChecks v

mutual

def groupChecks (v : Json) : List (Check CompileError) :=
  conjunctionChecks v ++ ⟨∃ items, v.get? "children" = some (.array items), .notAGroup⟩ ::
    ((childItems v).attach.flatMap (fun item => nodeChecks item.1) ++ [⟨childItems v ≠ [], .emptyGroup⟩])
termination_by (sizeOf v, 0)
decreasing_by exact Prod.Lex.left _ _ (sizeOf_lt_of_mem_childItems item.2)

def nodeChecks (v : Json) : List (Check CompileError) :=
  if (v.get? "conjunction").isSome then groupChecks v else leafChecks v
termination_by (sizeOf v, 1)
decreasing_by exact Prod.Lex.right _ Nat.zero_lt_one

end

theorem groupChecks_eq (v : Json) :
    groupChecks v =
      conjunctionChecks v ++ ⟨∃ items, v.get? "children" = some (.array items), .notAGroup⟩ ::
        ((childItems v).flatMap nodeChecks ++ [⟨childItems v ≠ [], .emptyGroup⟩]) := by
  rw [groupChecks, List.flatMap_subtype (fun _ _ => rfl), List.unattach_attach]

/-! ## Comparisons -/

theorem isOperand_iff {op : Operator} {right : Option Json} :
    IsOperand op.name right ↔ ∃ o, Operand.ofJson? op right = some o := by
  simp only [← exists_operandTexts, operandTexts_iff, Operand.ofJson?_eq_some]
  constructor
  · rintro ⟨_, o, ho, -⟩
    exact ⟨o, ho⟩
  · rintro ⟨o, ho⟩
    exact ⟨_, o, ho, rfl⟩

theorem settles_comparison {v : Json} (h : (v.get? "op").isSome ∧ (v.get? "left").isSome) :
    Settles (leafChecks v) (Comparison.ofJson v) := by
  refine .pass _ h ?_
  unfold Comparison.ofJson rightChecks operatorText
  generalize ((v.get? "op").bind Json.asString?).getD "" = name
  cases hfield : fieldOfJson? (v.get? "left") with
  | none =>
    apply Settles.fail
    rintro ⟨field, hrefers⟩
    exact absurd (hfield.symm.trans (fieldOfJson?_eq_some.2 hrefers)) nofun
  | some field =>
    refine .pass _ ⟨field, fieldOfJson?_eq_some.1 hfield⟩ ?_
    dsimp only
    cases hop : Operator.ofName? name with
    | none =>
      apply Settles.fail
      rintro ⟨op, rfl⟩
      exact absurd (hop.symm.trans (Operator.ofName?_name op)) nofun
    | some op =>
      refine .pass _ ⟨op, (Operator.ofName?_eq_some.1 hop).symm⟩ ?_
      dsimp only [Option.toList_some, List.map_cons, List.map_nil]
      cases hright : Operand.ofJson? op (v.get? "right") with
      | none =>
        apply Settles.fail
        intro hoperand
        obtain ⟨o, ho⟩ := isOperand_iff.1 hoperand
        exact absurd (hright.symm.trans ho) nofun
      | some o => exact .pass _ (isOperand_iff.2 ⟨o, hright⟩) (.nil _)

/-! ## Groups -/

theorem Conjunction.ofJson_eq_error {w : Json} {e : CompileError} (h : Conjunction.ofJson w = .error e) :
    (¬ ∃ name, ∃ c : Conjunction, w = .string name ∧ c.Named name) ∧
      e = .invalidConjunction (conjunctionText w) := by
  constructor
  · rintro ⟨name, c, rfl, hname⟩
    have hok := Conjunction.ofJson_eq_ok.2 ⟨name, rfl, hname⟩
    exact absurd (h.symm.trans hok) nofun
  · cases w with
    | string name =>
      rw [Conjunction.ofJson] at h
      cases hname : Conjunction.ofName? name with
      | some c =>
        rw [hname] at h
        cases h
      | none =>
        rw [hname] at h
        exact (Except.error.inj h).symm
    | _ => exact (Except.error.inj h).symm

theorem settles_conjunction (v : Json) : Settles (conjunctionChecks v) (Conjunction.ofMembers v.members) := by
  unfold conjunctionChecks Conjunction.ofMembers
  simp only [members_lookup]
  cases v.get? "conjunction" with
  | none => exact .fail fun h => absurd h.1 nofun
  | some w =>
    cases v.get? "children" with
    | none => exact .fail fun h => absurd h.2 nofun
    | some _ =>
      refine .pass _ ⟨rfl, rfl⟩ ?_
      simp only [Option.some.injEq, Option.elim_some]
      cases hw : Conjunction.ofJson w with
      | ok c =>
        obtain ⟨name, hname⟩ := Conjunction.ofJson_eq_ok.1 hw
        exact .pass _ ⟨name, c, hname⟩ (.nil c)
      | error e =>
        obtain ⟨hunknown, rfl⟩ := Conjunction.ofJson_eq_error hw
        exact .fail hunknown

/-- the children of a group, if each of them settles its own checks -/
theorem settles_children {v : Json} (h : ∀ item ∈ childItems v, Settles (nodeChecks item) (Node.ofJson item)) :
    Settles (⟨∃ items, v.get? "children" = some (.array items), .notAGroup⟩ :: (childItems v).flatMap nodeChecks)
      (childrenOfMembers v.members) := by
  rw [childrenOfMembers_eq, members_lookup]
  cases hitems : (v.get? "children").bind Json.asArray? with
  | none =>
    apply Settles.fail
    rintro ⟨items, hchildren⟩
    rw [hchildren] at hitems
    cases hitems
  | some items =>
    obtain ⟨w, hw, harray⟩ := Option.bind_eq_some_iff.1 hitems
    obtain rfl := asArray?_eq_some.1 harray
    refine .pass _ ⟨items, hw⟩ ?_
    rw [childItems_eq hw] at h ⊢
    exact .mapM h

theorem settles_make {v : Json} {c : Conjunction} {children : List Node}
    (h : childrenOfMembers v.members = .ok children) :
    Settles [⟨childItems v ≠ [], .emptyGroup⟩] (Group.make c children) := by
  obtain ⟨items, hitems, hall⟩ := childrenOfMembers_eq_ok.1 h
  rw [childItems_eq hitems]
  cases hall with
  | nil => exact .fail fun hne => hne rfl
  | cons => exact .pass _ (List.cons_ne_nil _ _) (.nil _)

theorem settles_group {v : Json} (h : ∀ item ∈ childItems v, Settles (nodeChecks item) (Node.ofJson item)) :
    Settles (groupChecks v) (Group.ofJson v) := by
  rw [groupChecks_eq]
  refine (settles_conjunction v).bind fun c _ => ?_
  exact (settles_children h).bind fun children hchildren => settles_make hchildren

/-- the checks of a node, by induction on its size -/
theorem settles_node (v : Json) : Settles (nodeChecks v) (Node.ofJson v) := by
  rw [nodeChecks, Node.ofJson_eq]
  split
  · exact (settles_group fun item _ => settles_node item).map _
  · by_cases hleaf : (v.get? "op").isSome ∧ (v.get? "left").isSome
    · rw [if_pos (Bool.and_eq_true_iff.2 hleaf)]
      exact (settles_comparison hleaf).map _
    · rw [if_neg (mt Bool.and_eq_true_iff.1 hleaf)]
      exact .fail hleaf
termination_by sizeOf v
decreasing_by exact sizeOf_lt_of_mem_childItems ‹_›

/-- **The checks of a value decide what it is compiled to.** A tree that is read has a text, so the compiler adds no
error of its own. -/
theorem settles_compile (v : Json) : Settles (groupChecks v) (compile v) := by
  apply (settles_group fun item _ => settles_node item).bind_of_ok
  intro g hg
  exact (Group.consistent_of_ofJson hg).exists_sql

/-! ## The way down to an error -/

/-- `item` stands somewhere in the tree of a value: above it are groups, and on the way down to it conjunctions are
known and the children to the left are read; nothing is said of the children to the right -/
inductive Under (item : Json) : Json → Prop
  | child {v : Json} {c : Conjunction} {before after : List Json} :
    GroupShape v c (before ++ item :: after) → (∀ i ∈ before, ∃ n, Node.ofJson i = .ok n) → Under item v
  | deeper {v w : Json} {c : Conjunction} {before after : List Json} :
    GroupShape v c (before ++ w :: after) → (∀ i ∈ before, ∃ n, Node.ofJson i = .ok n) → Under item w → Under item v

theorem passed_of_read {items : List Json} (h : ∀ i ∈ items, ∃ n, Node.ofJson i = .ok n) :
    Passed (items.flatMap nodeChecks) := by
  intro check hcheck
  obtain ⟨item, hitem, hmem⟩ := List.mem_flatMap.1 hcheck
  obtain ⟨n, hn⟩ := h item hitem
  have hsettles := settles_node item
  rw [hn] at hsettles
  exact hsettles.passed check hmem

/-- one level: the first child that is refused refuses the group, with the same error -/
theorem GroupShape.ofJson_eq_error {v item : Json} {c : Conjunction} {before after : List Json} {e : CompileError}
    (hshape : GroupShape v c (before ++ item :: after)) (hbefore : ∀ i ∈ before, ∃ n, Node.ofJson i = .ok n)
    (hitem : Node.ofJson item = .error e) : Group.ofJson v = .error e := by
  obtain ⟨name, hname, hsame⟩ := hshape.named
  have hhead : Passed (conjunctionChecks v) := by
    intro check hcheck
    rcases List.mem_pair.1 hcheck with rfl | rfl
    · exact ⟨Option.isSome_of_eq_some hname, Option.isSome_of_eq_some hshape.children⟩
    · exact ⟨name, c, hname, hsame⟩
  have hitems : FirstFailing ((before ++ item :: after).flatMap nodeChecks) e := by
    rw [List.flatMap_append, List.flatMap_cons]
    have hfirst := (settles_node item).eq_error_iff.1 hitem
    exact .append_right (passed_of_read hbefore) (hfirst.append_left _)
  apply (settles_group fun item _ => settles_node item).eq_error_iff.2
  rw [groupChecks_eq, childItems_eq hshape.children]
  apply FirstFailing.append_right hhead
  apply FirstFailing.cons
  · exact ⟨_, hshape.children⟩
  · exact hitems.append_left _

theorem Under.conjunction_isSome {v item : Json} (h : Under item v) : (v.get? "conjunction").isSome := by
  cases h with
  | child hshape | deeper hshape =>
    obtain ⟨name, hname, -⟩ := hshape.named
    exact Option.isSome_of_eq_some hname

theorem Under.ofJson_eq_error {v item : Json} {e : CompileError} (h : Under item v)
    (hitem : Node.ofJson item = .error e) : Group.ofJson v = .error e := by
  induction h with
  | child hshape hbefore => exact hshape.ofJson_eq_error hbefore hitem
  | deeper hshape hbefore hw ih =>
    apply hshape.ofJson_eq_error hbefore
    rw [Node.ofJson_eq, if_pos hw.conjunction_isSome, ih]
    rfl

end SqlGateway.Condition
