/-
Which trees have a text. A tree need not come out of a request: then a group may lack children, and a comparison may have
any operand. `Node.parts` lists a tree and all trees inside it in document order, a group before its children, and
`Node.check` says what is asked of each of them alone: a group must have a child, a comparison an operand that its
operator is written with (`Operator.Fits`).

- `Node.settles_sql`: a tree has a text if each of its parts passes, and else fails with the error of the first that
  does not.
- `sql_defined_by_parts`: this for whole conditions, whose texts are never empty.
-/
import SqlGateway.Proofs.Checks
import SqlGateway.Proofs.Condition.Tree

namespace SqlGateway.Condition

/-! ## What is asked of each part -/

/-- the operands that an operator is written with: to compare with nothing, any will do -/
def Operator.Fits (op : Operator) (right : Operand) : Prop :=
  match op with
  | isEmpty | isNotEmpty => True
  | between | notBetween => right.kind = .range
  | selectAnyIn | selectNotAnyIn => right.kind = .set
  | equal | selectEquals | notEqual | selectNotEquals | less | lessOrEqual | greater | greaterOrEqual | like | notLike
  | startsWith | endsWith => right.kind = .scalar

/-- what is asked of a part of a tree, its children apart -/
def Node.check : Node → Check CompileError
  | .leaf c => ⟨c.op.Fits c.right, .invalidRightOperand c.op⟩
  | .group _ children => ⟨children ≠ [], .emptyGroup⟩

mutual

/-- the tree and all trees inside it, in document order -/
def Node.parts : Node → List Node
  | .leaf c => [.leaf c]
  | .group conjunction children => .group conjunction children :: partsOf children

def partsOf : List Node → List Node
  | [] => []
  | node :: rest => node.parts ++ partsOf rest

end

def Group.parts (g : Group) : List Node := g.toNode.parts

theorem partsOf_eq_flatMap (nodes : List Node) : partsOf nodes = nodes.flatMap Node.parts := by
  induction nodes with
  | nil => rfl
  | cons node rest ih => rw [partsOf, ih, List.flatMap_cons]

/-! ## Texts and errors -/

theorem predicate?_isSome_iff {op : Operator} {right : Operand} : (predicate? op right).isSome ↔ op.Fits right := by
  cases op <;> cases right <;> simp [predicate?, Operator.Fits, Operand.kind]

theorem Comparison.settles_sql (c : Comparison) : Settles [(Node.leaf c).check] c.sql := by
  unfold Comparison.sql
  rw [Node.check, ← predicate?_isSome_iff]
  cases predicate? c.op c.right with
  | none => exact .fail Bool.false_ne_true
  | some p => exact .pass _ rfl (.nil _)

theorem settles_fragments {nodes : List Node} (h : ∀ n ∈ nodes, Settles (n.parts.map Node.check) n.sql) :
    Settles ((partsOf nodes).map Node.check) (fragments nodes) := by
  rw [partsOf_eq_flatMap, List.map_flatMap, fragments_eq_mapM]
  exact .mapM h

/-- a group that has children is asked nothing more than they are -/
theorem settles_join {conjunction : Conjunction} {children : List Node}
    (h : ∀ n ∈ children, Settles (n.parts.map Node.check) n.sql) :
    Settles ((Node.group conjunction children).parts.map Node.check) (fragments children >>= conjunction.join) := by
  rw [Node.parts, List.map_cons]
  by_cases hchildren : children = []
  · subst hchildren
    exact .fail fun hne => hne rfl
  · refine .pass _ hchildren ?_
    apply (settles_fragments h).bind_of_ok
    intro texts htexts
    have hall := mapM_eq_ok.1 (fragments_eq_mapM children ▸ htexts)
    have hne : texts ≠ [] := (ne_nil_iff_of_forall₂ hall).1 hchildren
    exact ⟨_, if_neg (mt List.isEmpty_iff.1 hne)⟩

/-- **A tree is written out unless a part of it cannot be.** By induction on the tree: its own check comes first, then
those of its children from left to right. -/
theorem Node.settles_sql (n : Node) : Settles (n.parts.map Node.check) n.sql := by
  induction n using Node.induct with
  | leaf c =>
    rw [Node.sql_leaf]
    exact c.settles_sql
  | group conjunction children ih =>
    rw [Node.sql, ← bind_assoc]
    exact (settles_join ih).bind_of_ok fun text _ => ⟨"(" ++ text ++ ")", rfl⟩

theorem Group.settles_sql (g : Group) : Settles (g.parts.map Node.check) g.sql :=
  settles_join fun n _ => n.settles_sql

/-! ## Main result -/

theorem passed_parts_iff {g : Group} :
    Passed (g.parts.map Node.check) ↔
      (∀ conjunction children, .group conjunction children ∈ g.parts → children ≠ []) ∧
        ∀ c : Comparison, .leaf c ∈ g.parts → c.op.Fits c.right := by
  constructor
  · intro h
    have hpart : ∀ n ∈ g.parts, n.check.passes := fun n hn => h _ (List.mem_map_of_mem hn)
    exact ⟨fun _ _ hn => hpart _ hn, fun _ hn => hpart _ hn⟩
  · intro ⟨hgroups, hleaves⟩ check hcheck
    obtain ⟨n, hn, rfl⟩ := List.mem_map.1 hcheck
    cases n with
    | leaf c => exact hleaves c hn
    | group conjunction children => exact hgroups conjunction children hn

/-- **The trees that have a text, and the error of every other.** A tree has a text exactly if each group in it has a
child and each comparison an operand that its operator is written with. Otherwise the error is that of the first part,
in document order, of which this does not hold. A text is never empty. -/
theorem sql_defined_by_parts (g : Group) :
    ((∃ text, g.sql = .ok text) ↔
      (∀ conjunction children, .group conjunction children ∈ g.parts → children ≠ []) ∧
        ∀ c : Comparison, .leaf c ∈ g.parts → c.op.Fits c.right) ∧
    (∀ e, g.sql = .error e ↔ FirstFailing (g.parts.map Node.check) e) ∧
    g.sql ≠ .ok "" := by
  refine ⟨?_, fun e => g.settles_sql.eq_error_iff, ?_⟩
  · rw [← passed_parts_iff]
    exact g.settles_sql.exists_ok_iff
  · intro hempty
    exact (Group.sql_eq_ok.1 hempty).ne_empty rfl

/-- a set without items has a text, and so has an operator that needs no operand beside one; the first error is inside
the first group, before the group without children -/
example :
    Group.sql ⟨.or, [.leaf ⟨"a", .selectAnyIn, .set []⟩, .leaf ⟨"b", .isEmpty, .scalar "x"⟩]⟩ =
        .ok "(a IN ()) OR (b IS NULL)" ∧
      Group.sql ⟨.or, [.group .and [.leaf ⟨"a", .between, .scalar "1"⟩], .group .and []]⟩ =
        .error (.invalidRightOperand .between) := by
  constructor <;> rfl

end SqlGateway.Condition
