/-
Condition trees and their texts. `Node.induct` is induction over a tree of any depth and width. A tree is consistent
when every group has a child and every operand is what its operator compares with; `exists_sql` gives each consistent
tree a text. A text is put together in one way (`Comparison.sql_eq_ok`, `Node.sql_group`, `Group.sql_eq_ok`): a
comparison in parentheses, the texts of children joined by the group's keyword, a group inside a group in parentheses
again.
-/
import SqlGateway.Condition.Sql
import SqlGateway.Proofs.Traversal

namespace SqlGateway.Condition

/-! ## Induction over trees -/

@[elab_as_elim]
theorem Node.induct {motive : Node → Prop} (leaf : ∀ c, motive (.leaf c))
    (group : ∀ conjunction children, (∀ n ∈ children, motive n) → motive (.group conjunction children)) (n : Node) :
    motive n := by
  refine Node.rec (motive_1 := motive) (motive_2 := fun ns => ∀ n ∈ ns, motive n) leaf group ?_ ?_ n
  · intro n hn
    exact absurd hn List.not_mem_nil
  · intro n ns hn hns m hm
    rcases List.mem_cons.1 hm with rfl | hm
    · exact hn
    · exact hns m hm

mutual

/-- the comparisons of a tree, from left to right -/
def Node.leaves : Node → List Comparison
  | .leaf c => [c]
  | .group _ children => leavesOf children

def leavesOf : List Node → List Comparison
  | [] => []
  | node :: rest => node.leaves ++ leavesOf rest

end

def Group.leaves (g : Group) : List Comparison := leavesOf g.children

theorem mem_leavesOf {c : Comparison} {nodes : List Node} : c ∈ leavesOf nodes ↔ ∃ n ∈ nodes, c ∈ n.leaves := by
  induction nodes with
  | nil => simp [leavesOf]
  | cons node rest ih => simp [leavesOf, ih]

/-- the values of an operand -/
def Operand.texts : Operand → List String
  | absent => []
  | scalar v => [v]
  | range low high => [low, high]
  | set items => items

/-! ## Consistent trees -/

/-- the operand is of the kind that the operator compares with, and a set has an item -/
structure Comparison.Consistent (c : Comparison) : Prop where
  kind : c.right.kind = c.op.operandKind
  inhabited : c.right ≠ .set []

/-- every comparison is consistent and every group has a child -/
inductive Node.Consistent : Node → Prop
  | leaf {c : Comparison} : c.Consistent → Consistent (.leaf c)
  | group {conjunction : Conjunction} {children : List Node} :
    children ≠ [] → (∀ n ∈ children, Consistent n) → Consistent (.group conjunction children)

def Group.Consistent (g : Group) : Prop := g.toNode.Consistent

/-! ## How a text is put together -/

/-- what stands between the children of a group -/
def Conjunction.separator (conjunction : Conjunction) : String := " " ++ conjunction.sql ++ " "

/-- the text of a comparison between its parentheses -/
def Comparison.text (c : Comparison) : String := c.field ++ " " ++ (predicate? c.op c.right).getD ""

/-- `text` is what the children of a group are written as -/
def Joined (conjunction : Conjunction) (children : List Node) (text : String) : Prop :=
  ∃ texts, List.Forall₂ (fun n t => n.sql = .ok t) children texts ∧ texts ≠ [] ∧
    text = conjunction.separator.intercalate texts

theorem intercalate_toList (separator t : String) (texts : List String) :
    (separator.intercalate (t :: texts)).toList = t.toList ++ texts.flatMap fun s => separator.toList ++ s.toList := by
  induction texts generalizing t with
  | nil => simp
  | cons s texts ih => simp [String.intercalate_cons_cons, ih, List.append_assoc]

theorem Comparison.sql_eq_ok {c : Comparison} {t : String} :
    c.sql = .ok t ↔ (predicate? c.op c.right).isSome ∧ t = "(" ++ c.text ++ ")" := by
  unfold Comparison.sql Comparison.text
  cases predicate? c.op c.right with
  | none => simp
  | some p => simp [String.append_assoc, eq_comm]

theorem join_fragments_eq_ok {conjunction : Conjunction} {children : List Node} {t : String} :
    (fragments children >>= conjunction.join) = .ok t ↔ Joined conjunction children t := by
  rw [bind_eq_ok, fragments_eq_mapM]
  unfold Conjunction.join Joined Conjunction.separator
  simp only [mapM_eq_ok]
  refine exists_congr fun texts => and_congr_right fun _ => ?_
  cases texts with
  | nil => simp
  | cons s rest => simp [eq_comm]

theorem Node.sql_leaf (c : Comparison) : (Node.leaf c).sql = c.sql := by
  rw [Node.sql]

theorem Node.sql_group {conjunction : Conjunction} {children : List Node} {t : String} :
    (Node.group conjunction children).sql = .ok t ↔
      ∃ s, Joined conjunction children s ∧ t = "(" ++ s ++ ")" := by
  rw [Node.sql, ← bind_assoc, bind_eq_ok]
  refine exists_congr fun s => and_congr join_fragments_eq_ok ?_
  simp [pure, Except.pure, eq_comm]

theorem Group.sql_eq_ok {g : Group} {t : String} : g.sql = .ok t ↔ Joined g.conjunction g.children t :=
  join_fragments_eq_ok

/-- every child is written in parentheses -/
theorem Node.exists_paren_of_sql {n : Node} {t : String} (h : n.sql = .ok t) : ∃ s, t = "(" ++ s ++ ")" := by
  cases n with
  | leaf c => exact ⟨c.text, (Comparison.sql_eq_ok.1 (Node.sql_leaf c ▸ h)).2⟩
  | group conjunction children =>
    obtain ⟨s, -, ht⟩ := Node.sql_group.1 h
    exact ⟨s, ht⟩

theorem Joined.ne_empty {conjunction : Conjunction} {children : List Node} {t : String}
    (h : Joined conjunction children t) : t ≠ "" := by
  obtain ⟨texts, hall, hne, rfl⟩ := h
  cases hall with
  | nil => exact absurd rfl hne
  | cons hfirst _ =>
    obtain ⟨s, rfl⟩ := Node.exists_paren_of_sql hfirst
    intro hempty
    have := congrArg String.toList hempty
    rw [intercalate_toList] at this
    simp at this

/-! ## Consistent trees have texts -/

theorem predicate?_isSome {op : Operator} {right : Operand} (h : right.kind = op.operandKind) :
    (predicate? op right).isSome := by
  cases op <;> cases right <;> first | rfl | cases h

theorem Comparison.Consistent.sql {c : Comparison} (h : c.Consistent) : c.sql = .ok ("(" ++ c.text ++ ")") :=
  Comparison.sql_eq_ok.2 ⟨predicate?_isSome h.kind, rfl⟩

theorem exists_joined {conjunction : Conjunction} {children : List Node} (hne : children ≠ [])
    (h : ∀ n ∈ children, ∃ t, n.sql = .ok t) : ∃ t, Joined conjunction children t := by
  obtain ⟨texts, htexts⟩ := exists_forall₂ h
  exact ⟨_, texts, htexts, (ne_nil_iff_of_forall₂ htexts).1 hne, rfl⟩

theorem Node.Consistent.exists_sql {n : Node} (h : n.Consistent) : ∃ t, n.sql = .ok t := by
  induction h with
  | leaf hc => exact ⟨_, (Node.sql_leaf _).trans hc.sql⟩
  | group hne _ ih =>
    obtain ⟨s, hs⟩ := exists_joined hne ih
    exact ⟨_, Node.sql_group.2 ⟨s, hs, rfl⟩⟩

theorem Group.Consistent.exists_sql {g : Group} (h : g.Consistent) : ∃ t, g.sql = .ok t := by
  cases h with
  | group hne hall =>
    obtain ⟨t, ht⟩ := exists_joined hne fun n hn => (hall n hn).exists_sql
    exact ⟨t, Group.sql_eq_ok.2 ht⟩

end SqlGateway.Condition
