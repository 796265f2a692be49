/-
What a written condition tree means. `Node.holds` is the value of a tree read directly: an AND group holds when all its
children do, an OR group when one does. `sql_means_tree`: the text of a tree out of a request, read as SQL, is an
expression with the tree's value, whatever the truth of its comparisons.

The premises are on texts only, since names and values are written as they are: a field is a name (`IsName`), a value
holds neither a double quote nor a backslash (`IsPlain`). Values may hold parentheses, commas and keywords.

The invariant is `Reads`: at any depth, with anything behind it, a child's text is taken up as one factor.
-/
import SqlGateway.Proofs.Condition.Formula
import SqlGateway.Proofs.Condition.OfJson

namespace SqlGateway.Condition

/-! ## The value of a tree -/

mutual

/-- the value of a tree when comparisons have these truth values -/
def Node.holds (truth : String → Bool) : Node → Bool
  | .leaf c => truth c.text
  | .group .and children => allHold truth children
  | .group .or children => someHolds truth children

def allHold (truth : String → Bool) : List Node → Bool
  | [] => true
  | node :: rest => node.holds truth && allHold truth rest

def someHolds (truth : String → Bool) : List Node → Bool
  | [] => false
  | node :: rest => node.holds truth || someHolds truth rest

end

def Group.holds (truth : String → Bool) (g : Group) : Bool := g.toNode.holds truth

/-- how a group takes one child more into account -/
def Conjunction.combine : Conjunction → Bool → Bool → Bool
  | and => Bool.and
  | or => Bool.or

/-! ## Texts that stay where they are put -/

/-- no blank, parenthesis or double quote -/
def IsName (s : String) : Prop := ' ' ∉ s.toList ∧ '(' ∉ s.toList ∧ ')' ∉ s.toList ∧ '"' ∉ s.toList

/-- neither a double quote nor a backslash -/
def IsPlain (s : String) : Prop := '"' ∉ s.toList ∧ '\\' ∉ s.toList

/-- a field that is a name, and plain values -/
def Comparison.Tame (c : Comparison) : Prop := IsName c.field ∧ ∀ v ∈ c.right.texts, IsPlain v

instance (s : String) : Decidable (IsName s) := by unfold IsName; infer_instance

instance (s : String) : Decidable (IsPlain s) := by unfold IsPlain; infer_instance

instance (c : Comparison) : Decidable c.Tame := by unfold Comparison.Tame; infer_instance

theorem IsPlain.append {s t : String} (hs : IsPlain s) (ht : IsPlain t) : IsPlain (s ++ t) := by
  simp only [IsPlain, String.toList_append, List.mem_append, not_or]
  exact ⟨⟨hs.1, ht.1⟩, hs.2, ht.2⟩

theorem IsName.chars {s : String} (h : IsName s) : ∀ c ∈ s.toList, Formula.isNameChar c = true := by
  intro c hc
  obtain ⟨h1, h2, h3, h4⟩ := h
  simp only [Formula.isNameChar, Bool.not_eq_true', List.contains_eq_mem, decide_eq_false_iff_not, List.mem_cons,
    List.not_mem_nil, or_false, not_or]
  refine ⟨?_, ?_, ?_, ?_⟩ <;> rintro rfl <;> contradiction

/-! ## Reading an operand -/

namespace Formula

theorem afterQuote?_plain {v : List Char} (hq : '"' ∉ v) (hb : '\\' ∉ v) (rest : List Char) :
    afterQuote? (v ++ '"' :: rest) = some rest := by
  induction v with
  | nil => rfl
  | cons c v ih =>
    simp only [List.mem_cons, not_or] at hq hb
    rw [List.cons_append, afterQuote?]
    · exact ih hq.2 hb.2
    · rintro rfl
      exact hq.1 rfl
    · rintro d ds rfl
      exact fun _ => hb.1 rfl

theorem afterLiteral?_quote {v : String} (h : IsPlain v) (rest : List Char) :
    afterLiteral? ((quote v).toList ++ rest) = some rest := by
  have : (quote v).toList ++ rest = '"' :: (v.toList ++ '"' :: rest) := by simp [quote]
  rw [this]
  exact afterQuote?_plain h.1 h.2 rest

theorem afterItems?_quotes {v : String} {items : List String} (h : ∀ w ∈ v :: items, IsPlain w) (rest : List Char) :
    afterItems? ((",".intercalate ((v :: items).map quote)).toList ++ ')' :: rest) = some rest := by
  induction items generalizing v with
  | nil =>
    have hv := afterLiteral?_quote (h v List.mem_cons_self) (')' :: rest)
    rw [List.map_singleton, String.intercalate_singleton, afterItems?, hv]
    rfl
  | cons w items ih =>
    have hw := ih fun u hu => h u (List.mem_cons_of_mem _ hu)
    set tail := (",".intercalate ((w :: items).map quote)).toList ++ ')' :: rest with htail
    have hsplit : (",".intercalate ((v :: w :: items).map quote)).toList ++ ')' :: rest =
        (quote v).toList ++ ',' :: tail := by
      rw [htail, List.map_cons, List.map_cons, String.intercalate_cons_cons]
      simp
    have hv := afterLiteral?_quote (h v List.mem_cons_self) (',' :: tail)
    rw [hsplit, afterItems?, hv]
    simp only
    rw [dif_pos (by simp; omega), hw]

/-- how an operand is written: a value alone or with a percent sign at one end, two with AND between them, or a list -/
inductive Written : Operand → String → Prop
  | absent : Written .absent ""
  | scalar {v : String} : Written (.scalar v) (quote v)
  | opening {v : String} : Written (.scalar v) (quote (v ++ "%"))
  | closing {v : String} : Written (.scalar v) (quote ("%" ++ v))
  | range {low high : String} : Written (.range low high) (quote low ++ " AND " ++ quote high)
  | set {items : List String} : Written (.set items) (",".intercalate (items.map quote) ++ ")")

theorem Written.afterOperand? {right : Operand} {t : String} (h : Written right t) (hne : right ≠ .set [])
    (hplain : ∀ v ∈ right.texts, IsPlain v) (rest : List Char) :
    Formula.afterOperand? right.kind (t.toList ++ rest) = some rest := by
  have hpercent : IsPlain "%" := by decide
  cases h with
  | absent => rfl
  | scalar => exact afterLiteral?_quote (hplain _ List.mem_cons_self) rest
  | opening => exact afterLiteral?_quote ((hplain _ List.mem_cons_self).append hpercent) rest
  | closing => exact afterLiteral?_quote (hpercent.append (hplain _ List.mem_cons_self)) rest
  | @range low high =>
    have hlow := afterLiteral?_quote (hplain low List.mem_cons_self) (" AND ".toList ++ ((quote high).toList ++ rest))
    have hhigh := afterLiteral?_quote (hplain high (List.mem_cons_of_mem _ List.mem_cons_self)) rest
    simp only [String.toList_append, List.append_assoc] at hlow ⊢
    simp only [Operand.kind, Formula.afterOperand?, hlow, Option.bind_eq_bind, Option.bind_some]
    rw [List.isPrefixOf?_eq_some_iff_append_eq.2 rfl]
    exact hhigh
  | @set items =>
    cases items with
    | nil => exact absurd rfl hne
    | cons v items =>
      rw [String.toList_append, List.append_assoc]
      exact afterItems?_quotes hplain rest

/-! ## Reading a comparison -/

theorem operators_prefixFree : ∀ p ∈ operators, ∀ q ∈ operators, q.1.toList <+: p.1.toList → q = p := by
  decide

theorem findSome?_unique {α β : Type} {f : α → Option β} {l : List α} {a : α} (ha : a ∈ l)
    (hf : ∀ b ∈ l, b ≠ a → f b = none) : l.findSome? f = f a := by
  cases hl : l.findSome? f with
  | none => exact (List.findSome?_eq_none_iff.1 hl a ha).symm
  | some y =>
    obtain ⟨b, hb, hfb⟩ := List.exists_of_findSome?_eq_some hl
    by_cases hba : b = a
    · rw [← hba, hfb]
    · exact absurd (hfb.symm.trans (hf b hb hba)) nofun

/-- no operator begins with another one, so the operator that is written is the one that is read -/
theorem afterPredicate?_operator {p : String × OperandKind} (hp : p ∈ operators) (cs : List Char) :
    afterPredicate? (p.1.toList ++ cs) = afterOperand? p.2 cs := by
  have hself : p.1.toList.isPrefixOf? (p.1.toList ++ cs) = some cs := List.isPrefixOf?_eq_some_iff_append_eq.2 rfl
  unfold afterPredicate?
  rw [findSome?_unique hp, hself, Option.bind_some]
  intro q hq hne
  rw [Option.bind_eq_none_iff]
  intro rest hrest
  have happ := List.isPrefixOf?_eq_some_iff_append_eq.1 hrest
  exfalso
  rcases List.prefix_or_prefix_of_prefix ⟨rest, happ⟩ ⟨cs, rfl⟩ with h | h
  · exact hne (operators_prefixFree p hp q hq h)
  · exact hne (operators_prefixFree q hq p hp h).symm

/-- the operator of SQL that an operator is written with -/
def spelling : Operator → String
  | .equal | .selectEquals => "= "
  | .notEqual | .selectNotEquals => "!= "
  | .less => "< "
  | .lessOrEqual => "<= "
  | .greater => "> "
  | .greaterOrEqual => ">= "
  | .between => "BETWEEN "
  | .notBetween => "NOT BETWEEN "
  | .isEmpty => "IS NULL"
  | .isNotEmpty => "IS NOT NULL"
  | .like | .startsWith | .endsWith => "LIKE "
  | .notLike => "NOT LIKE "
  | .selectAnyIn => "IN ("
  | .selectNotAnyIn => "NOT IN ("

theorem spelling_mem (op : Operator) : (spelling op, op.operandKind) ∈ operators := by
  cases op <;> decide

theorem predicate?_written {op : Operator} {right : Operand} (h : right.kind = op.operandKind) :
    ∃ t, predicate? op right = some (spelling op ++ t) ∧ Written right t := by
  cases right with
  | absent =>
    refine ⟨"", ?_, .absent⟩
    cases op <;> first | rfl | cases h
  | scalar v =>
    cases op with
    | startsWith => exact ⟨_, rfl, .opening⟩
    | endsWith => exact ⟨_, rfl, .closing⟩
    | _ => first | exact ⟨_, rfl, .scalar⟩ | cases h
  | range low high =>
    refine ⟨_, ?_, .range⟩
    cases op <;> first | (cases h; done) | simp only [predicate?, spelling, String.append_assoc]
  | set items =>
    refine ⟨_, ?_, .set⟩
    cases op <;> first | (cases h; done) | simp only [predicate?, spelling, String.append_assoc]

theorem afterPredicate?_predicate {op : Operator} {right : Operand} (h : right.kind = op.operandKind)
    (hne : right ≠ .set []) (hplain : ∀ v ∈ right.texts, IsPlain v) (rest : List Char) :
    ∃ p, predicate? op right = some p ∧ afterPredicate? (p.toList ++ rest) = some rest := by
  obtain ⟨t, hp, ht⟩ := predicate?_written h
  refine ⟨_, hp, ?_⟩
  rw [String.toList_append, List.append_assoc, afterPredicate?_operator (spelling_mem op), ← h]
  exact ht.afterOperand? hne hplain rest

theorem text_toList (c : Comparison) : ∃ p, c.text.toList = c.field.toList ++ ' ' :: p := by
  refine ⟨((predicate? c.op c.right).getD "").toList, ?_⟩
  simp [Comparison.text]

/-- a comparison does not begin as a group does -/
theorem text_ne_paren {c : Comparison} (hname : IsName c.field) (rest cs : List Char) :
    c.text.toList ++ rest ≠ '(' :: cs := by
  obtain ⟨p, hp⟩ := text_toList c
  rw [hp]
  cases hf : c.field.toList with
  | nil => simp
  | cons d ds =>
    have hd : d ≠ '(' := by
      rintro rfl
      exact hname.2.1 (hf ▸ List.mem_cons_self)
    simp [hd]

theorem comparison?_text {c : Comparison} (hc : c.Consistent) (ht : c.Tame) (rest : List Char) :
    comparison? (c.text.toList ++ rest) = some (c.text, rest) := by
  obtain ⟨p, hp, hread⟩ := afterPredicate?_predicate hc.kind hc.inhabited ht.2 rest
  have htext : c.text.toList ++ rest = c.field.toList ++ ' ' :: (p.toList ++ rest) := by
    simp [Comparison.text, hp]
  have hdrop : (c.text.toList ++ rest).dropWhile isNameChar = ' ' :: (p.toList ++ rest) := by
    rw [htext, List.dropWhile_append_of_pos ht.1.chars]
    rfl
  unfold comparison?
  rw [hdrop]
  simp [hread]

/-! ## Reading a tree -/

/-- with anything around it, `t` is taken up as one factor with the value of `n` -/
def Reads (n : Node) (t : String) : Prop :=
  ∃ f, (∀ stack level rest, operand stack level (t.toList ++ rest) = operator stack (level.push f) rest) ∧
    ∀ truth, f.eval truth = n.holds truth

theorem operand_open (stack : List Level) (level : Level) (rest : List Char) :
    operand stack level ('(' :: rest) = operand (level :: stack) .empty rest := by
  rw [operand]

theorem operator_close {level : Level} {f : Formula} (hf : level.value? = some f) (outer : Level) (stack : List Level)
    (rest : List Char) : operator (outer :: stack) level (')' :: rest) = operator stack (outer.push f) rest := by
  rw [operator.eq_def]
  simp only [hf]

theorem operator_and (stack : List Level) (level : Level) (rest : List Char) :
    operator stack level (Conjunction.and.separator.toList ++ rest) = operand stack level rest := by
  change operator stack level (' ' :: 'A' :: 'N' :: 'D' :: ' ' :: rest) = _
  rw [operator]

theorem operator_or (stack : List Level) (level : Level) (rest : List Char) :
    operator stack level (Conjunction.or.separator.toList ++ rest) = operand stack level.next rest := by
  change operator stack level (' ' :: 'O' :: 'R' :: ' ' :: rest) = _
  rw [operator]

theorem operand_comparison {c : Comparison} (hc : c.Consistent) (ht : c.Tame) (stack : List Level) (level : Level)
    (rest : List Char) :
    operand stack level (c.text.toList ++ rest) = operator stack (level.push (.atom c.text)) rest := by
  obtain ⟨p, hp⟩ := text_toList c
  have hlt : rest.length < (c.text.toList ++ rest).length := by
    rw [hp]
    simp
    omega
  rw [operand]
  · simp only [comparison?_text hc ht rest]
    rw [dif_pos hlt]
  · exact text_ne_paren ht.1 rest

/-- a level that is read to its closing parenthesis is one factor of the level around it -/
theorem reads_paren {n : Node} {s : String} {level' : Level} {f : Formula} (hf : level'.value? = some f)
    (hread : ∀ stack rest, operand stack .empty (s.toList ++ rest) = operator stack level' rest)
    (heval : ∀ truth, f.eval truth = n.holds truth) : Reads n ("(" ++ s ++ ")") := by
  refine ⟨f, fun stack level rest => ?_, heval⟩
  have hsplit : ("(" ++ s ++ ")").toList ++ rest = '(' :: (s.toList ++ ')' :: rest) := by simp
  rw [hsplit, operand_open, hread, operator_close hf]

theorem reads_leaf {c : Comparison} (hc : c.Consistent) (ht : c.Tame) : Reads (.leaf c) ("(" ++ c.text ++ ")") := by
  refine reads_paren rfl (fun stack rest => operand_comparison hc ht stack .empty rest) fun truth => ?_
  rw [Node.holds]
  rfl

/-- the children after the first: the level goes on to hold the value of all of them together -/
theorem operator_tail {conjunction : Conjunction} {nodes : List Node} {texts : List String}
    (h : List.Forall₂ Reads nodes texts) {level : Level} {f : Formula} (hf : level.value? = some f)
    (hand : conjunction = .and → level.alternatives = none) :
    ∃ level' f', level'.value? = some f' ∧
      (∀ stack rest, operator stack level
        (texts.flatMap (fun t => conjunction.separator.toList ++ t.toList) ++ rest) = operator stack level' rest) ∧
      ∀ truth, f'.eval truth = nodes.foldl (fun b n => conjunction.combine b (n.holds truth)) (f.eval truth) := by
  induction h generalizing level f with
  | nil => exact ⟨level, f, hf, fun _ _ => rfl, fun _ => rfl⟩
  | @cons n t nodes texts hn _ ih =>
    obtain ⟨g, hg, hgeval⟩ := hn
    cases conjunction with
    | and =>
      obtain ⟨alternatives, factors⟩ := level
      obtain rfl : alternatives = none := hand rfl
      obtain rfl : factors = some f := by simpa [Level.value?] using hf
      obtain ⟨level', f', hvalue, hread, heval⟩ :=
        ih (show (Level.push ⟨none, some f⟩ g).value? = some (.and f g) from rfl) fun _ => rfl
      refine ⟨level', f', hvalue, fun stack rest => ?_, fun truth => ?_⟩
      · rw [← hread, List.flatMap_cons, List.append_assoc, List.append_assoc, operator_and, hg]
      · rw [heval, List.foldl_cons, ← hgeval]
        rfl
    | or =>
      have hnext : (level.next.push g).value? = some (.or f g) := by
        rw [Level.next, hf]
        rfl
      obtain ⟨level', f', hvalue, hread, heval⟩ := ih hnext nofun
      refine ⟨level', f', hvalue, fun stack rest => ?_, fun truth => ?_⟩
      · rw [← hread, List.flatMap_cons, List.append_assoc, List.append_assoc, operator_or, hg]
      · rw [heval, List.foldl_cons, ← hgeval]
        rfl

theorem foldl_and_holds (truth : String → Bool) (nodes : List Node) (b : Bool) :
    nodes.foldl (fun b n => b && n.holds truth) b = (b && allHold truth nodes) := by
  induction nodes generalizing b with
  | nil => simp [allHold]
  | cons n nodes ih => rw [List.foldl_cons, ih, allHold, Bool.and_assoc]

theorem foldl_or_holds (truth : String → Bool) (nodes : List Node) (b : Bool) :
    nodes.foldl (fun b n => b || n.holds truth) b = (b || someHolds truth nodes) := by
  induction nodes generalizing b with
  | nil => simp [someHolds]
  | cons n nodes ih => rw [List.foldl_cons, ih, someHolds, Bool.or_assoc]

theorem holds_group_cons (conjunction : Conjunction) (n : Node) (nodes : List Node) (truth : String → Bool) :
    (Node.group conjunction (n :: nodes)).holds truth =
      nodes.foldl (fun b m => conjunction.combine b (m.holds truth)) (n.holds truth) := by
  cases conjunction with
  | and => exact (foldl_and_holds truth nodes _).symm
  | or => exact (foldl_or_holds truth nodes _).symm

/-- the texts of all children fill a level, with the value of their group -/
theorem operand_joined {conjunction : Conjunction} {children : List Node} {s : String}
    (h : Joined conjunction children s) (hreads : ∀ n ∈ children, ∀ t, n.sql = .ok t → Reads n t) :
    ∃ level' f, level'.value? = some f ∧
      (∀ stack rest, operand stack .empty (s.toList ++ rest) = operator stack level' rest) ∧
      ∀ truth, f.eval truth = (Node.group conjunction children).holds truth := by
  obtain ⟨texts, hall, hne, rfl⟩ := h
  have hall := forall₂_imp_of_mem hall hreads
  cases hall with
  | nil => exact absurd rfl hne
  | @cons n t nodes texts hn hrest =>
    obtain ⟨g, hg, hgeval⟩ := hn
    obtain ⟨level', f, hvalue, hread, heval⟩ :=
      operator_tail hrest (show (Level.empty.push g).value? = some g from rfl) fun _ => rfl
    refine ⟨level', f, hvalue, fun stack rest => ?_, fun truth => ?_⟩
    · rw [intercalate_toList, List.append_assoc, hg, hread]
    · rw [heval, hgeval, holds_group_cons]

end Formula

theorem Node.Consistent.reads {n : Node} (hc : n.Consistent) (ht : ∀ c ∈ n.leaves, c.Tame) {t : String}
    (h : n.sql = .ok t) : Formula.Reads n t := by
  induction hc generalizing t with
  | @leaf c hc =>
    obtain ⟨-, rfl⟩ := Comparison.sql_eq_ok.1 (Node.sql_leaf c ▸ h)
    exact Formula.reads_leaf hc (ht c (by simp [Node.leaves]))
  | @group conjunction children _ _ ih =>
    obtain ⟨s, hs, rfl⟩ := Node.sql_group.1 h
    obtain ⟨level', f, hvalue, hread, heval⟩ := Formula.operand_joined hs fun n hn t hnt =>
      ih n hn (fun c hcn => ht c (mem_leavesOf.2 ⟨n, hn, hcn⟩)) hnt
    exact Formula.reads_paren hvalue hread heval

/-! ## Main result -/

/-- **The text of a tree means the tree.** Every tree out of a request whose fields are names and whose values are plain
has a text; all of it is one SQL expression; and this has the tree's value under every assignment of truth values to
the texts of comparisons. -/
theorem sql_means_tree {v : Json} {g : Group} (h : Group.ofJson v = .ok g) (ht : ∀ c ∈ g.leaves, c.Tame) :
    ∃ text f, g.sql = .ok text ∧ Formula.read text = some f ∧ ∀ truth, f.eval truth = g.holds truth := by
  have hc := Group.consistent_of_ofJson h
  obtain ⟨text, htext⟩ := hc.exists_sql
  cases hc with
  | group _ hall =>
    obtain ⟨level', f, hvalue, hread, heval⟩ := Formula.operand_joined (Group.sql_eq_ok.1 htext) fun n hn t hnt =>
      (hall n hn).reads (fun c hcn => ht c (mem_leavesOf.2 ⟨n, hn, hcn⟩)) hnt
    refine ⟨text, f, htext, ?_, heval⟩
    have := hread [] []
    rw [List.append_nil] at this
    rw [Formula.read, this, Formula.operator]
    exact hvalue

/-- a range whose lower end looks like SQL, or a group in a group of one -/
def nestedValue : Json :=
  .object [("conjunction", .string "or"), ("children", .array [
    .object [("op", .string "between"), ("left", .object [("type", .string "field"), ("field", .string "age")]),
      ("right", .array [.string ") OR (", .natural 9])],
    .object [("conjunction", .string "And"), ("children", .array [
      .object [("conjunction", .string "AND"), ("children", .array [
        .object [("op", .string "select_any_in"), ("left", .object [("type", .string "field"), ("field", .string "")]),
          ("right", .array [.string "x AND y", .null])]])],
      .object [("op", .string "is_empty"), ("left", .object [("type", .string "field"), ("field", .string "OR")])]])]])]

/-- what `nestedValue` is read as -/
def nestedTree : Group :=
  ⟨.or, [.leaf ⟨"age", .between, .range ") OR (" "9"⟩,
    .group .and [.group .and [.leaf ⟨"", .selectAnyIn, .set ["x AND y", "null"]⟩], .leaf ⟨"OR", .isEmpty, .absent⟩]]⟩

theorem sql_means_nestedTree :
    Group.ofJson nestedValue = .ok nestedTree ∧ (∀ c ∈ nestedTree.leaves, c.Tame) ∧
      ∃ text f, nestedTree.sql = .ok text ∧ Formula.read text = some f ∧
        ∀ truth, f.eval truth = nestedTree.holds truth := by
  have h : Group.ofJson nestedValue = .ok nestedTree := by rfl
  have ht : ∀ c ∈ nestedTree.leaves, c.Tame := by decide
  exact ⟨h, ht, sql_means_tree h ht⟩

end SqlGateway.Condition
