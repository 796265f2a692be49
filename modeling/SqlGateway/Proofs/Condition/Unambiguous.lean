/-
The text of a condition tree tells the tree. Some trees are written alike (`Node.Alike`): two operators have a second
name, an opening or closing pattern may be written as a pattern, and with a single child a conjunction does not show.
`same_text_iff_alike`: trees out of requests have one text exactly if they are the same up to these, at any depth.

Fields must be names, and values must not hold a double quote; everything else they may hold, backslashes too.

From left to right: `Comparison.cancel` for a comparison, `Node.Consistent.cancels` for any node. A text is taken off
whatever is behind it, since each of its parts ends where the next one begins: a field at a blank, a value at a quote, a
list at a parenthesis, and a child at a separator or a parenthesis.
-/
import SqlGateway.Proofs.Condition.Meaning

namespace SqlGateway.Condition

open Formula (spelling spelling_mem operators_prefixFree text_ne_paren)

/-! ## Trees that are written alike -/

/-- the same tree up to names of operators, patterns, and conjunctions with nothing to join -/
inductive Node.Alike : Node → Node → Prop
  | refl (n : Node) : Alike n n
  | symm {n m : Node} : Alike n m → Alike m n
  | trans {n m k : Node} : Alike n m → Alike m k → Alike n k
  | selectEquals (field value : String) :
    Alike (.leaf ⟨field, .selectEquals, .scalar value⟩) (.leaf ⟨field, .equal, .scalar value⟩)
  | selectNotEquals (field value : String) :
    Alike (.leaf ⟨field, .selectNotEquals, .scalar value⟩) (.leaf ⟨field, .notEqual, .scalar value⟩)
  | startsWith (field value : String) :
    Alike (.leaf ⟨field, .startsWith, .scalar value⟩) (.leaf ⟨field, .like, .scalar (value ++ "%")⟩)
  | endsWith (field value : String) :
    Alike (.leaf ⟨field, .endsWith, .scalar value⟩) (.leaf ⟨field, .like, .scalar ("%" ++ value)⟩)
  | single (c d : Conjunction) (n : Node) : Alike (.group c [n]) (.group d [n])
  | group {c : Conjunction} {ns ms : List Node} :
    ns.length = ms.length → (∀ p ∈ ns.zip ms, Alike p.1 p.2) → Alike (.group c ns) (.group c ms)

theorem Node.Alike.group_of_forall₂ {c : Conjunction} {ns ms : List Node} (h : List.Forall₂ Node.Alike ns ms) :
    (Node.group c ns).Alike (.group c ms) := by
  obtain ⟨hlength, hzip⟩ := List.forall₂_iff_zip.1 h
  exact .group hlength fun p hp => hzip hp

theorem fragments_eq_of_forall₂ {ns ms : List Node} (h : List.Forall₂ (fun n m => n.sql = m.sql) ns ms) :
    fragments ns = fragments ms := by
  rw [fragments_eq_mapM, fragments_eq_mapM]
  exact mapM_eq_of_forall₂ h

/-- with a single child no keyword is written -/
theorem sql_single (c d : Conjunction) (n : Node) : (Node.group c [n]).sql = (Node.group d [n]).sql := by
  have hjoin : ∀ t : String, c.join [t] = d.join [t] := by simp [Conjunction.join]
  rw [Node.sql, Node.sql, fragments, fragments]
  cases n.sql with
  | error e => rfl
  | ok t => simp [bind, Except.bind, pure, Except.pure, hjoin]

/-- **What is alike is written alike.** -/
theorem Node.Alike.sql_eq {n m : Node} (h : n.Alike m) : n.sql = m.sql := by
  induction h with
  | refl n => rfl
  | symm _ ih => exact ih.symm
  | trans _ _ ih ih' => exact ih.trans ih'
  | selectEquals | selectNotEquals | startsWith | endsWith => rfl
  | single c d n => exact sql_single c d n
  | group hlength _ ih =>
    have hall : List.Forall₂ (fun n m : Node => n.sql = m.sql) _ _ :=
      List.forall₂_iff_zip.2 ⟨hlength, fun hp => ih _ hp⟩
    rw [Node.sql, Node.sql, fragments_eq_of_forall₂ hall]

/-! ## Comparisons with one name for each operator -/

namespace Comparison

/-- a field that is a name, and values without a double quote -/
def Legible (c : Comparison) : Prop := IsName c.field ∧ ∀ v ∈ c.right.texts, '"' ∉ v.toList

instance (c : Comparison) : Decidable c.Legible := by unfold Legible; infer_instance

/-- the comparison under the first of its operator's names, its pattern written out -/
def plain (c : Comparison) : Comparison :=
  match c.op, c.right with
  | .selectEquals, right => ⟨c.field, .equal, right⟩
  | .selectNotEquals, right => ⟨c.field, .notEqual, right⟩
  | .startsWith, .scalar v => ⟨c.field, .like, .scalar (v ++ "%")⟩
  | .endsWith, .scalar v => ⟨c.field, .like, .scalar ("%" ++ v)⟩
  | _, _ => c

theorem plain_field (c : Comparison) : c.plain.field = c.field := by
  unfold plain
  split <;> rfl

theorem Consistent.alike_plain {c : Comparison} (h : c.Consistent) : (Node.leaf c).Alike (.leaf c.plain) := by
  obtain ⟨field, op, right⟩ := c
  have hkind : right.kind = op.operandKind := h.kind
  cases op <;> cases right <;> first | (cases hkind; done) | skip
  case selectEquals.scalar v => exact .selectEquals field v
  case selectNotEquals.scalar v => exact .selectNotEquals field v
  case startsWith.scalar v => exact .startsWith field v
  case endsWith.scalar v => exact .endsWith field v
  all_goals exact .refl _

theorem Consistent.plain {c : Comparison} (h : c.Consistent) : c.plain.Consistent := by
  obtain ⟨field, op, right⟩ := c
  have hkind : right.kind = op.operandKind := h.kind
  have hne : right ≠ .set [] := h.inhabited
  cases op <;> cases right <;> first | (cases hkind; done) | exact ⟨rfl, hne⟩ | exact ⟨rfl, nofun⟩

theorem Legible.plain {c : Comparison} (h : c.Legible) : c.plain.Legible := by
  refine ⟨c.plain_field ▸ h.1, ?_⟩
  obtain ⟨field, op, right⟩ := c
  have hvalues : ∀ v ∈ right.texts, '"' ∉ v.toList := h.2
  unfold Comparison.plain
  split <;> simp_all [Operand.texts]

end Comparison

/-- how an operand is written behind an operator -/
def Operand.written : Operand → String
  | absent => ""
  | scalar v => quote v
  | range low high => quote low ++ " AND " ++ quote high
  | set items => ",".intercalate (items.map quote) ++ ")"

/-- the operators that `Comparison.plain` leaves -/
def plainOperators : List Operator :=
  [.equal, .notEqual, .less, .lessOrEqual, .greater, .greaterOrEqual, .between, .notBetween, .isEmpty, .isNotEmpty,
    .like, .notLike, .selectAnyIn, .selectNotAnyIn]

theorem spelling_inj : ∀ a ∈ plainOperators, ∀ b ∈ plainOperators, spelling a = spelling b → a = b := by decide

theorem Comparison.Consistent.plain_text {c : Comparison} (h : c.Consistent) :
    c.plain.op ∈ plainOperators ∧
      c.plain.text = c.field ++ " " ++ (spelling c.plain.op ++ c.plain.right.written) := by
  obtain ⟨field, op, right⟩ := c
  have hkind : right.kind = op.operandKind := h.kind
  cases op <;> cases right <;> first
    | (cases hkind; done)
    | constructor
      · simp [Comparison.plain, plainOperators]
      · simp [Comparison.text, Comparison.plain, predicate?, spelling, Operand.written, String.append_assoc]

/-! ## Taking parts off a text -/

theorem cancel_until {x : Char} {a b r s : List Char} (ha : x ∉ a) (hb : x ∉ b) (h : a ++ x :: r = b ++ x :: s) :
    a = b ∧ r = s := by
  induction a generalizing b with
  | nil =>
    cases b with
    | nil => exact ⟨rfl, (List.cons.inj h).2⟩
    | cons y b =>
      have hxy : x = y := (List.cons.inj h).1
      exact absurd (hxy ▸ List.mem_cons_self) hb
  | cons y a ih =>
    cases b with
    | nil =>
      have hyx : y = x := (List.cons.inj h).1
      exact absurd (hyx ▸ List.mem_cons_self) ha
    | cons z b =>
      obtain ⟨hyz, hrest⟩ := List.cons.inj h
      have hxa : x ∉ a := fun hm => ha (List.mem_cons_of_mem _ hm)
      have hxb : x ∉ b := fun hm => hb (List.mem_cons_of_mem _ hm)
      obtain ⟨hab, hrs⟩ := ih hxa hxb hrest
      exact ⟨by rw [hyz, hab], hrs⟩

theorem quote_cancel {v w : String} (hv : '"' ∉ v.toList) (hw : '"' ∉ w.toList) {r s : List Char}
    (h : (quote v).toList ++ r = (quote w).toList ++ s) : v = w ∧ r = s := by
  have hsplit : ∀ (u : String) (t : List Char), (quote u).toList ++ t = '"' :: (u.toList ++ '"' :: t) := by
    intro u t
    simp [quote]
  rw [hsplit, hsplit] at h
  obtain ⟨hvw, hrs⟩ := cancel_until hv hw (List.cons.inj h).2
  exact ⟨String.toList_injective hvw, hrs⟩

/-- the items after the first: each begins with a comma, and the list ends with a parenthesis -/
theorem items_cancel {vs ws : List String} (hv : ∀ v ∈ vs, '"' ∉ v.toList) (hw : ∀ w ∈ ws, '"' ∉ w.toList)
    {r s : List Char}
    (h : (vs.map quote).flatMap (fun t => ",".toList ++ t.toList) ++ ')' :: r =
      (ws.map quote).flatMap (fun t => ",".toList ++ t.toList) ++ ')' :: s) : vs = ws ∧ r = s := by
  induction vs generalizing ws with
  | nil =>
    cases ws with
    | nil => exact ⟨rfl, (List.cons.inj h).2⟩
    | cons w ws => exact absurd (List.cons.inj h).1 (by decide)
  | cons v vs ih =>
    cases ws with
    | nil => exact absurd (List.cons.inj h).1 (by decide)
    | cons w ws =>
      obtain ⟨hvfirst, hvrest⟩ := List.forall_mem_cons.1 hv
      obtain ⟨hwfirst, hwrest⟩ := List.forall_mem_cons.1 hw
      simp only [List.map_cons, List.flatMap_cons, List.append_assoc] at h
      obtain ⟨rfl, hrest⟩ := quote_cancel hvfirst hwfirst (List.append_cancel_left h)
      obtain ⟨rfl, hrs⟩ := ih hvrest hwrest hrest
      exact ⟨rfl, hrs⟩

theorem written_cancel {o p : Operand} (hkind : o.kind = p.kind) (ho : o ≠ .set []) (hp : p ≠ .set [])
    (hv : ∀ v ∈ o.texts, '"' ∉ v.toList) (hw : ∀ w ∈ p.texts, '"' ∉ w.toList) {r s : List Char}
    (h : o.written.toList ++ r = p.written.toList ++ s) : o = p ∧ r = s := by
  cases o with
  | absent =>
    cases p <;> cases hkind
    exact ⟨rfl, h⟩
  | scalar v =>
    cases p <;> cases hkind
    obtain ⟨hvfirst, -⟩ := List.forall_mem_cons.1 hv
    obtain ⟨hwfirst, -⟩ := List.forall_mem_cons.1 hw
    obtain ⟨rfl, hrs⟩ := quote_cancel hvfirst hwfirst h
    exact ⟨rfl, hrs⟩
  | range low high =>
    cases p <;> cases hkind
    obtain ⟨hvlow, hv⟩ := List.forall_mem_cons.1 hv
    obtain ⟨hwlow, hw⟩ := List.forall_mem_cons.1 hw
    obtain ⟨hvhigh, -⟩ := List.forall_mem_cons.1 hv
    obtain ⟨hwhigh, -⟩ := List.forall_mem_cons.1 hw
    simp only [Operand.written, String.toList_append, List.append_assoc] at h
    obtain ⟨rfl, hrest⟩ := quote_cancel hvlow hwlow h
    obtain ⟨rfl, hrs⟩ := quote_cancel hvhigh hwhigh (List.append_cancel_left hrest)
    exact ⟨rfl, hrs⟩
  | set vs =>
    cases p with
    | set ws =>
      cases vs with
      | nil => exact absurd rfl ho
      | cons v vs =>
        cases ws with
        | nil => exact absurd rfl hp
        | cons w ws =>
          obtain ⟨hvfirst, hvrest⟩ := List.forall_mem_cons.1 hv
          obtain ⟨hwfirst, hwrest⟩ := List.forall_mem_cons.1 hw
          simp only [Operand.written, String.toList_append, List.map_cons, intercalate_toList, List.append_assoc] at h
          obtain ⟨rfl, hrest⟩ := quote_cancel hvfirst hwfirst h
          obtain ⟨rfl, hrs⟩ := items_cancel hvrest hwrest hrest
          exact ⟨rfl, hrs⟩
    | _ => cases hkind

/-- no operator begins with another one -/
theorem spelling_cancel {a b : Operator} {r s : List Char}
    (h : (spelling a).toList ++ r = (spelling b).toList ++ s) :
    spelling a = spelling b ∧ a.operandKind = b.operandKind ∧ r = s := by
  have hab : (spelling a, a.operandKind) = (spelling b, b.operandKind) := by
    rcases List.prefix_or_prefix_of_prefix (List.prefix_append _ r) (h ▸ List.prefix_append _ s) with hpre | hpre
    · exact operators_prefixFree _ (spelling_mem b) _ (spelling_mem a) hpre
    · exact (operators_prefixFree _ (spelling_mem a) _ (spelling_mem b) hpre).symm
  obtain ⟨hspelling, hkind⟩ := Prod.mk.inj hab
  rw [hspelling] at h
  exact ⟨hspelling, hkind, List.append_cancel_left h⟩

theorem Comparison.cancel {c d : Comparison} (hc : c.Consistent) (hd : d.Consistent) (hcl : c.Legible) (hdl : d.Legible)
    {r s : List Char} (h : c.plain.text.toList ++ ')' :: r = d.plain.text.toList ++ ')' :: s) :
    c.plain = d.plain ∧ r = s := by
  obtain ⟨hcop, hctext⟩ := hc.plain_text
  obtain ⟨hdop, hdtext⟩ := hd.plain_text
  rw [hctext, hdtext] at h
  simp only [String.toList_append, List.append_assoc] at h
  obtain ⟨hfield, hrest⟩ := cancel_until (x := ' ') hcl.1.1 hdl.1.1 h
  obtain ⟨hspelling, hkind, hrest⟩ := spelling_cancel hrest
  have hop := spelling_inj _ hcop _ hdop hspelling
  have hkinds : c.plain.right.kind = d.plain.right.kind := hc.plain.kind.trans (hkind.trans hd.plain.kind.symm)
  obtain ⟨hright, hrs⟩ := written_cancel hkinds hc.plain.inhabited hd.plain.inhabited hcl.plain.2 hdl.plain.2 hrest
  refine ⟨?_, (List.cons.inj hrs).2⟩
  have hfields : c.plain.field = d.plain.field := by
    rw [Comparison.plain_field, Comparison.plain_field, String.toList_injective hfield]
  calc c.plain = ⟨c.plain.field, c.plain.op, c.plain.right⟩ := rfl
    _ = ⟨d.plain.field, d.plain.op, d.plain.right⟩ := by rw [hfields, hop, hright]
    _ = d.plain := rfl

/-! ## Taking nodes off a text -/

/-- every comparison of the tree is legible -/
def Node.Legible (n : Node) : Prop := ∀ c ∈ n.leaves, c.Legible

theorem Node.Legible.child {c : Conjunction} {ns : List Node} (h : (Node.group c ns).Legible) {n : Node} (hn : n ∈ ns) :
    n.Legible :=
  fun d hd => h d (mem_leavesOf.2 ⟨n, hn, hd⟩)

/-- whatever node is written at the same place, it is alike, and what follows is the same -/
def Node.Cancels (n : Node) : Prop :=
  ∀ m : Node, m.Consistent → m.Legible → ∀ t u r s, n.sql = .ok t → m.sql = .ok u →
    t.toList ++ r = u.toList ++ s → n.Alike m ∧ r = s

theorem separator_toList (c : Conjunction) : c.separator.toList = ' ' :: (c.sql ++ " ").toList := by
  cases c <;> rfl

/-- the two keywords differ in their first letter -/
theorem separator_cancel {c d : Conjunction} {r s : List Char} (h : c.separator.toList ++ r = d.separator.toList ++ s) :
    c = d := by
  cases c with
  | and =>
    cases d with
    | and => rfl
    | or => exact absurd (List.cons.inj (List.cons.inj h).2).1 (by decide)
  | or =>
    cases d with
    | and => exact absurd (List.cons.inj (List.cons.inj h).2).1 (by decide)
    | or => rfl

/-- the texts of the children after the first -/
def tailText (c : Conjunction) (texts : List String) : List Char :=
  texts.flatMap fun t => c.separator.toList ++ t.toList

theorem tailText_cons (c : Conjunction) (t : String) (texts : List String) (r : List Char) :
    tailText c (t :: texts) ++ r = c.separator.toList ++ (t.toList ++ (tailText c texts ++ r)) := by
  simp [tailText]

/-- the children after the first: a further child begins with a blank, the end is a parenthesis -/
theorem tail_cancel {c d : Conjunction} {ns ms : List Node} {ts us : List String}
    (hns : List.Forall₂ (fun n t => n.Cancels ∧ n.sql = .ok t) ns ts)
    (hms : List.Forall₂ (fun m u => (m.Consistent ∧ m.Legible) ∧ m.sql = .ok u) ms us) {r s : List Char}
    (h : tailText c ts ++ ')' :: r = tailText d us ++ ')' :: s) :
    List.Forall₂ Node.Alike ns ms ∧ (ns = [] ∨ c = d) ∧ r = s := by
  induction hns generalizing ms us with
  | nil =>
    cases hms with
    | nil => exact ⟨.nil, .inl rfl, (List.cons.inj h).2⟩
    | cons =>
      rw [tailText_cons, separator_toList] at h
      exact absurd (List.cons.inj h).1 (by decide)
  | cons hn _ ih =>
    cases hms with
    | nil =>
      rw [tailText_cons, separator_toList] at h
      exact absurd (List.cons.inj h).1 (by decide)
    | cons hm hms =>
      rw [tailText_cons, tailText_cons] at h
      obtain rfl := separator_cancel h
      obtain ⟨halike, hrest⟩ := hn.1 _ hm.1.1 hm.1.2 _ _ _ _ hn.2 hm.2 (List.append_cancel_left h)
      obtain ⟨htail, -, hrs⟩ := ih hms hrest
      exact ⟨.cons halike htail, .inr rfl, hrs⟩

theorem Joined.exists_cons {c : Conjunction} {ns : List Node} {t : String} (h : Joined c ns t) :
    ∃ n rest u us, ns = n :: rest ∧ n.sql = .ok u ∧ List.Forall₂ (fun n t => n.sql = .ok t) rest us ∧
      t.toList = u.toList ++ tailText c us := by
  obtain ⟨texts, hall, hne, rfl⟩ := h
  cases hall with
  | nil => exact absurd rfl hne
  | cons hfirst hrest => exact ⟨_, _, _, _, rfl, hfirst, hrest, intercalate_toList _ _ _⟩

/-- a group is written with a parenthesis inside the first one, a comparison is not -/
theorem Joined.starts {c : Conjunction} {ns : List Node} {t : String} (h : Joined c ns t) :
    ∃ rest, t.toList = '(' :: rest := by
  obtain ⟨n, rest, u, us, -, hu, -, ht⟩ := h.exists_cons
  obtain ⟨s, rfl⟩ := Node.exists_paren_of_sql hu
  rw [ht]
  exact ⟨s.toList ++ ')' :: tailText c us, by simp⟩

theorem joined_cancel {c d : Conjunction} {ns ms : List Node} {t u : String} (ht : Joined c ns t) (hu : Joined d ms u)
    (hns : ∀ n ∈ ns, n.Cancels) (hms : ∀ m ∈ ms, m.Consistent ∧ m.Legible) {r s : List Char}
    (h : t.toList ++ ')' :: r = u.toList ++ ')' :: s) :
    (Node.group c ns).Alike (.group d ms) ∧ r = s := by
  obtain ⟨n, ns, t, ts, rfl, hn, hts, htext⟩ := ht.exists_cons
  obtain ⟨m, ms, u, us, rfl, hm, hus, hutext⟩ := hu.exists_cons
  rw [htext, hutext, List.append_assoc, List.append_assoc] at h
  have hfirst := hms m List.mem_cons_self
  obtain ⟨halike, hrest⟩ := hns n List.mem_cons_self m hfirst.1 hfirst.2 _ _ _ _ hn hm h
  have hts' := forall₂_imp_of_mem hts fun n hn' t ht' => And.intro (hns n (List.mem_cons_of_mem _ hn')) ht'
  have hus' := forall₂_imp_of_mem hus fun m hm' u hu' => And.intro (hms m (List.mem_cons_of_mem _ hm')) hu'
  obtain ⟨htail, hconj, hrs⟩ := tail_cancel hts' hus' hrest
  refine ⟨?_, hrs⟩
  rcases hconj with rfl | rfl
  · obtain rfl := List.forall₂_nil_left_iff.1 htail
    exact (Node.Alike.group_of_forall₂ (.cons halike .nil)).trans (.single c d m)
  · exact .group_of_forall₂ (.cons halike htail)

theorem paren_toList (s : String) (r : List Char) : ("(" ++ s ++ ")").toList ++ r = '(' :: (s.toList ++ ')' :: r) := by
  simp

theorem leaf_sql {c : Comparison} (hc : c.Consistent) {t : String} (h : (Node.leaf c).sql = .ok t) :
    t = "(" ++ c.plain.text ++ ")" := by
  rw [hc.alike_plain.sql_eq, Node.sql_leaf] at h
  exact (Comparison.sql_eq_ok.1 h).2

/-- a comparison and a group are never written alike -/
theorem leaf_ne_group {c : Comparison} (hc : c.Consistent) (hcl : c.Legible) {d : Conjunction} {ns : List Node}
    {t u : String} (ht : (Node.leaf c).sql = .ok t) (hu : (Node.group d ns).sql = .ok u) (r s : List Char) :
    t.toList ++ r ≠ u.toList ++ s := by
  intro h
  obtain ⟨v, hv, rfl⟩ := Node.sql_group.1 hu
  obtain ⟨rest, hrest⟩ := hv.starts
  rw [leaf_sql hc ht, paren_toList, paren_toList, hrest] at h
  exact text_ne_paren (c := c.plain) (c.plain_field ▸ hcl.1) _ _ (List.cons.inj h).2

theorem Node.Consistent.cancels {n : Node} (h : n.Consistent) (hl : n.Legible) : n.Cancels := by
  induction h with
  | @leaf c hc =>
    have hcl : c.Legible := hl c (by simp [Node.leaves])
    intro m hm hml t u r s ht hu heq
    cases hm with
    | @leaf d hd =>
      have hdl : d.Legible := hml d (by simp [Node.leaves])
      rw [leaf_sql hc ht, leaf_sql hd hu, paren_toList, paren_toList] at heq
      obtain ⟨hplain, hrs⟩ := Comparison.cancel hc hd hcl hdl (List.cons.inj heq).2
      have hboth := hc.alike_plain
      rw [hplain] at hboth
      exact ⟨hboth.trans hd.alike_plain.symm, hrs⟩
    | group => exact absurd heq (leaf_ne_group hc hcl ht hu r s)
  | @group c ns _ hall ih =>
    intro m hm hml t u r s ht hu heq
    cases hm with
    | @leaf d hd => exact absurd heq.symm (leaf_ne_group hd (hml d (by simp [Node.leaves])) hu ht s r)
    | group _ hall' =>
      obtain ⟨t, htext, rfl⟩ := Node.sql_group.1 ht
      obtain ⟨u, hutext, rfl⟩ := Node.sql_group.1 hu
      rw [paren_toList, paren_toList] at heq
      exact joined_cancel htext hutext (fun n hn => ih n hn (hl.child hn))
        (fun m hm => ⟨hall' m hm, hml.child hm⟩) (List.cons.inj heq).2

/-! ## Main result -/

theorem Group.toNode_sql {g : Group} {t : String} (h : g.sql = .ok t) : g.toNode.sql = .ok ("(" ++ t ++ ")") :=
  Node.sql_group.2 ⟨t, Group.sql_eq_ok.1 h, rfl⟩

/-- **One text, one tree.** Two trees out of requests, whose fields are names and whose values hold no double quote, are
written alike exactly if they are alike. -/
theorem same_text_iff_alike {v w : Json} {g h : Group} (hg : Group.ofJson v = .ok g) (hh : Group.ofJson w = .ok h)
    (hgl : ∀ c ∈ g.leaves, c.Legible) (hhl : ∀ c ∈ h.leaves, c.Legible) :
    (∃ text, g.sql = .ok text ∧ h.sql = .ok text) ↔ g.toNode.Alike h.toNode := by
  have hgc := Group.consistent_of_ofJson hg
  have hhc := Group.consistent_of_ofJson hh
  constructor
  · rintro ⟨text, hgt, hht⟩
    have hcancels := Node.Consistent.cancels hgc hgl
    exact (hcancels h.toNode hhc hhl _ _ [] [] (Group.toNode_sql hgt) (Group.toNode_sql hht) rfl).1
  · intro halike
    obtain ⟨t, ht⟩ := hgc.exists_sql
    obtain ⟨u, hu⟩ := hhc.exists_sql
    have heq : "(" ++ t ++ ")" = "(" ++ u ++ ")" := by
      apply Except.ok.inj
      rw [← Group.toNode_sql ht, ← Group.toNode_sql hu, halike.sql_eq]
    have htu : t = u := String.append_right_inj _ |>.1 (String.append_left_inj _ |>.1 heq)
    exact ⟨t, ht, htu ▸ hu⟩

/-- a group of one whose comparison takes a value alone -/
def groupOfOne (conjunction op value : String) : Json :=
  .object [("conjunction", .string conjunction), ("children", .array [
    .object [("op", .string op), ("left", .object [("type", .string "field"), ("field", .string "name")]),
      ("right", .string value)]])]

/-- the two are written `(name LIKE "%a%")` -/
def opening : Group := ⟨.or, [.leaf ⟨"name", .startsWith, .scalar "%a"⟩]⟩

def closing : Group := ⟨.and, [.leaf ⟨"name", .endsWith, .scalar "a%"⟩]⟩

theorem opening_alike_closing :
    Group.ofJson (groupOfOne "or" "starts_with" "%a") = .ok opening ∧
      Group.ofJson (groupOfOne "AND" "ends_with" "a%") = .ok closing ∧
      (∀ c ∈ opening.leaves, c.Legible) ∧ (∀ c ∈ closing.leaves, c.Legible) ∧
      opening.toNode.Alike closing.toNode := by
  have ho : Group.ofJson (groupOfOne "or" "starts_with" "%a") = .ok opening := by rfl
  have hc : Group.ofJson (groupOfOne "AND" "ends_with" "a%") = .ok closing := by rfl
  have hol : ∀ c ∈ opening.leaves, c.Legible := by decide
  have hcl : ∀ c ∈ closing.leaves, c.Legible := by decide
  have hsame : ∃ text, opening.sql = .ok text ∧ closing.sql = .ok text := ⟨"(name LIKE \"%a%\")", by rfl, by rfl⟩
  exact ⟨ho, hc, hol, hcl, (same_text_iff_alike ho hc hol hcl).1 hsame⟩

end SqlGateway.Condition
