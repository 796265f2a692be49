/-
Condition trees that differ in values only. `SameTree v w`: two request values are the same but for scalars under
`right`, alone or in an array. Then they are read alike (`SameTree.parts`, `SameParts.node`): both are refused with one
error, or both are trees of one shape, with the same fields, operators and conjunctions, and as many items in every set.

Trees of one shape have texts of one outline, when their values are plain (`Node.SameShape.agree_sql`). Together
(`SameTree.agree_compile`): values take no part in what is refused, nor in anything outside of literals.
-/
import SqlGateway.Condition.Sql
import SqlGateway.Proofs.Agreement
import SqlGateway.Proofs.Condition.Language
import SqlGateway.Proofs.Outline

namespace SqlGateway

/-! ## Values that differ -/

namespace Json

/-- the same value, or objects with the same keys in the same order; what they have under a key is equal, or related -/
inductive Differ (R : String → Json → Json → Prop) : Json → Json → Prop
  | same (v : Json) : Differ R v v
  | members {ms ns : List (String × Json)} :
    List.Forall₂ (fun m n => m.1 = n.1 ∧ (m.2 = n.2 ∨ R m.1 m.2 n.2)) ms ns → Differ R (.object ms) (.object ns)

variable {R : String → Json → Json → Prop} {v w : Json}

theorem Differ.get? (h : Differ R v w) (key : String) :
    v.get? key = w.get? key ∨ ∃ a b, v.get? key = some a ∧ w.get? key = some b ∧ R key a b := by
  cases h with
  | same => exact .inl rfl
  | members hall =>
    induction hall with
    | nil => exact .inl rfl
    | @cons m n ms ns hfirst _ ih =>
      obtain ⟨k, a⟩ := m
      obtain ⟨l, b⟩ := n
      obtain ⟨rfl, hab⟩ := hfirst
      by_cases hkey : key = k
      · subst hkey
        rcases hab with rfl | hab
        · exact .inl (by simp [Json.get?])
        · exact .inr ⟨a, b, by simp [Json.get?], by simp [Json.get?], hab⟩
      · have hne : (key == k) = false := beq_eq_false_iff_ne.2 hkey
        simpa [Json.get?, List.lookup_cons, hne] using ih

/-- one member takes another value -/
theorem Differ.swap {before after : List (String × Json)} {key : String} {a b : Json} (h : R key a b) :
    Differ R (.object (before ++ (key, a) :: after)) (.object (before ++ (key, b) :: after)) := by
  have hsame : ∀ ms : List (String × Json),
      List.Forall₂ (fun m n => m.1 = n.1 ∧ (m.2 = n.2 ∨ R m.1 m.2 n.2)) ms ms :=
    fun ms => List.forall₂_same.2 fun _ _ => ⟨rfl, .inl rfl⟩
  exact .members (List.rel_append (hsame before) (.cons ⟨rfl, .inr h⟩ (hsame after)))

theorem Differ.get?_eq (h : Differ R v w) {key : String} (hkey : ∀ a b, ¬ R key a b) : v.get? key = w.get? key := by
  rcases h.get? key with heq | ⟨a, b, -, -, hab⟩
  · exact heq
  · exact absurd hab (hkey a b)

end Json

namespace Condition

/-- the same value, or two scalars -/
def SameSlot (v w : Json) : Prop := v = w ∨ IsScalar v ∧ IsScalar w

/-- two scalars, or two arrays with the same items but for scalars -/
inductive SameRight : Json → Json → Prop
  | scalar {v w : Json} : IsScalar v → IsScalar w → SameRight v w
  | items {vs ws : List Json} : List.Forall₂ SameSlot vs ws → SameRight (.array vs) (.array ws)

/-- the same node of a condition, but for what comparisons have under `right`; a group takes nothing from there -/
inductive SameTree : Json → Json → Prop
  | leaf {v w : Json} : v.Differ (fun key a b => key = "right" ∧ SameRight a b) w → SameTree v w
  | group {before after : List (String × Json)} {vs ws : List Json} :
    vs.length = ws.length → (∀ p ∈ vs.zip ws, SameTree p.1 p.2) →
      SameTree (.object (before ++ ("children", .array vs) :: after))
        (.object (before ++ ("children", .array ws) :: after))

/-! ## Trees of one shape -/

/-- operands of one kind, and sets of one size -/
inductive Operand.SameShape : Operand → Operand → Prop
  | absent : SameShape .absent .absent
  | scalar (v w : String) : SameShape (.scalar v) (.scalar w)
  | range (low high low' high' : String) : SameShape (.range low high) (.range low' high')
  | set {vs ws : List String} : vs.length = ws.length → SameShape (.set vs) (.set ws)

structure Comparison.SameShape (c d : Comparison) : Prop where
  field : c.field = d.field
  op : c.op = d.op
  right : c.right.SameShape d.right

/-- the same tree but for the values -/
inductive Node.SameShape : Node → Node → Prop
  | leaf {c d : Comparison} : c.SameShape d → SameShape (.leaf c) (.leaf d)
  | group {c : Conjunction} {ns ms : List Node} :
    ns.length = ms.length → (∀ p ∈ ns.zip ms, SameShape p.1 p.2) → SameShape (.group c ns) (.group c ms)

theorem Operand.SameShape.refl (o : Operand) : o.SameShape o := by
  cases o with
  | absent => exact .absent
  | scalar v => exact .scalar v v
  | range low high => exact .range low high low high
  | set vs => exact .set rfl

theorem Node.SameShape.group_of_forall₂ {c : Conjunction} {ns ms : List Node} (h : List.Forall₂ Node.SameShape ns ms) :
    (Node.group c ns).SameShape (.group c ms) := by
  obtain ⟨hlength, hzip⟩ := List.forall₂_iff_zip.1 h
  exact .group hlength fun p hp => hzip hp

theorem Node.SameShape.refl (n : Node) : n.SameShape n := by
  induction n using Node.induct with
  | leaf c => exact .leaf ⟨rfl, rfl, .refl _⟩
  | group c ns ih => exact .group_of_forall₂ (List.forall₂_same.2 ih)

/-! ## What is read has one shape -/

theorem SameSlot.text {v w : Json} (h : SameSlot v w) {s : String} (hv : v.scalarText? = some s) :
    ∃ t, w.scalarText? = some t := by
  rcases h with rfl | ⟨-, hw⟩
  · exact ⟨s, hv⟩
  · exact exists_scalarText?.2 hw

theorem SameSlot.symm {v w : Json} (h : SameSlot v w) : SameSlot w v :=
  h.imp Eq.symm And.symm

theorem SameRight.symm {v w : Json} (h : SameRight v w) : SameRight w v := by
  cases h with
  | scalar hv hw => exact .scalar hw hv
  | items hall => exact .items (hall.flip.imp fun _ _ => SameSlot.symm)

theorem SameSlot.texts {vs ws : List Json} (h : List.Forall₂ SameSlot vs ws) {ss : List String}
    (hvs : List.Forall₂ (fun v s => v.scalarText? = some s) vs ss) :
    ∃ ts, List.Forall₂ (fun w t => w.scalarText? = some t) ws ts ∧ ss.length = ts.length := by
  induction h generalizing ss with
  | nil =>
    cases hvs
    exact ⟨[], .nil, rfl⟩
  | cons hslot _ ih =>
    cases hvs with
    | cons hfirst hrest =>
      obtain ⟨t, ht⟩ := hslot.text hfirst
      obtain ⟨ts, hts, hlength⟩ := ih hrest
      exact ⟨t :: ts, .cons ht hts, congrArg (· + 1) hlength⟩

/-- an operand under one of two values is an operand under the other -/
theorem Operand.Takes.differ {op : Operator} {v w : Json} {o : Operand} (h : Operand.Takes op (some v) o)
    (hvw : SameRight v w) : ∃ o', Operand.Takes op (some w) o' ∧ o.SameShape o' := by
  cases h with
  | absent hkind => exact ⟨_, .absent hkind, .absent⟩
  | scalar hkind hv =>
    cases hvw with
    | scalar _ hw =>
      obtain ⟨t, ht⟩ := exists_scalarText?.2 hw
      exact ⟨_, .scalar hkind ht, .scalar _ _⟩
    | items => cases hv
  | range hkind hlow hhigh =>
    cases hvw with
    | scalar hv => exact hv.elim
    | items hall =>
      obtain ⟨low, rest, hfirst, hrest, rfl⟩ := List.forall₂_cons_left_iff.1 hall
      obtain ⟨high, rest, hsecond, hnil, rfl⟩ := List.forall₂_cons_left_iff.1 hrest
      cases hnil
      obtain ⟨s, hs⟩ := hfirst.text hlow
      obtain ⟨t, ht⟩ := hsecond.text hhigh
      exact ⟨_, .range hkind hs ht, .range _ _ _ _⟩
  | set hkind hne hall =>
    cases hvw with
    | scalar hv => exact hv.elim
    | items hslots =>
      obtain ⟨ts, hts, hlength⟩ := SameSlot.texts hslots hall
      exact ⟨_, .set hkind ((ne_nil_iff_of_forall₂ hslots).1 hne) hts, .set hlength⟩

theorem Operand.rel_of_sameRight (op : Operator) {v w : Json} (h : SameRight v w) :
    Option.Rel Operand.SameShape (Operand.ofJson? op (some v)) (Operand.ofJson? op (some w)) := by
  cases hv : Operand.ofJson? op (some v) with
  | some o =>
    obtain ⟨o', ho', hshape⟩ := (Operand.ofJson?_eq_some.1 hv).differ h
    rw [Operand.ofJson?_eq_some.2 ho']
    exact .some hshape
  | none =>
    cases hw : Operand.ofJson? op (some w) with
    | none => exact .none
    | some o' =>
      obtain ⟨o, ho, -⟩ := (Operand.ofJson?_eq_some.1 hw).differ h.symm
      rw [Operand.ofJson?_eq_some.2 ho] at hv
      cases hv

theorem Operand.rel_of_eq (op : Operator) {v w : Option Json} (h : v = w) :
    Option.Rel Operand.SameShape (Operand.ofJson? op v) (Operand.ofJson? op w) := by
  rw [h]
  cases Operand.ofJson? op w with
  | none => exact .none
  | some o => exact .some (.refl o)

/-- everything that a node is read from is the same, but for what is under `right` -/
structure SameParts (v w : Json) : Prop where
  conjunction : v.get? "conjunction" = w.get? "conjunction"
  present : (v.get? "children").isSome = (w.get? "children").isSome
  op : v.get? "op" = w.get? "op"
  left : v.get? "left" = w.get? "left"
  right : ∀ op,
    Option.Rel Operand.SameShape (Operand.ofJson? op (v.get? "right")) (Operand.ofJson? op (w.get? "right"))
  children : Agree (List.Forall₂ Node.SameShape) (childrenOfMembers v.members) (childrenOfMembers w.members)

theorem SameParts.comparison {v w : Json} (h : SameParts v w) :
    Agree Comparison.SameShape (Comparison.ofJson v) (Comparison.ofJson w) := by
  unfold Comparison.ofJson
  rw [h.left, h.op]
  cases fieldOfJson? (w.get? "left") with
  | none => exact .error _
  | some field =>
    dsimp only
    cases Operator.ofName? (((w.get? "op").bind Json.asString?).getD "") with
    | none => exact .error _
    | some op =>
      dsimp only
      have hright := h.right op
      generalize Operand.ofJson? op (v.get? "right") = o, Operand.ofJson? op (w.get? "right") = o' at hright ⊢
      cases hright with
      | none => exact .error _
      | some hshape => exact .ok ⟨rfl, rfl, hshape⟩

/-- groups are read alike when their conjunctions and children are -/
theorem Group.agree_of_children {R : Node → Node → Prop} {v w : Json}
    (hconjunction : Conjunction.ofMembers v.members = Conjunction.ofMembers w.members)
    (hchildren : Agree (List.Forall₂ R) (childrenOfMembers v.members) (childrenOfMembers w.members)) :
    Agree (fun g h => g.conjunction = h.conjunction ∧ List.Forall₂ R g.children h.children) (Group.ofJson v)
      (Group.ofJson w) := by
  unfold Group.ofJson
  rw [hconjunction]
  refine (Agree.refl (fun _ => rfl) _).bind fun c d _ _ hcd => hchildren.bind fun ns ms _ _ hnodes => ?_
  subst hcd
  cases hnodes with
  | nil => exact .error _
  | cons hfirst hrest => exact .ok ⟨rfl, .cons hfirst hrest⟩

theorem SameParts.group {v w : Json} (h : SameParts v w) :
    Agree (fun g k : Group => g.toNode.SameShape k.toNode) (Group.ofJson v) (Group.ofJson w) := by
  have hconjunction := Conjunction.ofMembers_congr (congrArg _ h.conjunction) h.present
  refine (Group.agree_of_children hconjunction h.children).imp fun g k hgk => ?_
  obtain ⟨c, ns⟩ := g
  obtain ⟨d, ms⟩ := k
  obtain ⟨rfl, hnodes⟩ := hgk
  exact .group_of_forall₂ hnodes

theorem SameParts.node {v w : Json} (h : SameParts v w) :
    Agree Node.SameShape (Node.ofJson v) (Node.ofJson w) := by
  rw [Node.ofJson_eq, Node.ofJson_eq, h.conjunction, h.op, h.left]
  split
  · exact h.group.map fun _ _ hshape => hshape
  · split
    · exact h.comparison.map fun _ _ hshape => .leaf hshape
    · exact .error _

theorem SameTree.isTruthy_eq {v w : Json} (h : SameTree v w) : v.isTruthy = w.isTruthy := by
  cases h with
  | leaf hdiffer => cases hdiffer <;> rfl
  | group => rfl

/-- nodes that differ under `right` only -/
theorem SameParts.of_right {v w : Json} (h : ∀ key, key ≠ "right" → v.get? key = w.get? key)
    (hright : v.get? "right" = w.get? "right" ∨
      ∃ a b, v.get? "right" = some a ∧ w.get? "right" = some b ∧ SameRight a b) : SameParts v w := by
  have hchildren := h "children" (by decide)
  refine ⟨h _ (by decide), congrArg _ hchildren, h _ (by decide), h _ (by decide), ?_, ?_⟩
  · intro op
    rcases hright with heq | ⟨a, b, ha, hb, hab⟩
    · exact Operand.rel_of_eq op heq
    · rw [ha, hb]
      exact Operand.rel_of_sameRight op hab
  · rw [childrenOfMembers_congr hchildren]
    exact .refl (fun ns => List.forall₂_same.2 fun n _ => .refl n) _

/-- nodes that differ under `children` only -/
theorem SameParts.of_children {v w : Json} {vs ws : List Json} (h : ∀ key, key ≠ "children" → v.get? key = w.get? key)
    (hchildren : v.get? "children" = w.get? "children" ∨
      v.get? "children" = some (.array vs) ∧ w.get? "children" = some (.array ws))
    (hnodes : List.Forall₂ (fun a b => Agree Node.SameShape (Node.ofJson a) (Node.ofJson b)) vs ws) :
    SameParts v w := by
  refine ⟨h _ (by decide), ?_, h _ (by decide), h _ (by decide), ?_, ?_⟩
  · rcases hchildren with heq | ⟨hv, hw⟩
    · rw [heq]
    · rw [hv, hw, Option.isSome_some, Option.isSome_some]
  · intro op
    exact Operand.rel_of_eq op (h _ (by decide))
  · rcases hchildren with heq | ⟨hv, hw⟩
    · rw [childrenOfMembers_congr heq]
      exact .refl (fun ns => List.forall₂_same.2 fun n _ => .refl n) _
    · rw [childrenOfMembers_eq, childrenOfMembers_eq, members_lookup, members_lookup, hv, hw]
      exact .mapM hnodes

theorem SameTree.parts {v w : Json} (h : SameTree v w) : SameParts v w := by
  induction h with
  | leaf hdiffer =>
    refine .of_right ?_ ?_
    · intro key hkey
      exact hdiffer.get?_eq fun a b hab => hkey hab.1
    · rcases hdiffer.get? "right" with heq | ⟨a, b, ha, hb, -, hab⟩
      · exact .inl heq
      · exact .inr ⟨a, b, ha, hb, hab⟩
  | @group before after vs ws hlength _ ih =>
    have hdiffer : Json.Differ (fun key a b => key = "children" ∧ a = .array vs ∧ b = .array ws)
        (.object (before ++ ("children", .array vs) :: after)) (.object (before ++ ("children", .array ws) :: after)) :=
      .swap ⟨rfl, rfl, rfl⟩
    refine .of_children ?_ ?_ (List.forall₂_iff_zip.2 ⟨hlength, fun hp => (ih _ hp).node⟩)
    · intro key hkey
      exact hdiffer.get?_eq fun a b hab => hkey hab.1
    · rcases hdiffer.get? "children" with heq | ⟨a, b, ha, hb, -, rfl, rfl⟩
      · exact .inl heq
      · exact .inr ⟨ha, hb⟩

/-! ## Trees of one shape have texts of one outline -/

/-- a field without a double quote, and plain values -/
def Comparison.Contained (c : Comparison) : Prop := '"' ∉ c.field.toList ∧ ∀ v ∈ c.right.texts, IsPlain v

instance (c : Comparison) : Decidable c.Contained := by unfold Comparison.Contained; infer_instance

open Formula (Written spelling predicate?_written)

/-- a value is written as one literal, a percent sign with it or not -/
theorem Formula.Written.literal {v t : String} (h : Written (.scalar v) t) (hv : IsPlain v) :
    ∃ u, IsPlain u ∧ t = quote u := by
  have hpercent : IsPlain "%" := by decide
  cases h with
  | scalar => exact ⟨v, hv, rfl⟩
  | opening => exact ⟨_, hv.append hpercent, rfl⟩
  | closing => exact ⟨_, hpercent.append hv, rfl⟩

theorem Formula.Written.sameOutline {o p : Operand} {s t : String} (ho : Written o s) (hp : Written p t)
    (h : o.SameShape p) (hos : ∀ v ∈ o.texts, IsPlain v) (hps : ∀ v ∈ p.texts, IsPlain v) : SameOutline s t := by
  cases h with
  | absent =>
    cases ho
    cases hp
    exact .unquoted (by decide)
  | scalar v w =>
    obtain ⟨v', hv', rfl⟩ := ho.literal (hos v (by simp [Operand.texts]))
    obtain ⟨w', hw', rfl⟩ := hp.literal (hps w (by simp [Operand.texts]))
    exact .quoted hv' hw'
  | range low high low' high' =>
    cases ho
    cases hp
    have hlow : SameOutline (quote low) (quote low') :=
      .quoted (hos _ (by simp [Operand.texts])) (hps _ (by simp [Operand.texts]))
    have hhigh : SameOutline (quote high) (quote high') :=
      .quoted (hos _ (by simp [Operand.texts])) (hps _ (by simp [Operand.texts]))
    exact (hlow.append (.unquoted (by decide))).append hhigh
  | set hlength =>
    cases ho
    cases hp
    exact (SameOutline.intercalate (by decide) (SameOutline.quotes hlength hos hps)).append (.unquoted (by decide))

theorem Comparison.SameShape.agree_sql {c d : Comparison} (h : c.SameShape d) (hc : c.Consistent) (hd : d.Consistent)
    (hcs : c.Contained) (hds : d.Contained) : Agree SameOutline c.sql d.sql := by
  obtain ⟨s, hs, hswritten⟩ := predicate?_written hc.kind
  obtain ⟨t, ht, htwritten⟩ := predicate?_written hd.kind
  have hspelling : '"' ∉ (spelling c.op).toList := by
    cases c.op <;> decide
  have htext : SameOutline (spelling c.op ++ s) (spelling d.op ++ t) := by
    rw [← h.op]
    exact (SameOutline.unquoted hspelling).append (hswritten.sameOutline htwritten h.right hcs.2 hds.2)
  unfold Comparison.sql
  rw [hs, ht, ← h.field]
  refine .ok ?_
  have hfield : SameOutline c.field c.field := .unquoted hcs.1
  exact ((((SameOutline.unquoted (by decide)).append hfield).append (.unquoted (by decide))).append htext).append
    (.unquoted (by decide))

theorem Conjunction.agree_join (c : Conjunction) {ss ts : List String} (h : List.Forall₂ SameOutline ss ts) :
    Agree SameOutline (c.join ss) (c.join ts) := by
  have hseparator : '"' ∉ (" " ++ c.sql ++ " ").toList := by
    cases c <;> decide
  have htext := SameOutline.intercalate hseparator h
  unfold Conjunction.join
  cases h with
  | nil => exact .error _
  | cons => exact .ok htext

/-- a consistent tree whose comparisons are contained -/
structure Node.Contained (n : Node) : Prop where
  consistent : n.Consistent
  leaves : ∀ c ∈ n.leaves, c.Contained

theorem Node.Contained.leaf {c : Comparison} (h : (Node.leaf c).Contained) : c.Consistent ∧ c.Contained := by
  refine ⟨?_, h.leaves c (by simp [Node.leaves])⟩
  cases h.consistent with
  | leaf hc => exact hc

theorem Node.Contained.child {c : Conjunction} {ns : List Node} (h : (Node.group c ns).Contained) {n : Node}
    (hn : n ∈ ns) : n.Contained := by
  refine ⟨?_, fun d hd => h.leaves d (mem_leavesOf.2 ⟨n, hn, hd⟩)⟩
  cases h.consistent with
  | group _ hall => exact hall n hn

/-- between the texts of children there is the conjunction, which is the same -/
theorem agree_join_fragments {c : Conjunction} {ns ms : List Node} (hlength : ns.length = ms.length)
    (hzip : ∀ p ∈ ns.zip ms, p.1.Contained → p.2.Contained → Agree SameOutline p.1.sql p.2.sql)
    (hns : (Node.group c ns).Contained) (hms : (Node.group c ms).Contained) :
    Agree SameOutline (fragments ns >>= c.join) (fragments ms >>= c.join) := by
  have hchildren : List.Forall₂ (fun n m : Node => Agree SameOutline n.sql m.sql) ns ms := by
    refine List.forall₂_iff_zip.2 ⟨hlength, fun {n m} hp => ?_⟩
    obtain ⟨hleft, hright⟩ := List.of_mem_zip hp
    exact hzip _ hp (hns.child hleft) (hms.child hright)
  rw [fragments_eq_mapM, fragments_eq_mapM]
  exact (Agree.mapM hchildren).bind fun ss ts _ _ htexts => c.agree_join htexts

theorem Node.SameShape.agree_sql {n m : Node} (h : n.SameShape m) (hn : n.Contained) (hm : m.Contained) :
    Agree SameOutline n.sql m.sql := by
  induction h with
  | leaf hshape =>
    rw [Node.sql_leaf, Node.sql_leaf]
    exact hshape.agree_sql hn.leaf.1 hm.leaf.1 hn.leaf.2 hm.leaf.2
  | group hlength _ ih =>
    have htexts := agree_join_fragments hlength ih hn hm
    rw [Node.sql, Node.sql, ← bind_assoc, ← bind_assoc]
    refine htexts.bind fun s t _ _ hst => .ok ?_
    exact ((SameOutline.unquoted (by decide)).append hst).append (.unquoted (by decide))

theorem Group.agree_sql_of_sameShape {g k : Group} (h : g.toNode.SameShape k.toNode) (hg : g.toNode.Contained)
    (hk : k.toNode.Contained) : Agree SameOutline g.sql k.sql := by
  obtain ⟨c, ns⟩ := g
  obtain ⟨d, ms⟩ := k
  cases h with
  | group hlength hzip => exact agree_join_fragments hlength (fun p hp => (hzip p hp).agree_sql) hg hk

/-! ## Main result -/

/-- the comparisons of the tree that a value is read as -/
def comparisonsOf (tree : Json) : List Comparison := (Group.ofJson tree).toOption.elim [] Group.leaves

theorem Group.contained_of_ofJson {v : Json} {g : Group} (h : Group.ofJson v = .ok g)
    (hleaves : ∀ c ∈ comparisonsOf v, c.Contained) : g.toNode.Contained := by
  refine ⟨Group.consistent_of_ofJson h, fun c hc => hleaves c ?_⟩
  rw [comparisonsOf, h]
  exact hc

/-- **Values take no part in what is refused, nor in anything outside of literals.** -/
theorem SameTree.agree_compile {v w : Json} (h : SameTree v w) :
    Agree (fun s t => (∀ c ∈ comparisonsOf v, c.Contained) → (∀ c ∈ comparisonsOf w, c.Contained) → SameOutline s t)
      (compile v) (compile w) := by
  refine h.parts.group.bind fun g k hg hk hshape => ?_
  obtain ⟨s, hs⟩ := (Group.consistent_of_ofJson hg).exists_sql
  obtain ⟨t, ht⟩ := (Group.consistent_of_ofJson hk).exists_sql
  rw [hs, ht]
  refine .ok fun hgs hks => ?_
  have hgcontained := Group.contained_of_ofJson hg hgs
  have hkcontained := Group.contained_of_ofJson hk hks
  have htexts := Group.agree_sql_of_sameShape hshape hgcontained hkcontained
  rw [hs, ht] at htexts
  exact Agree.iff_ok.1 htexts

end Condition

end SqlGateway
