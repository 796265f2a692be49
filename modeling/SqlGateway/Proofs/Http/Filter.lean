/-
Filters, from the request target to the statement. A GET request may write the name of its table and the pairs of its
query string in any of the spellings of `Percent.Spells` (`Request.Filters`); `filtering` writes the pairs as forms do.
`filters_reach_statement`: whatever texts the pairs are, the store is asked for the rows that match them, with one
equality term for each pair in their order (`filterText`). The same statement comes from a body whose members are the
pairs, and a body of scalars gives the statement of the texts that its values are written as.
-/
import Mathlib.Data.List.TakeWhile
import SqlGateway.Proofs.Condition.Language
import SqlGateway.Proofs.Http.Calls
import SqlGateway.Proofs.Http.Form

namespace SqlGateway

/-! ## The statement -/

/-- the statement that selects by equality: one term for each pair, in their order -/
def filterText (table : String) (pairs : List (String × String)) : String :=
  "SELECT * FROM " ++ table ++
    (if pairs = [] then "" else " WHERE " ++ " AND ".intercalate (pairs.map fun p => p.1 ++ "=\"" ++ p.2 ++ "\"")) ++ ";"

theorem filter_sql (table : String) (pairs : List (String × String)) :
    (Statement.filter table pairs).sql = filterText table pairs := by
  unfold filterText
  cases pairs with
  | nil =>
    rw [if_pos rfl, String.append_empty]
    rfl
  | cons p pairs =>
    rw [if_neg (List.cons_ne_nil p pairs), ← String.append_assoc]
    rfl

/-! ## Filters out of a body -/

/-- the two ways to write a scalar agree -/
theorem term_of_scalarText? {v : Json} {t : String} (h : v.scalarText? = some t) : v.asString?.getD v.compact = t := by
  cases v with
  | string s => exact Option.some.inj h
  | null | number =>
    obtain rfl := Option.some.inj h
    exact String.ofList_toList
  | bool b =>
    cases b <;>
    · obtain rfl := Option.some.inj h
      exact String.ofList_toList
  | array | object => cases h

/-- the term has the member's key, and its value as it is written -/
def TermOf (m : String × Json) (t : String × String) : Prop := m.1 = t.1 ∧ m.2.scalarText? = some t.2

theorem filter_of_terms {table : String} {members : List (String × Json)} {terms : List (String × String)}
    (h : List.Forall₂ TermOf members terms) :
    (Operation.filter.statement table (.object members)).map Statement.sql = .ok (filterText table terms) := by
  have hterms : Body.terms (.object members) = terms := by
    have hmap : List.Forall₂ (fun m t => (m.1, m.2.asString?.getD m.2.compact) = t) members terms := by
      refine h.imp fun m t ⟨hkey, hvalue⟩ => ?_
      rw [term_of_scalarText? hvalue, hkey]
    exact List.forall₂_eq_eq_eq ▸ (List.forall₂_map_left_iff.2 hmap)
  calc (Operation.filter.statement table (.object members)).map Statement.sql
      = .ok (Statement.filter table (Body.terms (.object members))).sql := rfl
    _ = .ok (filterText table terms) := by rw [hterms, filter_sql]

theorem exists_terms {members : List (String × Json)} (h : ∀ m ∈ members, Condition.IsScalar m.2) :
    ∃ terms, List.Forall₂ TermOf members terms := by
  apply exists_forall₂
  intro m hm
  obtain ⟨t, ht⟩ := Condition.exists_scalarText?.2 (h m hm)
  exact ⟨(m.1, t), rfl, ht⟩

/-- the pairs as members of an object -/
def textMembers (pairs : List (String × String)) : List (String × Json) := pairs.map fun p => (p.1, .string p.2)

theorem putAll_textMembers {pairs : List (String × String)} (h : (pairs.map Prod.fst).Nodup) :
    Json.putAll (textMembers pairs) [] = textMembers pairs := by
  apply Json.putAll_of_nodup
  simpa [textMembers, Function.comp_def] using h

theorem terms_of_textMembers (pairs : List (String × String)) : List.Forall₂ TermOf (textMembers pairs) pairs := by
  unfold textMembers
  rw [List.forall₂_map_left_iff, List.forall₂_same]
  intro p _
  exact ⟨rfl, rfl⟩

namespace Http

/-! ## Request targets -/

/-- a path and a query string as one target; an empty query string may be left out with its question mark -/
inductive Target.Writes (path query : List UInt8) : List UInt8 → Prop
  | bare : query = [] → Writes path query path
  | full : Writes path query (path ++ 63 :: query)

theorem Target.ofOctets_of_writes {segment query octets : List UInt8}
    (h : Target.Writes (47 :: segment) query octets) (hsegment : 35 ∉ segment ∧ 63 ∉ segment) (hquery : 35 ∉ query) :
    Target.ofOctets octets = ⟨47 :: segment, query⟩ := by
  have hpath : 63 ∉ 47 :: segment := by simpa using hsegment.2
  have hhash : 35 ∉ octets := by
    cases h <;> simp [hsegment.1, hquery]
  have hrooted : Target.pathAndQuery octets = octets := by
    cases h <;> rfl
  have hwhole : octets.takeWhile (· != 35) = octets := List.takeWhile_eq_self_iff.2 (ne_of_not_mem hhash)
  rw [Target.ofOctets, hwhole, hrooted]
  cases h with
  | bare hempty =>
    have htake := List.takeWhile_eq_self_iff.2 (ne_of_not_mem hpath)
    have hdrop := List.dropWhile_eq_nil_iff.2 (ne_of_not_mem hpath)
    simp only [htake, hdrop, hempty, List.drop_nil]
  | full =>
    obtain ⟨htake, hdrop⟩ := cut_of_not_mem hpath query
    simp only [htake, hdrop, List.drop_one, List.tail_cons]

/-! ## Requests that filter -/

/-- GET on the table with these pairs, all of them spelled in any way -/
structure Request.Filters (r : Request) (table : String) (pairs : List (String × String)) : Prop where
  method : r.method = "GET"
  target : ∃ segment query octets, Percent.Spells Target.Stands segment (Utf8.encode table) ∧ Form.Writes query pairs ∧
    Target.Writes (47 :: segment) query octets ∧ r.target = Target.ofOctets octets

theorem Request.Filters.plans {r : Request} {table : String} {pairs : List (String × String)}
    (h : r.Filters table pairs) (hne : table ≠ "") : r.Plans (.filter table pairs) := by
  obtain ⟨segment, query, octets, hsegment, hquery, hwrites, htarget⟩ := h.target
  have hfree := Target.not_mem_of_spells hsegment
  rw [Target.ofOctets_of_writes hwrites ⟨hfree.1, hfree.2.2⟩ hquery.hash_not_mem] at htarget
  have haddr : r.Addresses table := by
    apply addresses_of_spells _ hsegment hne
    rw [htarget]
  have hpairs : Form.decode r.target.query = pairs := by
    rw [htarget]
    exact Form.decode_of_writes hquery
  rw [← hpairs]
  exact .filter (.inl h.method) haddr

theorem Request.Filters.received {r : Request} {table : String} {pairs : List (String × String)}
    (h : r.Filters table pairs) (hne : table ≠ "") {σ : Type} (store : Store σ) (state : σ) :
    received store state [r] = [.query (filterText table pairs)] := by
  have hcalls := calls_of_plans (h.plans hne)
  rw [received_eq, List.flatMap_singleton, hcalls, ← filter_sql]
  rfl

/-- whether forms write an octet as it is: letters, digits and `*-._` -/
def Form.isFree (b : UInt8) : Bool := (Percent.isUnreserved b && b != 126) || b == 42

/-- a key or value as forms write it, with a plus for a space -/
def Form.serializeText (s : String) : List UInt8 :=
  (Utf8.encode s).flatMap fun b => if b = 32 then [43] else if isFree b then [b] else Percent.escape b

/-- pairs as forms write them -/
def Form.serialize (pairs : List (String × String)) : List UInt8 :=
  [38].intercalate (pairs.map fun p => serializeText p.1 ++ 61 :: serializeText p.2)

/-- a request that filters, its table escaped and its pairs as a form's -/
def filtering (table : String) (pairs : List (String × String)) : Request :=
  ⟨"GET", Target.ofOctets (Target.tablePath table ++ 63 :: Form.serialize pairs), [], []⟩

theorem Form.writes_serialize (pairs : List (String × String)) : Form.Writes (Form.serialize pairs) pairs := by
  have hspells : ∀ s, Percent.Spells Form.Stands (Form.serializeText s) (Utf8.encode s) := by
    intro s
    apply Percent.spells_flatMap
    intro b
    split
    · rename_i hspace
      exact .plain (.inl ⟨rfl, hspace⟩) .nil
    split
    · rename_i hfree
      rw [isFree, Bool.or_eq_true, Bool.and_eq_true, beq_iff_eq] at hfree
      exact .plain (stands_self (hfree.imp_left And.left)) .nil
    · exact Percent.spells_escape _ b
  exact Form.writes_of_spells hspells pairs

theorem filters_filtering (table : String) (pairs : List (String × String)) :
    (filtering table pairs).Filters table pairs :=
  ⟨rfl, _, _, _, Target.spells_encode table, Form.writes_serialize pairs, .full, rfl⟩

/-! ## Main result -/

/-- **Filters reach the statement.** Every request that filters a table by some pairs, the one that writes them as a
form does among them, sends the statement with these pairs, as they are and in their order. With keys of their own the
pairs are an object, whose statement is the same; and the statement of an object of scalars is that of its members as
they are written. -/
theorem filters_reach_statement {table : String} (hne : table ≠ "") (pairs : List (String × String)) :
    ((filtering table pairs).Filters table pairs ∧
      ∀ r : Request, r.Filters table pairs → ∀ (σ : Type) (store : Store σ) (state : σ),
        received store state [r] = [.query (filterText table pairs)]) ∧
    ((pairs.map Prod.fst).Nodup →
      (Operation.filter.statement table (.object (Json.putAll (textMembers pairs) []))).map Statement.sql =
        .ok (filterText table pairs)) ∧
    ∀ members : List (String × Json), (∀ m ∈ members, Condition.IsScalar m.2) →
      ∃ terms, List.Forall₂ TermOf members terms ∧
        (Operation.filter.statement table (.object members)).map Statement.sql = .ok (filterText table terms) := by
  refine ⟨⟨filters_filtering table pairs, ?_⟩, ?_, ?_⟩
  · intro r hr σ store state
    exact hr.received hne store state
  · intro hkeys
    rw [putAll_textMembers hkeys]
    exact filter_of_terms (terms_of_textMembers pairs)
  · intro members hscalars
    obtain ⟨terms, hterms⟩ := exists_terms hscalars
    exact ⟨terms, hterms, filter_of_terms hterms⟩

/-- separators in a key and a value, and an empty key -/
def reservedPairs : List (String × String) := [("a b", "+&="), ("", "\u00e9")]

theorem reservedPairs_reach_statement :
    "t/1" ≠ "" ∧
    (filtering "t/1" reservedPairs).target = ⟨Utf8.encode "/t%2F1", Utf8.encode "a+b=%2B%26%3D&=%C3%A9"⟩ ∧
    (∀ (σ : Type) (store : Store σ) (state : σ), received store state [filtering "t/1" reservedPairs] =
      [.query "SELECT * FROM t/1 WHERE a b=\"+&=\" AND =\"\u00e9\";"]) ∧
    (Operation.filter.statement "t/1" (.object [("a b", .string "+&="), ("", .string "\u00e9")])).map Statement.sql =
      .ok "SELECT * FROM t/1 WHERE a b=\"+&=\" AND =\"\u00e9\";" := by
  have hne : "t/1" ≠ "" := by decide
  have htext : filterText "t/1" reservedPairs = "SELECT * FROM t/1 WHERE a b=\"+&=\" AND =\"\u00e9\";" := by rfl
  have h := filters_reach_statement hne reservedPairs
  rw [htext] at h
  exact ⟨hne, by rfl, fun σ store state => h.1.2 _ h.1.1 σ store state, h.2.1 (by decide)⟩

end Http

end SqlGateway
