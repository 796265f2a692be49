/-
Values that come back as they were written. In a text a value may lose the last digit of a double, the members before the
last one of a key that is repeated, and what lies too deep; a value with nothing of these is `Exact`.

- `completes_of_exact`: on a stack that has room for it, an exact value is read as itself, in whatever layout it is
  written. By how it is written: the frame on top of the stack holds the items or members before the next one.
- `read_of_isText`: every text of an exact value is read as that value; the compact text is one of them (`read_compact`).
-/
import SqlGateway.Proofs.Json.Reading

namespace SqlGateway.Json

/-- nothing of the value is lost in writing: its numbers are integers of 64 bits, no object repeats a key, and at most
`depth` arrays and objects stand in one another -/
inductive Exact : Nat → Json → Prop
  | null (depth : Nat) : Exact depth .null
  | bool (depth : Nat) (b : Bool) : Exact depth (.bool b)
  | integer (depth : Nat) {n : Int} : -2 ^ 63 ≤ n → n < 2 ^ 64 → Exact depth (.number (.integer n))
  | string (depth : Nat) (s : String) : Exact depth (.string s)
  | array {depth : Nat} {items : List Json} : (∀ v ∈ items, Exact depth v) → Exact (depth + 1) (.array items)
  | object {depth : Nat} {members : List (String × Json)} :
    (keys members).Nodup → (∀ m ∈ members, Exact depth m.2) → Exact (depth + 1) (.object members)

namespace Reader

/-- the octets are the value, whole, on this stack -/
def DeliversOn (stack : List Frame) (octets : List UInt8) (v : Json) : Prop :=
  ∀ phase, Expects .any phase → Leads Next ⟨phase, stack⟩ octets (deliver v stack)

/-- the value is read whole, or it is an integer, which ends only with what is behind it -/
inductive Completes (stack : List Frame) : List UInt8 → Json → Prop
  | whole {octets : List UInt8} {v : Json} : DeliversOn stack octets v → Completes stack octets v
  | integer {n : Int} : -2 ^ 63 ≤ n → n < 2 ^ 64 → Completes stack (Utf8.encode (toString n)) (.number (.integer n))

variable {stack : List Frame} {octets : List UInt8} {v : Json}

theorem Delivers.completes (h : Delivers .any octets v) : Completes stack octets v := .whole fun phase => h phase stack

theorem Completes.reads (h : Completes stack octets v) : ReadsOn stack .any octets v := by
  cases h with
  | whole h =>
    intro phase b st hphase _ hst
    exact (h phase hphase).append (.single hst)
  | integer hlow hhigh => exact (reads_integer hlow hhigh rfl rfl).on stack

/-- an array from its bracket, on a stack with room for one more -/
theorem completes_array (hroom : stack.length < maxDepth)
    (h : Leads Next ⟨.firstItem .any, .array [] :: stack⟩ octets (deliver v stack)) : Completes stack (91 :: octets) v := by
  have hopened : openList .any stack = .ok ⟨.firstItem .any, .array [] :: stack⟩ := if_neg (Nat.not_le.2 hroom)
  exact .whole fun _ hphase => leads_of_start hphase ⟨rfl, by decide⟩ hopened h

/-- an object from its brace, on a stack with room for one more -/
theorem completes_object (hroom : stack.length < maxDepth)
    (h : Leads Next ⟨.firstKey, .object [] "" :: stack⟩ octets (deliver v stack)) : Completes stack (123 :: octets) v := by
  have hopened : openObject .any stack = .ok ⟨.firstKey, .object [] "" :: stack⟩ := if_neg (Nat.not_le.2 hroom)
  exact .whole fun _ hphase => leads_of_start hphase ⟨rfl, by decide⟩ hopened h

-- by how the value is written: inside of a bracket or a brace there is one frame more, and room for one less
mutual

/-- **An exact value is read as itself**, in whatever layout it is written. -/
theorem completes_of_exact {v : Json} {octets : List UInt8} {depth : Nat} (stack : List Frame) :
    Writes v octets → Exact depth v → depth + stack.length ≤ maxDepth → Completes stack octets v
  | .null, _, _ => (delivers_null rfl).completes
  | .bool true, _, _ => (delivers_true rfl).completes
  | .bool false, _, _ => (delivers_false rfl).completes
  | .integer _, .integer _ hlow hhigh, _ => .integer hlow hhigh
  | .string h, _, _ => (delivers_string h rfl rfl).completes
  | .emptyArray h, .array _, hroom => completes_array (by omega) ((leads_blanks rfl h).append (.single rfl))
  | .array h, .array hitems, hroom => completes_array (by omega) (leads_items [] stack h hitems (by omega) .first)
  | .emptyObject h, .object _ _, hroom => completes_object (by omega) ((leads_blanks rfl h).append (.single rfl))
  | @Writes.object members _ h, .object hnodup hmembers, hroom => by
    have hkept : putAll members [] = members := putAll_of_nodup hnodup
    have hinside := leads_objectMembers [] "" stack h hmembers (by omega) .first
    rw [hkept] at hinside
    exact completes_object (by omega) hinside

theorem readsOn_padded {v : Json} {octets : List UInt8} {depth : Nat} (stack : List Frame) :
    WritesPadded v octets → Exact depth v → depth + stack.length ≤ maxDepth → ReadsOn stack .any octets v
  | .padded hbefore h hafter, hv, hroom => (completes_of_exact stack h hv hroom).reads.padded hbefore hafter

/-- the items of an array from one of them on, with those before it -/
theorem leads_items {items : List Json} {octets : List UInt8} {depth : Nat} {phase : Phase} (before : List Json)
    (stack : List Frame) :
    WritesItems items octets → (∀ v ∈ items, Exact depth v) → depth + (stack.length + 1) ≤ maxDepth → Expects .any phase →
      Leads Next ⟨phase, .array before :: stack⟩ (octets ++ [93]) (deliver (.array (before.reverse ++ items)) stack)
  | @WritesItems.last v _ h, hitems, hroom, hphase => by
    have hend : Next (deliver v (.array before :: stack)) 93 (deliver (.array (v :: before).reverse) stack) := rfl
    rw [List.reverse_cons] at hend
    exact readsOn_padded (.array before :: stack) h (hitems v List.mem_cons_self) hroom phase 93 _ hphase (by decide) hend
  | @WritesItems.more v _ _ _ h hrest, hitems, hroom, hphase => by
    obtain ⟨hv, hlater⟩ := List.forall_mem_cons.1 hitems
    have hcomma : Next (deliver v (.array before :: stack)) 44 ⟨.nextItem .any, .array (v :: before) :: stack⟩ := rfl
    have hfirst := readsOn_padded (.array before :: stack) h hv hroom phase 44 _ hphase (by decide) hcomma
    have hall := hfirst.append (leads_items (v :: before) stack hrest hlater hroom .next)
    simpa using hall

/-- one member of an object -/
theorem leads_objectMember {key : String} {v : Json} {octets : List UInt8} {depth : Nat} {phase : Phase} {b : UInt8}
    {st : State} (before : List (String × Json)) (last : String) (stack : List Frame) :
    WritesMember key v octets → Exact depth v → depth + (stack.length + 1) ≤ maxDepth → ExpectsKey phase → b ∈ ends →
      Next (deliver v (.object before key :: stack)) b st →
        Leads Next ⟨phase, .object before last :: stack⟩ (octets ++ [b]) st
  | .member hblanks hquoted hbetween h, hv, hroom, hphase, hb, hst => by
    have hkey : ∀ s : StringLiteral, (isIgnored (.object before last :: stack) = false → s.text = .ok key) →
        deliverKey s (.object before last :: stack) = .ok ⟨.colon .any, .object before key :: stack⟩ := by
      intro s hs
      simp [deliverKey, hs rfl, bind, Except.bind, pure, Except.pure]
    exact leads_member hblanks hquoted hbetween hphase hkey (readsOn_padded (.object before key :: stack) h hv hroom) hb hst

/-- the members of an object from one of them on, with those before it -/
theorem leads_objectMembers {members : List (String × Json)} {octets : List UInt8} {depth : Nat} {phase : Phase}
    (before : List (String × Json)) (last : String) (stack : List Frame) :
    WritesMembers members octets → (∀ m ∈ members, Exact depth m.2) → depth + (stack.length + 1) ≤ maxDepth →
      ExpectsKey phase → Leads Next ⟨phase, .object before last :: stack⟩ (octets ++ [125])
        (deliver (.object (putAll members before)) stack)
  | @WritesMembers.last key v _ h, hmembers, hroom, hphase => by
    have hend : Next (deliver v (.object before key :: stack)) 125
        (deliver (.object (putAll [(key, v)] before)) stack) := rfl
    exact leads_objectMember before last stack h (hmembers (key, v) List.mem_cons_self) hroom hphase (by decide) hend
  | @WritesMembers.more key v _ _ _ h hrest, hmembers, hroom, hphase => by
    obtain ⟨hv, hlater⟩ := List.forall_mem_cons.1 hmembers
    have hcomma : Next (deliver v (.object before key :: stack)) 44 ⟨.nextKey, .object (put key v before) key :: stack⟩ :=
      rfl
    have hfirst := leads_objectMember before last stack h hv hroom hphase (by decide) hcomma
    have hall := hfirst.append (leads_objectMembers (put key v before) key stack hrest hlater hroom .next)
    rwa [List.append_assoc, List.singleton_append, ← List.cons_append, ← List.append_assoc] at hall

end

/-! ## Whole texts -/

/-- the reader gets through the octets, and there the value is complete -/
def Finishes (octets : List UInt8) (v : Json) : Prop :=
  ∃ st, Leads Next ⟨.value .any, []⟩ octets st ∧ finish st = .ok v

theorem Completes.finishes (h : Completes [] octets v) : Finishes octets v := by
  cases h with
  | whole h => exact ⟨_, h _ .value, rfl⟩
  | integer hlow hhigh =>
    obtain ⟨b, rest, start, m, hoctets, hstart, hleads, hcomplete, hvalue⟩ := Numeral.leads_integer hlow hhigh
    have hwanted : Shape.any.isIgnored = false := rfl
    rw [← hwanted] at hleads
    refine ⟨_, hoctets ▸ leads_number hstart hleads .value [], ?_⟩
    simp [finish, hcomplete, deliverNumber, hwanted, hvalue, deliverScalar, Shape.accept, deliver, bind, Except.bind, pure,
      Except.pure]

/-- the blanks around a value: the value ends at its own end, or with the first blank behind it -/
theorem Completes.finishes_padded (h : Completes [] octets v) {before after : List UInt8} (hbefore : Blanks before)
    (hafter : Blanks after) : Finishes (before ++ octets ++ after) v := by
  cases after with
  | nil =>
    obtain ⟨st, hleads, hfinish⟩ := h.finishes
    rw [List.append_nil]
    exact ⟨st, (leads_blanks rfl hbefore).append hleads, hfinish⟩
  | cons a after =>
    obtain ⟨ha, hrest⟩ := List.forall_mem_cons.1 hafter
    have hblank : Next (deliver v []) a (deliver v []) := by
      simp [Next, step, skipsBlanks_deliver, isBlank_of_mem a ha]
    have hvalue := h.reads.padded hbefore blanks_nil _ a _ .value (hafter.mem_ends a List.mem_cons_self) hblank
    have hall := hvalue.append (leads_blanks (skipsBlanks_deliver v []) hrest)
    exact ⟨deliver v [], by simpa using hall, rfl⟩

end Reader

/-! ## Main result -/

open Reader in
/-- **Every text of an exact value is read as that value.** -/
theorem read_of_isText {v : Json} {octets : List UInt8} (h : IsText v octets) (hv : Exact maxDepth v) :
    read octets = .ok v := by
  cases h with
  | padded hbefore hwrites hafter =>
    obtain ⟨st, hleads, hfinish⟩ := (completes_of_exact [] hwrites hv le_rfl).finishes_padded hbefore hafter
    rw [read, readShape, run_of_leads hleads]
    simp only [hfinish]

/-- what is written compactly is read again -/
theorem read_compact {v : Json} (hv : Exact Reader.maxDepth v) : read (Utf8.encode v.compact) = .ok v :=
  read_of_isText (isText_compact v) hv

end SqlGateway.Json
