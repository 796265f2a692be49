/-
What the reader of JSON text takes, and as what. `Takes shape v w` says which values a shape takes, and what is handed on
for them: of a record, its own fields must not be repeated, and what it does not name is passed over. `readShape_of_takes`:
in whatever layout a value is written that the shape takes, it is read.

A value in the middle of a text may end only with the octet behind it, as a number does, so `Reads` is about the value
and that octet. What is passed over is read by `reads_ignored`, whatever it is.
-/
import SqlGateway.Json.Reader
import SqlGateway.Proofs.Json.Compact
import SqlGateway.Proofs.Json.Literals
import SqlGateway.Proofs.Json.Object

namespace SqlGateway.Json

namespace Reader

/-! ## Steps -/

/-- one octet leads from one state to another -/
def Next (st : State) (b : UInt8) (t : State) : Prop := step st b = .ok t

theorem run_of_leads {st t : State} {octets : List UInt8} (h : Leads Next st octets t) (count : Nat) :
    run st count octets = .ok t := by
  induction h generalizing count with
  | nil => rfl
  | cons hstep _ ih =>
    rw [Next] at hstep
    rw [run, hstep]
    exact ih _

theorem isBlank_of_mem : ∀ b ∈ ([32, 9, 10, 13] : List UInt8), isBlank b = true := by simp [isBlank]

theorem leads_blanks {st : State} (hst : st.phase.skipsBlanks = true) {blanks : List UInt8} (h : Blanks blanks) :
    Leads Next st blanks st := by
  induction blanks with
  | nil => exact .nil st
  | cons b rest ih =>
    obtain ⟨hb, hrest⟩ := List.forall_mem_cons.1 h
    have hstep : Next st b st := by simp [Next, step, hst, isBlank_of_mem b hb]
    exact .cons hstep (ih hrest)

theorem skipsBlanks_deliver (w : Json) (stack : List Frame) : (deliver w stack).phase.skipsBlanks = true := by
  rcases stack with _ | ⟨frame, stack⟩
  · rfl
  · cases frame <;> rfl

/-- behind a value that is complete -/
theorem step_deliver (w : Json) (stack : List Frame) (b : UInt8) :
    step (deliver w stack) b = afterValue (deliver w stack) b := by
  have hsolid : stepSolid (deliver w stack) b = afterValue (deliver w stack) b := by
    rcases stack with _ | ⟨frame, stack⟩
    · rfl
    · cases frame <;> rfl
  rw [step, skipsBlanks_deliver, hsolid, afterValue]
  cases isBlank b <;> rfl

/-! ## Values and what is behind them -/

/-- where a value may begin -/
inductive Expects (shape : Shape) : Phase → Prop
  | value : Expects shape (.value shape)
  | first : Expects shape (.firstItem shape)
  | next : Expects shape (.nextItem shape)

theorem Expects.skipsBlanks {shape : Shape} {phase : Phase} (h : Expects shape phase) : phase.skipsBlanks = true := by
  cases h <;> rfl

theorem Expects.step_eq {shape : Shape} {phase : Phase} (h : Expects shape phase) {b : UInt8} (hblank : isBlank b = false)
    (hend : b ≠ 93) (stack : List Frame) : step ⟨phase, stack⟩ b = startValue shape stack b := by
  cases h <;> simp [step, hblank, stepSolid, hend]

/-- the octets are a value of the shape, whole, and this is handed on for it -/
def Delivers (shape : Shape) (octets : List UInt8) (w : Json) : Prop :=
  ∀ phase stack, Expects shape phase → Leads Next ⟨phase, stack⟩ octets (deliver w stack)

/-- the octets are a value of the shape, which may end with the octet behind it -/
def Reads (shape : Shape) (octets : List UInt8) (w : Json) : Prop :=
  ∀ phase stack b st, Expects shape phase → b ∈ ends → Next (deliver w stack) b st →
    Leads Next ⟨phase, stack⟩ (octets ++ [b]) st

variable {shape : Shape} {octets : List UInt8} {v w : Json}

/-- a value from its first octet, which tells what it is, on one stack -/
theorem leads_of_start {first : UInt8} {rest : List UInt8} {phase : Phase} {stack : List Frame} {opened st : State}
    (hphase : Expects shape phase) (hsolid : isBlank first = false ∧ first ≠ 93)
    (hstart : startValue shape stack first = .ok opened) (h : Leads Next opened rest st) :
    Leads Next ⟨phase, stack⟩ (first :: rest) st := by
  have hfirst : Next ⟨phase, stack⟩ first opened := (hphase.step_eq hsolid.1 hsolid.2 stack).trans hstart
  exact .cons hfirst h

theorem delivers_of_start {first : UInt8} {rest : List UInt8} (opened : List Frame → State)
    (hsolid : isBlank first = false ∧ first ≠ 93) (hstart : ∀ stack, startValue shape stack first = .ok (opened stack))
    (h : ∀ stack, Leads Next (opened stack) rest (deliver w stack)) : Delivers shape (first :: rest) w :=
  fun _ stack hphase => leads_of_start hphase hsolid (hstart stack) (h stack)

theorem Delivers.reads (h : Delivers shape octets w) : Reads shape octets w := by
  intro phase stack b st hphase _ hst
  exact (h phase stack hphase).append (.single hst)

/-- as `Reads`, on one stack: how deep it is decides whether an array or object of any shape may be opened -/
def ReadsOn (stack : List Frame) (shape : Shape) (octets : List UInt8) (w : Json) : Prop :=
  ∀ phase b st, Expects shape phase → b ∈ ends → Next (deliver w stack) b st → Leads Next ⟨phase, stack⟩ (octets ++ [b]) st

theorem Reads.on (h : Reads shape octets w) (stack : List Frame) : ReadsOn stack shape octets w :=
  fun phase => h phase stack

theorem ReadsOn.padded {stack : List Frame} (h : ReadsOn stack shape octets w) {before after : List UInt8}
    (hbefore : Blanks before) (hafter : Blanks after) : ReadsOn stack shape (before ++ octets ++ after) w := by
  intro phase b st hphase hb hst
  have hskip : Leads Next ⟨phase, stack⟩ before ⟨phase, stack⟩ := leads_blanks hphase.skipsBlanks hbefore
  cases after with
  | nil =>
    rw [List.append_nil, List.append_assoc]
    exact hskip.append (h phase b st hphase hb hst)
  | cons a after =>
    -- the value ends with the first blank, the others change nothing
    obtain ⟨ha, hrest⟩ := List.forall_mem_cons.1 hafter
    have hblank : Next (deliver w stack) a (deliver w stack) := by
      simp [Next, step, skipsBlanks_deliver, isBlank_of_mem a ha]
    have hvalue := h phase a _ hphase (hafter.mem_ends a List.mem_cons_self) hblank
    have hbehind := (leads_blanks (skipsBlanks_deliver w stack) hrest).append (.single hst)
    have hall := hskip.append (hvalue.append hbehind)
    simpa using hall

theorem Reads.padded (h : Reads shape octets w) {before after : List UInt8} (hbefore : Blanks before)
    (hafter : Blanks after) : Reads shape (before ++ octets ++ after) w :=
  fun phase stack => (h.on stack).padded hbefore hafter phase

theorem deliverScalar_of_accept (h : shape.accept v = .ok w) (back : Nat) (stack : List Frame) :
    deliverScalar shape v back stack = .ok (deliver w stack) := by
  rw [deliverScalar, h]

/-! ## Names, strings and numbers -/

/-- the rest of a name -/
theorem leads_literal (h : shape.accept v = .ok w) {rest : List UInt8} (hne : rest ≠ []) (stack : List Frame) :
    Leads Next ⟨.literal (rest.map Char.ofUInt8) v shape, stack⟩ rest (deliver w stack) := by
  induction rest with
  | nil => exact absurd rfl hne
  | cons b rest ih =>
    cases rest with
    | nil =>
      have hlast : Next ⟨.literal [Char.ofUInt8 b] v shape, stack⟩ b (deliver w stack) := by
        simp [Next, step, Phase.skipsBlanks, stepSolid, deliverScalar_of_accept h]
      exact .single hlast
    | cons b' rest =>
      have hmore : Next ⟨.literal ((b :: b' :: rest).map Char.ofUInt8) v shape, stack⟩ b
          ⟨.literal ((b' :: rest).map Char.ofUInt8) v shape, stack⟩ := by
        simp [Next, step, Phase.skipsBlanks, stepSolid]
      exact .cons hmore (ih (List.cons_ne_nil _ _))

theorem delivers_null (h : shape.accept .null = .ok w) : Delivers shape (Utf8.encode "null") w :=
  delivers_of_start _ ⟨rfl, by decide⟩ (fun _ => rfl) (leads_literal h (List.cons_ne_nil 117 [108, 108]))

theorem delivers_true (h : shape.accept (.bool true) = .ok w) : Delivers shape (Utf8.encode "true") w :=
  delivers_of_start _ ⟨rfl, by decide⟩ (fun _ => rfl) (leads_literal h (List.cons_ne_nil 114 [117, 101]))

theorem delivers_false (h : shape.accept (.bool false) = .ok w) : Delivers shape (Utf8.encode "false") w :=
  delivers_of_start _ ⟨rfl, by decide⟩ (fun _ => rfl) (leads_literal h (List.cons_ne_nil 97 [108, 115, 101]))

theorem next_string {s t : StringLiteral} {b : UInt8} (h : StringLiteral.Next shape.isIgnored s b t)
    (stack : List Frame) :
    Next ⟨.string s shape, stack⟩ b ⟨.string t shape, stack⟩ := by
  rw [StringLiteral.Next] at h
  simp [Next, step, Phase.skipsBlanks, stepSolid, h, bind, Except.bind, pure, Except.pure]

/-- the characters between the quotes; their octets are kept unless the string is passed over -/
theorem leads_string {s : String} {inner : List UInt8} (h : SpellsChars s.toList inner) (shape : Shape)
    (stack : List Frame) :
    ∃ octets, Leads Next ⟨.string .start shape, stack⟩ inner ⟨.string ⟨.plain, octets⟩ shape, stack⟩ ∧
      (shape.isIgnored = false → octets = (Utf8.encode s).reverse) := by
  obtain ⟨octets, hleads, hoctets⟩ := StringLiteral.leads_chars h shape.isIgnored []
  rw [List.append_nil] at hoctets
  have hlift := hleads.lift (f := fun s => State.mk (.string s shape) stack) fun _ _ _ hs => next_string hs stack
  exact ⟨octets, hlift, hoctets⟩

theorem delivers_string {s : String} (h : Quotes s octets) (hwanted : shape.isIgnored = false)
    (haccept : shape.accept (.string s) = .ok w) : Delivers shape octets w := by
  cases h with
  | @quotes inner hchars =>
    refine delivers_of_start (State.mk (.string .start shape)) ⟨rfl, by decide⟩ (fun _ => rfl) fun stack => ?_
    obtain ⟨octets, hleads, hoctets⟩ := leads_string hchars shape stack
    have hend : Next ⟨.string ⟨.plain, octets⟩ shape, stack⟩ 34 (deliver w stack) := by
      have hquote : StringLiteral.step false ⟨.plain, octets⟩ 34 = .ok none := rfl
      rw [hoctets hwanted] at hquote ⊢
      simp [Next, step, Phase.skipsBlanks, stepSolid, hwanted, hquote, StringLiteral.text_of_octets, bind, Except.bind,
        deliverScalar_of_accept haccept]
    exact hleads.append (.single hend)

theorem delivers_ignoredString {s : String} (h : Quotes s octets) : Delivers .ignored octets .null := by
  cases h with
  | @quotes inner hchars =>
    refine delivers_of_start (State.mk (.string .start .ignored)) ⟨rfl, by decide⟩ (fun _ => rfl) fun stack => ?_
    obtain ⟨octets, hleads, -⟩ := leads_string hchars .ignored stack
    exact hleads.append (.single rfl)

theorem next_number {n m : Numeral} {b : UInt8} (h : Numeral.Next shape.isIgnored n b m) (stack : List Frame) :
    Next ⟨.number n shape, stack⟩ b ⟨.number m shape, stack⟩ := by
  rw [Numeral.Next] at h
  simp [Next, step, Phase.skipsBlanks, stepSolid, h, bind, Except.bind, pure, Except.pure]

/-- what begins a numeral begins nothing else -/
theorem startValue_of_start? {b : UInt8} {n : Numeral} (h : Numeral.start? b = some n) (shape : Shape)
    (stack : List Frame) :
    startValue shape stack b = .ok ⟨.number n shape, stack⟩ ∧ isBlank b = false ∧ b ≠ 93 := by
  have hcode := Numeral.code_of_start? h
  have hother : ∀ c : UInt8, ¬ (c.toNat = 45 ∨ 48 ≤ c.toNat ∧ c.toNat ≤ 57) → b ≠ c := by
    rintro c hc rfl
    exact hc hcode
  refine ⟨?_, ?_, hother 93 (by decide)⟩
  · have hchar : ∀ c : Char, ¬ (c.toNat = 45 ∨ 48 ≤ c.toNat ∧ c.toNat ≤ 57) → Char.ofUInt8 b ≠ c := by
      rintro c hc rfl
      exact hc hcode
    unfold startValue
    split
    · exact absurd ‹_› (hchar 'n' (by decide))
    · exact absurd ‹_› (hchar 't' (by decide))
    · exact absurd ‹_› (hchar 'f' (by decide))
    · exact absurd ‹_› (hchar '"' (by decide))
    · exact absurd ‹_› (hchar '[' (by decide))
    · exact absurd ‹_› (hchar '\x7b' (by decide))
    · rw [h]
  · simp [isBlank, hother 32 (by decide), hother 10 (by decide), hother 9 (by decide), hother 13 (by decide)]

/-- a numeral up to its last octet, by its own reader -/
theorem leads_number {b : UInt8} {rest : List UInt8} {n m : Numeral} (hstart : Numeral.start? b = some n)
    (hleads : Leads (Numeral.Next shape.isIgnored) n rest m) {phase : Phase} (hphase : Expects shape phase)
    (stack : List Frame) : Leads Next ⟨phase, stack⟩ (b :: rest) ⟨.number m shape, stack⟩ := by
  obtain ⟨hopened, hsolid⟩ := startValue_of_start? hstart shape stack
  have hlift := hleads.lift (f := fun n => State.mk (.number n shape) stack) fun _ _ _ hs => next_number hs stack
  exact leads_of_start hphase hsolid hopened hlift

/-- a numeral and what may follow it, which ends it -/
theorem reads_numeral {b : UInt8} {rest : List UInt8} {n m : Numeral} (hstart : Numeral.start? b = some n)
    (hleads : Leads (Numeral.Next shape.isIgnored) n rest m) (hcomplete : m.isComplete = true)
    (hdeliver : ∀ stack, deliverNumber m shape 1 stack = .ok (deliver w stack)) : Reads shape (b :: rest) w := by
  intro phase stack e st hphase he hst
  have hend : Next ⟨.number m shape, stack⟩ e st := by
    have hdone := Numeral.step_of_mem_ends hcomplete shape.isIgnored he
    have hbehind : afterValue (deliver w stack) e = .ok st := (step_deliver w stack e).symm.trans hst
    simp [Next, step, Phase.skipsBlanks, stepSolid, hdone, hdeliver, hbehind, bind, Except.bind]
  exact (leads_number hstart hleads hphase stack).append (.single hend)

theorem reads_integer {n : Int} (hlow : -2 ^ 63 ≤ n) (hhigh : n < 2 ^ 64) (hwanted : shape.isIgnored = false)
    (haccept : shape.accept (.number (.integer n)) = .ok w) : Reads shape (Utf8.encode (toString n)) w := by
  obtain ⟨b, rest, start, m, hoctets, hstart, hleads, hcomplete, hvalue⟩ := Numeral.leads_integer hlow hhigh
  rw [hoctets]
  rw [← hwanted] at hleads
  refine reads_numeral hstart hleads hcomplete fun stack => ?_
  rw [deliverNumber, hwanted, hvalue]
  exact deliverScalar_of_accept haccept 1 stack

theorem reads_ignoredNumeral (h : IsNumeral octets) : Reads .ignored octets .null := by
  obtain ⟨b, rest, n, m, rfl, hstart, hleads, hcomplete⟩ := Numeral.leads_numeral h
  exact reads_numeral hstart hleads hcomplete fun stack => rfl

/-! ## Members -/

/-- where a key may begin -/
inductive ExpectsKey : Phase → Prop
  | first : ExpectsKey .firstKey
  | next : ExpectsKey .nextKey

theorem ExpectsKey.skipsBlanks {phase : Phase} (h : ExpectsKey phase) : phase.skipsBlanks = true := by
  cases h <;> rfl

theorem next_key {s t : StringLiteral} {b : UInt8} {stack : List Frame}
    (h : StringLiteral.Next (isIgnored stack) s b t) :
    Next ⟨.key s, stack⟩ b ⟨.key t, stack⟩ := by
  rw [StringLiteral.Next] at h
  simp [Next, step, Phase.skipsBlanks, stepSolid, h, bind, Except.bind, pure, Except.pure]

/-- a key; its text is known unless what is open is passed over -/
theorem leads_key {key : String} (h : Quotes key octets) {phase : Phase} (hphase : ExpectsKey phase)
    {stack : List Frame} {st : State} (hst : ∀ s, (isIgnored stack = false → s.text = .ok key) → deliverKey s stack = .ok st) :
    Leads Next ⟨phase, stack⟩ octets st := by
  cases h with
  | @quotes inner hchars =>
    have hstart : Next ⟨phase, stack⟩ 34 ⟨.key .start, stack⟩ := by cases hphase <;> rfl
    obtain ⟨octets, hleads, hoctets⟩ := StringLiteral.leads_chars hchars (isIgnored stack) []
    have hlift := hleads.lift (f := fun s => State.mk (.key s) stack) fun _ _ _ hs => next_key hs
    have hend : Next ⟨.key ⟨.plain, octets⟩, stack⟩ 34 st := by
      have hquote : StringLiteral.step (isIgnored stack) ⟨.plain, octets⟩ 34 = .ok none := rfl
      have hdeliver : deliverKey ⟨.plain, octets⟩ stack = .ok st := by
        apply hst
        intro hwanted
        rw [hoctets hwanted, List.append_nil]
        exact StringLiteral.text_of_octets key
      simp [Next, step, Phase.skipsBlanks, stepSolid, hquote, hdeliver, bind, Except.bind]
    exact .cons hstart (hlift.append (.single hend))

/-- a member: its key, which tells the shape of its value, and the value -/
theorem leads_member {key : String} {before quoted between : List UInt8} (hbefore : Blanks before)
    (hquoted : Quotes key quoted) (hbetween : Blanks between) {phase : Phase} (hphase : ExpectsKey phase)
    {stack opened : List Frame}
    (hkey : ∀ s, (isIgnored stack = false → s.text = .ok key) → deliverKey s stack = .ok ⟨.colon shape, opened⟩)
    (hvalue : ReadsOn opened shape octets w) {b : UInt8} (hb : b ∈ ends) {st : State}
    (hst : Next (deliver w opened) b st) :
    Leads Next ⟨phase, stack⟩ (before ++ quoted ++ between ++ 58 :: octets ++ [b]) st := by
  have hskip : Leads Next ⟨phase, stack⟩ before ⟨phase, stack⟩ := leads_blanks hphase.skipsBlanks hbefore
  have hname := leads_key hquoted hphase hkey
  have hspace : Leads Next ⟨.colon shape, opened⟩ between ⟨.colon shape, opened⟩ := leads_blanks rfl hbetween
  have hcolon : Next ⟨.colon shape, opened⟩ 58 ⟨.value shape, opened⟩ := rfl
  have hbehind := hvalue (.value shape) b st .value hb hst
  have hall := hskip.append (hname.append (hspace.append (.cons hcolon hbehind)))
  simpa using hall

/-! ## What is passed over -/

/-- an array that is passed over, from its first item or its end -/
theorem delivers_ignoredArray
    (h : ∀ stack, Leads Next ⟨.firstItem .ignored, .ignoredArray :: stack⟩ octets (deliver .null stack)) :
    Delivers .ignored (91 :: octets) .null :=
  delivers_of_start (fun stack => ⟨.firstItem .ignored, .ignoredArray :: stack⟩) ⟨rfl, by decide⟩ (fun _ => rfl) h

/-- an object that is passed over, from its first key or its end -/
theorem delivers_ignoredObject
    (h : ∀ stack, Leads Next ⟨.firstKey, .ignoredObject :: stack⟩ octets (deliver .null stack)) :
    Delivers .ignored (123 :: octets) .null :=
  delivers_of_start (fun stack => ⟨.firstKey, .ignoredObject :: stack⟩) ⟨rfl, by decide⟩ (fun _ => rfl) h

-- by how the value is written: each part is passed over, whatever frames are below
mutual

/-- **Every value is passed over whole**, in whatever layout it is written. -/
theorem reads_ignored {v : Json} {octets : List UInt8} : Writes v octets → Reads .ignored octets .null
  | .null => (delivers_null rfl).reads
  | .bool true => (delivers_true rfl).reads
  | .bool false => (delivers_false rfl).reads
  | .integer n => reads_ignoredNumeral (isNumeral_integer n)
  | .float _ h => reads_ignoredNumeral h
  | .string h => (delivers_ignoredString h).reads
  | .emptyArray h => (delivers_ignoredArray fun _ => (leads_blanks rfl h).append (.single (b := 93) rfl)).reads
  | .array h => (delivers_ignoredArray fun _ => leads_ignoredItems h .first).reads
  | .emptyObject h => (delivers_ignoredObject fun _ => (leads_blanks rfl h).append (.single (b := 125) rfl)).reads
  | .object h => (delivers_ignoredObject fun _ => leads_ignoredMembers h .first).reads

theorem reads_ignoredPadded {v : Json} {octets : List UInt8} : WritesPadded v octets → Reads .ignored octets .null
  | .padded hbefore h hafter => (reads_ignored h).padded hbefore hafter

theorem leads_ignoredItems {items : List Json} {octets : List UInt8} {phase : Phase} {stack : List Frame} :
    WritesItems items octets → Expects .ignored phase →
      Leads Next ⟨phase, .ignoredArray :: stack⟩ (octets ++ [93]) (deliver .null stack)
  | .last h, hphase => reads_ignoredPadded h phase _ 93 _ hphase (by decide) rfl
  | .more h hrest, hphase => by
    have hfirst := reads_ignoredPadded h phase (.ignoredArray :: stack) 44 _ hphase (by decide) rfl
    have hall := hfirst.append (leads_ignoredItems hrest .next)
    simpa using hall

theorem leads_ignoredMember {key : String} {v : Json} {octets : List UInt8} {phase : Phase} {stack : List Frame}
    {b : UInt8} {st : State} : WritesMember key v octets → ExpectsKey phase → b ∈ ends →
      Next (deliver .null (.ignoredObject :: stack)) b st →
        Leads Next ⟨phase, .ignoredObject :: stack⟩ (octets ++ [b]) st
  | .member hbefore hquoted hbetween h, hphase, hb, hst =>
    leads_member hbefore hquoted hbetween hphase (fun _ _ => rfl) ((reads_ignoredPadded h).on _) hb hst

theorem leads_ignoredMembers {members : List (String × Json)} {octets : List UInt8} {phase : Phase}
    {stack : List Frame} :
    WritesMembers members octets → ExpectsKey phase →
      Leads Next ⟨phase, .ignoredObject :: stack⟩ (octets ++ [125]) (deliver .null stack)
  | .last h, hphase => leads_ignoredMember h hphase (by decide) rfl
  | @WritesMembers.more _ _ _ first _ h hrest, hphase => by
    have hfirst : Leads Next ⟨phase, .ignoredObject :: stack⟩ (first ++ [44]) ⟨.nextKey, .ignoredObject :: stack⟩ :=
      leads_ignoredMember h hphase (by decide) rfl
    have hall := hfirst.append (leads_ignoredMembers hrest .next)
    simpa using hall

end

/-! ## What a shape takes -/

mutual

/-- a value of the shape, and what is handed on for it -/
inductive Takes : Shape → Json → Json → Prop
  | ignored (v : Json) : Takes .ignored v .null
  | text (s : String) : Takes .text (.string s) (.string s)
  | optionalText (s : String) : Takes .optionalText (.string s) (.string s)
  | noText : Takes .optionalText .null .null
  | natural (name : String) {bound n : Nat} :
    n < bound → n < UInt64.size → Takes (.natural name bound) (.natural n) (.natural n)
  | record (name : String) {fields : List (String × Shape)} {members pairs : List (String × Json)} :
    TakesMembers fields members pairs → Takes (.record name fields) (.object members) (.object (putAll pairs []))

/-- members one by one: a field of its shape and only once, anything else passed over -/
inductive TakesMembers : List (String × Shape) → List (String × Json) → List (String × Json) → Prop
  | nil (fields : List (String × Shape)) : TakesMembers fields [] []
  | cons {fields : List (String × Shape)} {key : String} {v w : Json} {members pairs : List (String × Json)} :
    Takes ((fields.lookup key).getD .ignored) v w → ((fields.lookup key).isSome → key ∉ keys members) →
      TakesMembers fields members pairs → TakesMembers fields ((key, v) :: members) ((key, w) :: pairs)

end

theorem deliverKey_record {fields : List (String × Shape)} {members : List (String × Json)} {key before : String}
    (hfresh : (fields.lookup key).isSome → members.lookup key = none) (stack : List Frame) {s : StringLiteral}
    (hs : s.text = .ok key) : deliverKey s (.record fields members before :: stack) =
      .ok ⟨.colon ((fields.lookup key).getD .ignored), .record fields members key :: stack⟩ := by
  unfold deliverKey
  cases hfield : fields.lookup key with
  | none => simp [hs, hfield, bind, Except.bind, pure, Except.pure]
  | some shape =>
    rw [hfield] at hfresh
    simp [hs, hfield, hfresh, bind, Except.bind, pure, Except.pure]

theorem TakesMembers.eq_nil {fields : List (String × Shape)} {pairs : List (String × Json)}
    (h : TakesMembers fields [] pairs) : pairs = [] := by
  cases h
  rfl

/-- a record from its brace, by what comes of its members -/
theorem delivers_record {name : String} {fields : List (String × Shape)} {members pairs : List (String × Json)}
    (h : Writes (.object members) octets) (htakes : TakesMembers fields members pairs)
    (hmembers : ∀ stack inner, WritesMembers members inner → Leads Next ⟨.firstKey, .record fields [] "" :: stack⟩
      (inner ++ [125]) (deliver (.object (putAll pairs [])) stack)) :
    Delivers (.record name fields) octets (.object (putAll pairs [])) := by
  have hopen : ∀ {rest},
      (∀ stack, Leads Next ⟨.firstKey, .record fields [] "" :: stack⟩ rest (deliver (.object (putAll pairs [])) stack)) →
        Delivers (.record name fields) (123 :: rest) (.object (putAll pairs [])) :=
    delivers_of_start (fun stack => ⟨.firstKey, .record fields [] "" :: stack⟩) ⟨rfl, by decide⟩ (fun _ => rfl)
  cases h with
  | emptyObject hblanks =>
    obtain rfl := htakes.eq_nil
    exact hopen fun _ => (leads_blanks rfl hblanks).append (.single rfl)
  | object hinner => exact hopen fun stack => hmembers stack _ hinner

/-- a member of a record: its key must be fresh if it names a field -/
theorem leads_recordMember {fields : List (String × Shape)} {before : List (String × Json)} {key : String}
    (hfresh : (fields.lookup key).isSome → before.lookup key = none) (h : WritesMember key v octets)
    (hvalue : ∀ text, Writes v text → Reads ((fields.lookup key).getD .ignored) text w) {phase : Phase}
    (hphase : ExpectsKey phase) {stack : List Frame} {b : UInt8} (hb : b ∈ ends) {st : State}
    (hst : Next (deliver w (.record fields before key :: stack)) b st) (last : String) :
    Leads Next ⟨phase, .record fields before last :: stack⟩ (octets ++ [b]) st := by
  cases h with
  | member hblanks hquoted hbetween hpadded =>
    cases hpadded with
    | padded hbefore hwrites hafter =>
      have hread := ((hvalue _ hwrites).padded hbefore hafter).on (.record fields before key :: stack)
      exact leads_member hblanks hquoted hbetween hphase (fun s hs => deliverKey_record hfresh stack (hs rfl)) hread hb hst

-- by what is taken; the members before the next one are those that the frame has collected
mutual

/-- **What a shape takes is read**, in whatever layout it is written. -/
theorem reads_of_takes : ∀ {shape : Shape} {v w : Json} {octets : List UInt8},
    Takes shape v w → Writes v octets → Reads shape octets w
  | _, _, _, _, .ignored _, h => reads_ignored h
  | _, _, _, _, .text _, .string h => (delivers_string h rfl rfl).reads
  | _, _, _, _, .optionalText _, .string h => (delivers_string h rfl rfl).reads
  | _, _, _, _, .noText, h => by
    cases h with
    | null => exact (delivers_null rfl).reads
  | _, _, _, _, .natural name hbound hsize, h => by
    cases h with
    | integer =>
      rw [UInt64.size] at hsize
      exact reads_integer (by omega) (by omega) rfl (by simp [Shape.accept, Json.natural, hbound])
  | _, _, _, _, .record _ htakes, h =>
    (delivers_record h htakes fun _ _ hinner => leads_members htakes hinner .first fun _ _ _ => rfl).reads

/-- the members of a record from one of them on, with those before it -/
theorem leads_members : ∀ {fields : List (String × Shape)} {members pairs : List (String × Json)} {octets : List UInt8}
    {phase : Phase} {stack : List Frame} {before : List (String × Json)} {last : String},
    TakesMembers fields members pairs → WritesMembers members octets → ExpectsKey phase →
      (∀ key ∈ keys members, (fields.lookup key).isSome → before.lookup key = none) →
      Leads Next ⟨phase, .record fields before last :: stack⟩ (octets ++ [125])
        (deliver (.object (putAll pairs before)) stack)
  | fields, _, _, octets, phase, stack, before, last, @TakesMembers.cons _ key v w _ _ htakes _ hrest, .last h, hphase,
      hbefore => by
    obtain rfl := hrest.eq_nil
    have hfresh : (fields.lookup key).isSome → before.lookup key = none := hbefore key List.mem_cons_self
    have hend : Next (deliver w (.record fields before key :: stack)) 125
        (deliver (.object (put key w before)) stack) := rfl
    exact leads_recordMember hfresh h (fun _ => reads_of_takes htakes) hphase (by decide) hend last
  | fields, _, _, _, phase, stack, before, last, @TakesMembers.cons _ key v w members pairs htakes honce hrest,
      @WritesMembers.more _ _ _ first rest h hmore, hphase, hbefore => by
    have hfresh : (fields.lookup key).isSome → before.lookup key = none := hbefore key List.mem_cons_self
    have hcomma : Next (deliver w (.record fields before key :: stack)) 44
        ⟨.nextKey, .record fields (put key w before) key :: stack⟩ := rfl
    have hfirst := leads_recordMember hfresh h (fun _ => reads_of_takes htakes) hphase (by decide) hcomma last
    have hlater : ∀ k ∈ keys members, (fields.lookup k).isSome → (put key w before).lookup k = none := by
      intro k hk hfield
      have hne : k ≠ key := by
        rintro rfl
        exact honce hfield hk
      rw [lookup_put, if_neg hne]
      exact hbefore k (List.mem_cons_of_mem _ hk) hfield
    have hall := hfirst.append (leads_members hrest hmore .next hlater)
    rwa [List.append_assoc, List.singleton_append, ← List.cons_append, ← List.append_assoc] at hall

end

end Reader

/-! ## Main result -/

open Reader in
/-- **A document of a record's shape is read in any layout.** -/
theorem readShape_of_takes {name : String} {fields : List (String × Shape)} {members pairs : List (String × Json)}
    {octets : List UInt8} (htakes : TakesMembers fields members pairs) (h : IsText (.object members) octets) :
    readShape (.record name fields) octets = .ok (.object (putAll pairs [])) := by
  cases h with
  | padded hbefore hwrites hafter =>
    have hdocument : Delivers (.record name fields) _ (.object (putAll pairs [])) :=
      delivers_record hwrites htakes fun _ _ hinner => leads_members htakes hinner .first fun _ _ _ => rfl
    have hleads : Leads Next ⟨.value (.record name fields), []⟩ _ (deliver (.object (putAll pairs [])) []) :=
      (leads_blanks rfl hbefore).append ((hdocument _ [] .value).append (leads_blanks rfl hafter))
    rw [← List.append_assoc] at hleads
    rw [readShape, run_of_leads hleads]
    rfl

end SqlGateway.Json
