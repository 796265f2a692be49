/-
Showing a statement and sending it. The `render` command and the gateway read a body each in its own way: the command
reads a text and takes one of White_Space alone for an empty object, the gateway reads octets and does so for the white
space of ASCII alone.
- `requestOfText_eq_decodeBody`: on a text that is blank to both or to neither (`BlankAlike`) they read the same value,
  or report the same fault.
- `render_agrees_with_gateway`: for POST, PUT and DELETE the statement that is shown is the one that is sent, and what
  the command reports is what the gateway answers, with status 400.

The request may be any that says the same as the command's arguments (`Poses`); `posing` is one.
-/
import SqlGateway.Command.Run
import SqlGateway.Proofs.Http.Form
import SqlGateway.Proofs.Http.Report
import SqlGateway.Proofs.Text.Utf8

namespace SqlGateway.Command

open Http

/-! ## Blank texts -/

/-- the characters that both readers take for white space -/
def asciiBlanks : List Char := [' ', '\t', '\n', '\r', '\x0c']

/-- something in the text is no white space, or everything is white space of ASCII -/
def BlankAlike (text : String) : Prop :=
  (∃ c ∈ text.toList, Text.isBlank c = false) ∨ ∀ c ∈ text.toList, c ∈ asciiBlanks

theorem mem_asciiBlanks {c : Char} : c ∈ asciiBlanks ↔ c.val.toNat ∈ [32, 9, 10, 13, 12] := by
  simp [asciiBlanks, Char.ext_iff, ← UInt32.toNat_inj]

theorem isBlankOctet_iff {b : UInt8} : Text.isBlankOctet b = true ↔ b.toNat ∈ [32, 9, 10, 13, 12] := by
  simp only [Text.isBlankOctet, Bool.or_eq_true, beq_iff_eq, ← UInt8.toNat_inj]
  simp
  omega

theorem encodeChar_blank (c : Char) :
    (∀ b ∈ String.utf8EncodeChar c, Text.isBlankOctet b = true) ↔ c ∈ asciiBlanks := by
  simp only [mem_asciiBlanks, isBlankOctet_iff]
  have hval : c.val.toNat = c.toNat := rfl
  rw [hval]
  by_cases hsmall : c.toNat < 128
  · have hv : (UInt8.ofNat c.toNat).toNat = c.toNat := UInt8.toNat_ofNat_of_lt' (Nat.lt_trans hsmall (by decide))
    rw [Utf8.encodeChar_of_small hsmall]
    simp only [List.forall_mem_singleton, hv]
  · have hlarge := Utf8.encodeChar_of_large (Nat.le_of_not_lt hsmall)
    obtain ⟨b, rest, hencode⟩ := List.exists_cons_of_ne_nil (String.utf8EncodeChar_ne_nil (c := c))
    rw [hencode] at hlarge ⊢
    constructor
    · intro h
      have hb := h b List.mem_cons_self
      have hlargest := hlarge b List.mem_cons_self
      simp only [List.mem_cons, List.not_mem_nil, or_false] at hb
      omega
    · intro h
      simp only [List.mem_cons, List.not_mem_nil, or_false] at h
      omega

theorem encode_blank {text : String} :
    (Utf8.encode text).all Text.isBlankOctet = true ↔ ∀ c ∈ text.toList, c ∈ asciiBlanks := by
  simp only [Utf8.encode, List.all_eq_true, List.mem_flatMap]
  constructor
  · intro h c hc
    exact (encodeChar_blank c).1 fun b hb => h b ⟨c, hc, hb⟩
  · rintro h b ⟨c, hc, hb⟩
    exact (encodeChar_blank c).2 (h c hc) b hb

theorem isBlank_of_mem_asciiBlanks : ∀ c ∈ asciiBlanks, Text.isBlank c = true := by
  apply List.all_eq_true.1
  rfl

theorem BlankAlike.iff {text : String} (h : BlankAlike text) :
    text.toList.all Text.isBlank = true ↔ (Utf8.encode text).all Text.isBlankOctet = true := by
  rw [encode_blank, List.all_eq_true]
  constructor
  · intro hall
    rcases h with ⟨c, hc, hsolid⟩ | hascii
    · exact absurd ((hall c hc).symm.trans hsolid) nofun
    · exact hascii
  · intro hascii c hc
    exact isBlank_of_mem_asciiBlanks c (hascii c hc)

/-- **One reading of a body.** The value or the fault that the command reads from a text is the one that the gateway
reads from its octets. -/
theorem requestOfText_eq_decodeBody {text : String} (h : BlankAlike text) :
    requestOfText text = (decodeBody (Utf8.encode text)).mapError .json := by
  unfold requestOfText decodeBody
  by_cases hblank : text.toList.all Text.isBlank = true
  · rw [if_pos hblank, if_pos (h.iff.1 hblank)]
    rfl
  · rw [if_neg hblank, if_neg (mt h.iff.2 hblank)]
    rfl

/-! ## The same request -/

/-- the request says what the arguments and the input of the command say -/
structure Poses (r : Request) (table method : String) (type : Option String) (text : String) : Prop where
  method : r.method = method
  table : r.Addresses table
  types : r.types = type.toList
  body : r.body = Utf8.encode text

/-- a request that does so, its table and type escaped -/
def posing (table method : String) (type : Option String) (text : String) : Request :=
  ⟨method, ⟨Target.tablePath table, Form.encode (type.toList.map fun t => ("type", t))⟩, [], Utf8.encode text⟩

theorem poses_posing {table : String} (hne : table ≠ "") (method : String) (type : Option String) (text : String) :
    Poses (posing table method type text) table method type text := by
  refine ⟨rfl, addresses_encode rfl hne, ?_, rfl⟩
  simp only [Request.types, posing, Form.decode_encode]
  cases type <;> simp

/-- PUT and DELETE have an operation of their own, POST finds its by the type: it is the one that the command finds -/
theorem Poses.plan_eq {r : Request} {table method text : String} {type : Option String}
    (h : Poses r table method type text) (hmethod : method ∈ ["POST", "PUT", "DELETE"]) :
    plan r = readBody r.body >>= fun v => sent v (Statement.ofRequest table method type v) := by
  simp only [List.mem_cons, List.not_mem_nil, or_false] at hmethod
  rcases hmethod with rfl | rfl | rfl
  · rw [plan_of_addresses .post h.method h.table, Verb.handle, post_eq, requestType_eq_ok.2 h.types]
    rfl
  · have hop : Operation.ofRequest "PUT" type = .ok .select := rfl
    simp only [plan_of_addresses .put h.method h.table, Verb.handle, put_eq, Statement.ofRequest, hop]
    rfl
  · have hop : Operation.ofRequest "DELETE" type = .ok .delete := rfl
    simp only [plan_of_addresses .delete h.method h.table, Verb.handle, delete_eq, Statement.ofRequest, hop]
    rfl

/-! ## The same answer -/

variable {σ : Type}

/-- the gateway sends nothing and answers 400, with this message and this echo -/
structure Refuses (store : Store σ) (state : σ) (r : Request) (message : String) (request : Json) : Prop where
  unsent : received store state [r] = []
  status : (step store state r).1.response.status = 400
  json : ∃ v, (step store state r).1.response.HasJson v ∧ v.get? "msg" = some (.string message) ∧
    v.get? "req" = some request

theorem sends_of_plan {r : Request} {call : Call} (h : plan r = .ok call) (store : Store σ) (state : σ) :
    received store state [r] = [call] := by
  rw [received_eq, List.flatMap_singleton, Request.calls, h]

theorem refuses_of_plan {r : Request} {table : String} {e : BuildError} {v : Json}
    (hmethod : r.method ∈ ["GET", "POST", "PUT", "DELETE"]) (haddr : r.Addresses table)
    (h : plan r = .error (.refusal e v)) (store : Store σ) (state : σ) : Refuses store state r e.message v := by
  have hstep : (step store state r).1.response = (Cors.wrap r (.refusal e v)).send false := by
    rw [step_of_addresses store state hmethod haddr, h]
    rfl
  refine ⟨?_, ?_, ?_⟩
  · rw [received_eq, List.flatMap_singleton, Request.calls, h]
  · rw [hstep]
    rfl
  · rw [hstep]
    exact ⟨_, hasJson_send rfl, rfl, rfl⟩

/-! ## Main result -/

/-- **What is shown is what is sent.** For every table, request type and text: a statement that the command shows is the
one that the gateway sends; a message that it shows is the gateway's, which sends nothing and echoes the body; and a
fault of the JSON text is reported by both in the same words. -/
theorem render_agrees_with_gateway {table method text : String} {type : Option String}
    (hmethod : method ∈ ["POST", "PUT", "DELETE"]) (htable : table ≠ "") (htext : BlankAlike text) :
    Poses (posing table method type text) table method type text ∧
    ∀ r, Poses r table method type text → ∀ (σ : Type) (store : Store σ) (state : σ),
      (∀ body s, requestOfText text = .ok body → Statement.ofRequest table method type body = .ok s →
        received store state [r] = [s.call]) ∧
      (∀ body e, requestOfText text = .ok body → Statement.ofRequest table method type body = .error e →
        Refuses store state r e.message body) ∧
      ∀ e, requestOfText text = .error e →
        ∃ p : Json.ReadError, e = .json p ∧ Refuses store state r ("Invalid JSON body: " ++ p.message) .null := by
  refine ⟨poses_posing htable method type text, fun r hr σ store state => ?_⟩
  have hplan := hr.plan_eq hmethod
  have hverb : r.method ∈ ["GET", "POST", "PUT", "DELETE"] := hr.method ▸ List.mem_cons_of_mem _ hmethod
  have hbody := requestOfText_eq_decodeBody htext
  rw [hr.body, readBody] at hplan
  cases hread : decodeBody (Utf8.encode text) with
  | error p =>
    rw [hread] at hbody hplan
    refine ⟨fun body s h => ?_, fun body e h => ?_, fun e h => ?_⟩
    · cases hbody.symm.trans h
    · cases hbody.symm.trans h
    · cases hbody.symm.trans h
      exact ⟨p, rfl, refuses_of_plan hverb hr.table hplan store state⟩
  | ok v =>
    rw [hread] at hbody hplan
    change plan r = sent v (Statement.ofRequest table method type v) at hplan
    refine ⟨fun body s h hs => ?_, fun body e h he => ?_, fun e h => ?_⟩
    · cases hbody.symm.trans h
      rw [hs] at hplan
      exact sends_of_plan hplan store state
    · cases hbody.symm.trans h
      rw [he] at hplan
      exact refuses_of_plan hverb hr.table hplan store state
    · cases hbody.symm.trans h

/-- a no-break space is white space to the command, but no white space of JSON -/
def spacedText : String := "\u00a0\x7b\x7d"

theorem render_agrees_on_spacedText :
    ("POST" ∈ ["POST", "PUT", "DELETE"] ∧ "a/b" ≠ "" ∧ BlankAlike spacedText) ∧
    requestOfText spacedText = .error (.json ⟨.expectedValue, 1, 1⟩) ∧
    ∀ (σ : Type) (store : Store σ) (state : σ),
      Refuses store state (posing "a/b" "POST" (some "upsert") spacedText)
        "Invalid JSON body: expected value at line 1 column 1" .null := by
  have hmethod : "POST" ∈ ["POST", "PUT", "DELETE"] := by decide
  have htable : "a/b" ≠ "" := by decide
  have htext : BlankAlike spacedText := .inl ⟨'\x7b', by decide, by decide⟩
  have hread : requestOfText spacedText = .error (.json ⟨.expectedValue, 1, 1⟩) := by rfl
  refine ⟨⟨hmethod, htable, htext⟩, hread, fun σ store state => ?_⟩
  have h := @render_agrees_with_gateway "a/b" "POST" spacedText (some "upsert") hmethod htable htext
  obtain ⟨p, hp, hrefuses⟩ := (h.2 _ h.1 σ store state).2.2 _ hread
  cases hp
  exact hrefuses

end SqlGateway.Command
