/-
What `render` writes. One line comes out of every request that can be read, and the line is a JSON object that tells the
statement or why there is none.

- `isLineOf_compact`: an exact value and a line break are one line of that value.
- `render_writes_line`: whatever characters a table, a type or a body put into the statement, or a column's name into the
  message, they come back out of the line as they are.
-/
import SqlGateway.Command.Run
import SqlGateway.Proofs.Json.RoundTrip

namespace SqlGateway.Command

/-- the line break -/
def lineBreak : UInt8 := 10

/-- the octets are one line, which says this value: the only line break is the last octet, and what stands before it is a
JSON text of the value, which is read as the value -/
structure IsLineOf (v : Json) (octets : List UInt8) : Prop where
  single : octets.count lineBreak = 1
  last : octets.getLast? = some lineBreak
  text : Json.IsText v octets.dropLast
  reads : Json.read octets.dropLast = .ok v

theorem isLineOf_concat {v : Json} {line : List UInt8} (hunbroken : lineBreak ∉ line) (htext : Json.IsText v line)
    (hread : Json.read line = .ok v) : IsLineOf v (line ++ [lineBreak]) where
  single := by
    rw [List.count_append, List.count_eq_zero_of_not_mem hunbroken]
    rfl
  last := List.getLast?_concat
  text := by rwa [List.dropLast_concat]
  reads := by rwa [List.dropLast_concat]

/-- **An exact value in compact form and a line break are one line**, whatever characters its strings hold. -/
theorem isLineOf_compact {v : Json} (hv : Json.Exact Json.Reader.maxDepth v) :
    IsLineOf v (Utf8.encode (v.compact ++ "\n")) := by
  have hunbroken : lineBreak ∉ Utf8.encode v.compact := by
    intro hmem
    exact absurd (Json.printed_compact v _ hmem) (by decide)
  rw [Utf8.encode_append]
  exact isLineOf_concat hunbroken (Json.isText_compact v) (Json.read_compact hv)

/-- an object of texts loses nothing in writing, if no key comes twice -/
theorem exact_texts {members : List (String × String)} (h : (members.map Prod.fst).Nodup) :
    Json.Exact Json.Reader.maxDepth (.object (members.map fun m => (m.1, .string m.2))) := by
  refine .object ?_ fun m hm => ?_
  · simpa [Json.keys, Function.comp_def] using h
  · obtain ⟨m, -, rfl⟩ := List.mem_map.1 hm
    exact .string _ _

theorem render_stdout {input : List UInt8} {body : Json} (h : requestOfInput input = .ok body) (table method : String)
    (type : Option String) :
    (render table method type input).stdout = outcomeLine (Statement.ofRequest table method type body) := by
  rw [render, h]

/-! ## Main result -/

/-- **One line, which tells the outcome.** For every table, method and type, and every request that is read from standard
input: the octets on standard output are one line, an object that says `ok` and the very statement, or `error` and the
very message. -/
theorem render_writes_line {input : List UInt8} {body : Json} (h : requestOfInput input = .ok body)
    (table method : String) (type : Option String) :
    (∀ s, Statement.ofRequest table method type body = .ok s →
      IsLineOf (.object [("status", .string "ok"), ("sql", .string s.sql)])
        (Utf8.encode (render table method type input).stdout)) ∧
    ∀ e, Statement.ofRequest table method type body = .error e →
      IsLineOf (.object [("status", .string "error"), ("msg", .string e.message)])
        (Utf8.encode (render table method type input).stdout) := by
  rw [render_stdout h]
  constructor
  · intro s hs
    rw [hs]
    have hkeys : ["status", "sql"].Nodup := by decide
    exact isLineOf_compact (@exact_texts [("status", "ok"), ("sql", s.sql)] hkeys)
  · intro e he
    rw [he]
    have hkeys : ["status", "msg"].Nodup := by decide
    exact isLineOf_compact (@exact_texts [("status", "error"), ("msg", e.message)] hkeys)

/-- a body with a line break in a key, a character that cannot be seen, and one beyond U+FFFF -/
def brokenInput : List UInt8 := Utf8.encode "\x7b\"a\\n\": \"\\u0000\\ud834\\udd1e\"\x7d\n"

/-- line breaks, quotes and backslashes, out of the table, a key and a value, in one line -/
theorem render_writes_brokenLine :
    requestOfInput brokenInput = .ok (.object [("a\n", .string "\x00𝄞")]) ∧
    IsLineOf (.object [("status", .string "ok"), ("sql", .string "SELECT * FROM \"t\\\n\u2028 WHERE a\n=\"\x00𝄞\";")])
      (Utf8.encode (render "\"t\\\n\u2028" "GET" none brokenInput).stdout) := by
  have hread : requestOfInput brokenInput = .ok (.object [("a\n", .string "\x00𝄞")]) := by rfl
  exact ⟨hread, (render_writes_line hread "\"t\\\n\u2028" "GET" none).1 _ rfl⟩

end SqlGateway.Command
