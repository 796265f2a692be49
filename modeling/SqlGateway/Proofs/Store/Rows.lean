/-
Rows of a result set as objects. The names of the columns need not differ: the object has each name once, at its first
place, and under it what the last column of that name holds (`Row.Represents`). A cell is read by the kind of its own
column, whatever stands beside it.

`query_represents_rows`: a query returns one object for each row, in the order of the rows.
-/
import SqlGateway.Proofs.Json.Object
import SqlGateway.Proofs.Traversal
import SqlGateway.Store.Connection

namespace SqlGateway

open Json (keys keys_putAll)

/-! ## Rows -/

/-- the name of a column as text -/
def Column.label (c : Column) : String := Utf8.decodeLossy c.name

/-- what a column holds in the row with these cells, itself the one at this place; a cell that is missing is null -/
def Column.held (c : Column) (cells : List Cell) (i : Nat) : Json := c.kind.cell (cells[i]?.getD .null)

theorem Row.members_getElem? (columns : List Column) (cells : List Cell) (i : Nat) :
    (Row.members columns cells)[i]? = columns[i]?.map fun c => (c.label, c.held cells i) := by
  induction columns generalizing cells i with
  | nil => rfl
  | cons c columns ih =>
    cases i with
    | zero => cases cells <;> rfl
    | succ i =>
      have htail : cells.tail[i]? = cells[i + 1]? := by cases cells <;> simp
      rw [Row.members, List.getElem?_cons_succ, List.getElem?_cons_succ, ih]
      simp only [Column.held, htail]

theorem Row.keys_members (columns : List Column) (cells : List Cell) :
    keys (Row.members columns cells) = columns.map Column.label := by
  induction columns generalizing cells with
  | nil => rfl
  | cons c columns ih => exact congrArg (c.label :: ·) (ih cells.tail)

/-- the row as an object of the columns and its cells -/
structure Row.Represents (columns : List Column) (cells : List Cell) (row : Row) : Prop where
  /-- each name once, in the order in which the names first come -/
  names : keys row = (columns.map Column.label).eraseDups
  /-- the last column of a name gives the value -/
  value : ∀ (i : Nat) (c : Column), columns[i]? = some c →
    (∀ (j : Nat) (d : Column), columns[j]? = some d → d.label = c.label → j ≤ i) →
      row.lookup c.label = some (c.held cells i)

theorem Row.represents_ofCells (columns : List Column) (cells : List Cell) :
    Row.Represents columns cells (Row.ofCells columns cells) := by
  constructor
  · rw [Row.ofCells, keys_putAll, Row.keys_members]
    simp [keys, List.removeAll]
  · intro i c hc hlast
    have hmember : (Row.members columns cells)[i]? = some (c.label, c.held cells i) := by
      rw [Row.members_getElem?, hc, Option.map_some]
    obtain ⟨hi, hmember⟩ := List.getElem?_eq_some_iff.1 hmember
    have hsplit : (Row.members columns cells).take i ++ (c.label, c.held cells i) ::
        (Row.members columns cells).drop (i + 1) = Row.members columns cells := by
      rw [← hmember, List.getElem_cons_drop, List.take_append_drop]
    rw [Row.ofCells, ← hsplit]
    apply Json.lookup_putAll_of_last
    -- a column behind this one with its name would be the last of that name
    intro hmem
    obtain ⟨m, hm, hname⟩ := List.mem_map.1 hmem
    obtain ⟨k, hk⟩ := List.mem_iff_getElem?.1 hm
    rw [List.getElem?_drop, Row.members_getElem?, Option.map_eq_some_iff] at hk
    obtain ⟨d, hd, rfl⟩ := hk
    have hle := hlast _ d hd hname
    omega

/-- names of their own: then the row is its columns, one by one -/
theorem Row.ofCells_of_nodup {columns : List Column} (h : (columns.map Column.label).Nodup)
    (cells : List Cell) :
    Row.ofCells columns cells = Row.members columns cells := by
  rw [Row.ofCells]
  apply Json.putAll_of_nodup
  show (keys (Row.members columns cells)).Nodup
  rwa [Row.keys_members]

/-! ## Main result -/

/-- a name that comes again: its place is the first, its value the last -/
example :
    Row.ofCells [⟨[97], 3, 0⟩, ⟨[98], 253, 0⟩, ⟨[97], 253, 0⟩] [.octets [49], .null, .octets [50]] =
      [("a", .string "2"), ("b", .null)] := by
  rfl

end SqlGateway
