import RobotMaze.Failure
import RobotMaze.Paging

/-! # Tables — rows with ids

    A table gives out ids in rising order and never gives one out twice.

    * `Table.nextId?` is the id of the next row, `Table.append` puts it there;
    * `Table.modify` changes the row of an id, if the outcome is acceptable;
    * `newestFirst`, `sortedBy`, `pageOf` — the orders and pages of listings. -/

namespace RobotMaze

/-- Rows that have an id. -/
class Row (ρ : Type) where
  id : ρ → Int

/-- A table: its rows in the order of their ids, and the last id given out. -/
structure Table (ρ : Type) where
  rows : List ρ := []
  lastId : Int := 0
  deriving Repr

/-- The greatest id that there can be. -/
def maxId : Int := 0x7FFFFFFFFFFFFFFF

namespace Table

variable {ρ : Type} [Row ρ]

/-- The greatest id in use. -/
def topId? (t : Table ρ) : Option Int := (t.rows.map Row.id).max?

/-- The id of the next row: above all ids ever given out or in use. -/
def nextId? (t : Table ρ) : Option Int :=
  let top := t.topId?.getD 0
  if t.lastId = maxId ∨ top = maxId then none else some (max (t.lastId + 1) (top + 1))

/-- Puts a row with the next id at the end. -/
def append (t : Table ρ) (r : ρ) : Table ρ := ⟨t.rows ++ [r], Row.id r⟩

/-- The row of an id. -/
def find? (t : Table ρ) (id : Int) : Option ρ := t.rows.find? fun r => Row.id r == id

/-- The rows of other ids. -/
def others (t : Table ρ) (id : Int) : List ρ := t.rows.filter fun r => Row.id r != id

/-- Adds a row made from the next id, if it is acceptable beside the rows that are there. -/
def insert (t : Table ρ) (make : Int → ρ) (acceptable : ρ → List ρ → Bool) :
    Except Failure (ρ × Table ρ) :=
  match t.nextId? with
  | none => .error .refused
  | some id =>
      let r := make id
      if acceptable r t.rows then .ok (r, t.append r) else .error .refused

/-- Changes the row of an id, if it satisfies a condition and the outcome is acceptable beside the
    other rows.  Returns the number of rows changed. -/
def modify (t : Table ρ) (id : Int) (condition : ρ → Bool) (change : ρ → ρ)
    (acceptable : ρ → List ρ → Bool) : Except Failure (Nat × Table ρ) :=
  match t.find? id with
  | none => .ok (0, t)
  | some r =>
      if condition r then
        if acceptable (change r) (t.others id) then
          .ok (1, { t with rows := t.rows.map fun s => if Row.id s == id then change s else s })
        else .error .refused
      else .ok (0, t)

end Table

/-! ## Filters, orders and pages -/

/-- Whether a wanted value, if there is one, satisfies a test. -/
def allows {α : Type} (wanted : Option α) (test : α → Bool) : Bool :=
  match wanted with
  | some a => test a
  | none => true

/-- What a row is sorted by. -/
inductive SortKey where
  | missing
  | number (n : Int)
  | text (s : String)
  deriving DecidableEq, Repr

namespace SortKey

/-- An optional text as a key. -/
def ofText? : Option String → SortKey
  | some s => .text s
  | none => .missing

/-- One key lies before another: what is missing comes first, text is ordered by code points. -/
def before : SortKey → SortKey → Bool
  | .missing, .missing => false
  | .missing, _ => true
  | _, .missing => false
  | .number a, .number b => a < b
  | .number _, .text _ => true
  | .text _, .number _ => false
  | .text a, .text b => a < b

end SortKey

section Listing

variable {ρ : Type} [Row ρ]

/-- Rows in the order of a key, rows of one key by rising id. -/
def sortedBy (key : ρ → SortKey) (order : SortOrder) (rows : List ρ) : List ρ :=
  rows.mergeSort fun a b =>
    if key a = key b then Row.id a ≤ Row.id b
    else match order with
      | .ascending => (key a).before (key b)
      | .descending => (key b).before (key a)

/-- Rows by falling time, rows of one time by falling id. -/
def newestFirst (time : ρ → String) (rows : List ρ) : List ρ :=
  rows.mergeSort fun a b => if time a = time b then Row.id b ≤ Row.id a else time b < time a

/-- The rows of a page.  The number of rows before it must fit 63 bits. -/
def pageOf (r : PageRequest) (rows : List ρ) : Except Failure (List ρ) :=
  if r.offset < 0x8000000000000000 then .ok ((rows.drop r.offset).take r.size.toNat)
  else .error .refused

end Listing

end RobotMaze
