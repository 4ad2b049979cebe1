import RobotMaze.Json.Decoder
import RobotMaze.Named
import RobotMaze.Text.LowerCase

/-! # Paging — page requests and pages

    A request names a page by its number, from zero, and its size, from one.  A
    `Page` carries its content together with the totals of the whole listing. -/

namespace RobotMaze

/-- The direction of a sort. -/
inductive SortOrder where
  | ascending
  | descending
  deriving DecidableEq, Repr

namespace SortOrder

instance : Named SortOrder where
  all := [.ascending, .descending]
  name
    | .ascending => "asc"
    | .descending => "desc"

/-- The keyword of an order. -/
def keyword : SortOrder → String
  | .ascending => "ASC"
  | .descending => "DESC"

/-- The order that a text asks for: descending for `desc` in any case, else ascending. -/
def ofText (s : String) : SortOrder :=
  if Text.sameIgnoringAsciiCase s "desc" then .descending else .ascending

end SortOrder

/-- A request for one page of a listing. -/
structure PageRequest where
  page : UInt32
  size : UInt32
  sortBy : String
  order : SortOrder
  deriving DecidableEq, Repr

namespace PageRequest

/-- The request for a page, sorted by id; a page holds one row at least. -/
def new (page size : UInt32) : PageRequest := ⟨page, max size 1, "id", .ascending⟩

/-- The same page of a listing sorted otherwise. -/
def sorted (r : PageRequest) (sortBy : String) (order : SortOrder) : PageRequest :=
  { r with sortBy, order }

/-- The same request with a size of at most `most`, and of one at least. -/
def capped (r : PageRequest) (most : UInt32) : PageRequest :=
  { r with size := max 1 (min r.size (max most 1)) }

/-- The number of rows before the page. -/
def offset (r : PageRequest) : Nat := r.page.toNat * r.size.toNat

/-- A request as an object. -/
def toJson (r : PageRequest) : Json :=
  .object [
    ("page", .count r.page.toNat),
    ("size", .count r.size.toNat),
    ("sortBy", .string r.sortBy),
    ("sortDir", .string r.order.keyword),
    ("offset", .count r.offset)]

end PageRequest

/-- One page of a listing. -/
structure Page (α : Type) where
  content : List α
  totalElements : Nat
  totalPages : Nat
  number : UInt32
  size : UInt32
  first : Bool
  last : Bool
  deriving DecidableEq, Repr

namespace Page

variable {α β : Type}

/-- The page that answers a request, given the number of rows of the whole listing. -/
def new (content : List α) (r : PageRequest) (total : Nat) : Page α :=
  let size := max r.size.toNat 1
  let pages := (total + size - 1) / size
  { content
    totalElements := total
    totalPages := pages
    number := r.page
    size := r.size
    first := r.page == 0
    last := pages ≤ r.page.toNat + 1 }

/-- The page with each row replaced. -/
def map (f : α → β) (p : Page α) : Page β :=
  { p with content := p.content.map f }

/-- A page as an object. -/
def toJson (encode : α → Json) (p : Page α) : Json :=
  .object [
    ("content", .list encode p.content),
    ("totalElements", .count p.totalElements),
    ("totalPages", .count p.totalPages),
    ("number", .count p.number.toNat),
    ("size", .count p.size.toNat),
    ("first", .bool p.first),
    ("last", .bool p.last)]

/-- Decodes a page of rows of one kind. -/
def decoder (row : Json.Decoder α) : Json.Decoder (Page α) :=
  (Page.mk
    <$> .required "content" (.list row)
    <*> .required "totalElements" .count
    <*> .required "totalPages" .count
    <*> .required "number" .uint32
    <*> .required "size" .uint32
    <*> .required "first" .bool
    <*> .required "last" .bool : Json.Record (Page α)).decoder

end Page

end RobotMaze
