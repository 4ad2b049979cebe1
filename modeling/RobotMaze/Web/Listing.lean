import RobotMaze.Paging
import RobotMaze.Service.Reports
import RobotMaze.Text.Blank
import RobotMaze.Web.Form

/-! # Listings — pages, spans of days and date bounds in a query

    * `ListingQuery.pageRequest` is the page that a query asks for, its size
      within the site's limits;
    * `daysAsked` is a span of days, `dateBound` the bound of a filter. -/

namespace RobotMaze.Web

open Time (Instant)
open Time.Instant (BoundSide)

/-- Which page of a listing a query asks for. -/
structure ListingQuery where
  page : Option UInt32
  size : Option UInt32
  sortBy : Option String
  order : Option String
  deriving DecidableEq, Repr

namespace ListingQuery

/-- The page that is asked for; a blank sort key is none. -/
def pageRequest (q : ListingQuery) (standardSize most : UInt32) : PageRequest :=
  let request := (PageRequest.new (q.page.getD 0) (q.size.getD standardSize)).capped most
  match (q.sortBy.map Text.trim).filter fun key => !key.isEmpty with
  | some key => request.sorted key ((q.order.map SortOrder.ofText).getD .ascending)
  | none => request

end ListingQuery

namespace Request

/-- The page that the query asks for. -/
def listing (r : Request) : Except Refusal ListingQuery := do
  return {
    page := ← r.queried Text.uint32? "page"
    size := ← r.queried Text.uint32? "size"
    sortBy := ← r.queried some "sortBy"
    order := ← r.queried some "sortDir" }

end Request

/-- A span of days within its limits, or the standard one. -/
def daysAsked (days : Option UInt32) (standard : UInt32) : UInt32 :=
  Reports.heldDays (days.getD standard)

/-- The bound of a filter. -/
def dateBound (side : BoundSide) (text : String) : Except Refusal Instant :=
  let text := Text.trim text
  match Instant.ofBound? side text with
  | some t => .ok t
  | none => .error (.rejected ("Invalid date: " ++ text))

/-- The bound of a filter, if it is not blank. -/
def dateBoundOpt (side : BoundSide) (text : Option String) : Except Refusal (Option Instant) :=
  (text.filter fun t => !Text.isBlankText t).mapM (dateBound side)

end RobotMaze.Web
