import RobotMaze.Login.Basic
import RobotMaze.Web.Handling
import RobotMaze.Web.Listing

/-! # The back office

    Whoever handles a request of the back office knows who sent it. -/

namespace RobotMaze.Web.Office

/-- What is done with a request of someone who is logged in. -/
abbrev Handler := Context → Request → Principal → Handling Response

/-- The sender of a request, as the one who acts. -/
def actor (r : Request) (p : Principal) : Actor := r.client.actor (some p.username)

/-- The page of a listing that a request asks for, in the usual size. -/
def listing (c : Context) (r : Request) : Handling PageRequest := do
  let general := c.settings.general
  return (← require r.listing).pageRequest general.pageSize general.maxPageSize

/-- The page of the audit log that a request asks for. -/
def auditListing (c : Context) (r : Request) : Handling PageRequest := do
  let general := c.settings.general
  return (← require r.listing).pageRequest general.auditPageSize general.maxPageSize

/-- A value as the answer. -/
def answer {α : Type} (encode : α → Json) (op : Op α) : Handling Response := do
  return .json (encode (← perform op))

/-- A message as the answer. -/
def done (op : Op Unit) (message : String) : Handling Response := do
  perform op
  return .json (.object [("message", .string message)])

end RobotMaze.Web.Office
