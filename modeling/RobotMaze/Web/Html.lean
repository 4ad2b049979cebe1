import RobotMaze.Json.Printer
import RobotMaze.Login.Basic
import RobotMaze.Track.Basic

/-! # Web pages

    Text goes into a page escaped, so that it can neither open nor close a tag.

    * `table`, `summary` show rows and labelled values;
    * `gridPreview` shows the grid of a track, `dataBlock` holds a value for the
      page's scripts;
    * `page` puts a page together. -/

namespace RobotMaze.Web.Html

/-- The written form of a character in text. -/
def escapeChar (c : Char) : List Char :=
  if c = '&' then "&amp;".toList
  else if c = '<' then "&lt;".toList
  else if c = '>' then "&gt;".toList
  else if c = '"' then "&quot;".toList
  else if c = '\'' then "&#39;".toList
  else [c]

/-- A text with its special characters written as references. -/
def escape (text : String) : String := String.ofList (text.toList.flatMap escapeChar)

/-- A text inside a tag of a name. -/
def element (tag content : String) : String :=
  "<" ++ tag ++ ">" ++ content ++ "</" ++ tag ++ ">"

/-- Escaped texts, each inside a tag of the same name. -/
def cells (tag : String) (texts : List String) : String :=
  String.join (texts.map fun text => element tag (escape text))

/-- A table. -/
def table (headers : List String) (rows : List (List String)) : String :=
  "<table>\n<thead><tr>" ++ cells "th" headers ++ "</tr></thead>\n<tbody>\n"
    ++ String.join (rows.map fun row => element "tr" (cells "td" row) ++ "\n")
    ++ "</tbody>\n</table>"

/-- A label and its value. -/
def entry (item : String × String) : String :=
  element "dt" (escape item.1) ++ element "dd" (escape item.2) ++ "\n"

/-- A list of labelled values. -/
def summary (items : List (String × String)) : String :=
  "<dl>\n" ++ String.join (items.map entry) ++ "</dl>"

/-- One cell of a grid; the start cell shows the heading of the robot. -/
def gridCell (t : Track) (g : Grid) (x y : Nat) : String :=
  let kind := if g.isPath x y then "path" else "wall"
  let marker := if t.start = ⟨x, y⟩ then Named.name t.heading else ""
  "<td class=\"" ++ kind ++ "\">" ++ marker ++ "</td>"

/-- One row of a grid. -/
def gridRow (t : Track) (g : Grid) (y : Nat) : String :=
  element "tr" (String.join ((List.range gridColumns).map fun x => gridCell t g x y))

/-- The grid of a track as a table. -/
def gridPreview (t : Track) : String :=
  match t.grid with
  | .error _ => "<p>Invalid grid</p>"
  | .ok g =>
      "<table class=\"grid\">" ++ String.join ((List.range gridRows).map (gridRow t g))
        ++ "</table>"

/-- The text of a value in which no tag is closed. -/
def guardTags : List Char → List Char
  | '<' :: '/' :: rest => '<' :: '\\' :: '/' :: guardTags rest
  | c :: rest => c :: guardTags rest
  | [] => []

/-- A value for the scripts of a page. -/
def dataBlock (id : String) (value : Json) : String :=
  "<script type=\"application/json\" id=\"" ++ escape id ++ "\">"
    ++ String.ofList (guardTags value.chars) ++ "</script>"

/-- The pages of the back office with their labels. -/
def officeLinks : List (String × String) :=
  [("/admin/dashboard", "Dashboard"), ("/admin/tracks", "Tracks"), ("/admin/users", "Users"),
    ("/admin/audit", "Audit log"), ("/admin/statistics", "Statistics"),
    ("/config/tracks", "Track designer")]

/-- A reference to a page. -/
def link (target label : String) : String := "<a href=\"" ++ target ++ "\">" ++ label ++ "</a>"

/-- The bar with the pages of the back office, for someone who is logged in. -/
def navigation (p : Principal) : String :=
  "<nav>" ++ String.join (officeLinks.map fun (target, label) => link target label ++ " ")
    ++ "<span>" ++ escape p.fullName ++ " (" ++ Named.name p.role ++ ")</span> "
    ++ "<form method=\"post\" action=\"/logout\" style=\"display:inline\">"
    ++ "<button>Log out</button></form></nav>"

/-- A page with a title. -/
def page (title : String) (principal : Option Principal) (body : String) : String :=
  "<!DOCTYPE html>\n<html lang=\"en\">\n<head><meta charset=\"utf-8\"><title>" ++ escape title
    ++ " - Game for Devs</title></head>\n<body>\n" ++ (principal.map navigation).getD ""
    ++ "\n<main>\n<h1>" ++ escape title ++ "</h1>\n" ++ body ++ "\n</main>\n</body>\n</html>\n"

end RobotMaze.Web.Html
