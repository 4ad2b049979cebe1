import RobotMaze.Json.Printer
import RobotMaze.Text.Blank

/-! # Output of the command line

    A value is shown as indented JSON, as JSON on one line, or as a table: a list
    by rows, a page of a listing by rows with a line on where it stands, an
    object by its members.

    A column of a table is as wide as its widest cell, up to a limit; longer cells
    are cut.  Cells with numbers stand at the right of their column, others at the
    left. -/

namespace RobotMaze.Console

/-! ## Tables -/

namespace Table

/-- The greatest width of a column. -/
def maxWidth : Nat := 40

/-- The blanks between two columns. -/
def gap : String := "  "

/-- A text cut to a width, with a mark at the end when something is missing. -/
def cut (width : Nat) (text : String) : String :=
  if text.length ≤ width then text
  else String.ofList (text.toList.take (width - 1) ++ ['…'])

/-- Whether a text looks like a number: digits, points and hyphens. -/
def looksNumeric (text : String) : Bool :=
  let cs := Text.trimChars text.toList
  !cs.isEmpty && cs.all fun c => c.isDigit || c == '-' || c == '.'

/-- A text filled up to a width, on the left or on the right. -/
def fill (width : Nat) (atRight : Bool) (text : String) : String :=
  let blanks := String.ofList (List.replicate (width - text.length) ' ')
  if atRight then blanks ++ text else text ++ blanks

/-- The width of a column under a header. -/
def columnWidth (header : String) (cells : List String) : Nat :=
  min maxWidth ((cells.map String.length).foldl max header.length)

/-- The widths of all columns. -/
def widths (headers : List String) (rows : List (List String)) : List Nat :=
  headers.mapIdx fun i header => columnWidth header (rows.filterMap fun row => row[i]?)

/-- A cell in its column. -/
def showCell (width : Nat) (text : String) : String :=
  let text := cut width text
  fill width (looksNumeric text) text

/-- A row; a missing cell shows a hyphen. -/
def showRow (widths : List Nat) (row : List String) : String :=
  gap.intercalate (widths.mapIdx fun i width => showCell width ((row[i]?).getD "-"))

/-- The headers in their columns. -/
def showHeaders (widths : List Nat) (headers : List String) : String :=
  gap.intercalate (List.zipWith (fun header width => fill width false (cut width header))
    headers widths)

/-- A table as text. -/
def render (headers : List String) (rows : List (List String)) : String :=
  let widths := widths headers rows
  let top := showHeaders widths headers
  let divider := String.ofList (List.replicate top.length '-')
  "\n".intercalate
    (Text.trimEnd top :: divider :: rows.map fun row => Text.trimEnd (showRow widths row))

end Table

/-! ## Values -/

/-- How values are shown. -/
inductive OutputFormat where
  | json
  | table
  | raw
  deriving DecidableEq, Repr

/-- The names of the formats. -/
def OutputFormat.ofName? : String → Option OutputFormat
  | "json" => some .json
  | "table" => some .table
  | "raw" => some .raw
  | _ => none

/-- A value in a cell. -/
def cellText : Json → String
  | .null => "-"
  | .string s => s
  | j => j.render

/-- The members of an object. -/
def members? : Json → Option (List (String × Json))
  | .object members => some members
  | _ => none

/-- The names of the members of objects, each once, in the order in which they appear. -/
def memberNames (objects : List (List (String × Json))) : List String :=
  (objects.flatten.map Prod.fst).foldl
    (fun names name => if names.contains name then names else names ++ [name]) []

/-- A list as a table: objects by the names of their members, without objects one column. -/
def showItems (items : List Json) : String :=
  if items.isEmpty then "(no rows)"
  else
    let objects := items.filterMap members?
    match memberNames objects with
    | [] => Table.render ["value"] (items.map fun item => [cellText item])
    | headers =>
        Table.render headers (objects.map fun members =>
          headers.map fun header => ((members.lookup header).map cellText).getD "-")

/-- A member that is a count, or zero. -/
def countOf (j : Json) (name : String) : Nat :=
  match j.get? name with
  | some (.number (.whole n)) => n.toNat
  | _ => 0

/-- The line below a page of a listing. -/
def pageLine (j : Json) : String :=
  "page " ++ toString (countOf j "number" + 1) ++ " of " ++ toString (countOf j "totalPages")
    ++ " (" ++ toString (countOf j "totalElements") ++ " total)"

/-- A value, its members in key order, as a table. -/
def showTable (j : Json) : String :=
  match j with
  | .array items => showItems items
  | .object members =>
      match members.lookup "content" with
      | some (.array items) => showItems items ++ "\n" ++ pageLine j
      | _ => Table.render ["key", "value"] (members.map fun (name, v) => [name, cellText v])
  | j => cellText j

/-- A value in a format. -/
def render (format : OutputFormat) (j : Json) : String :=
  match format with
  | .json => j.renderIndented
  | .table => showTable j.sorted
  | .raw => j.render

end RobotMaze.Console
