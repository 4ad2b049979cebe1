import RobotMaze.Json.Decoder
import RobotMaze.Violation

/-! # Grids — the mazes of the game

    A grid has four rows of five cells, each a wall or part of the path, and at
    least one cell of path.  `x` counts the columns and `y` the rows, from zero.

    * `Grid.ofRows` checks rows of numbers, `Grid.parse` a JSON text of them;
    * `Grid.isPath` says whether a cell is part of the path;
    * `Grid.render` writes the canonical text, without blanks. -/

namespace RobotMaze

/-- A grid of cells; the path cells are the true ones. -/
structure Grid where
  rows : List (List Bool)
  rows_length : rows.length = gridRows
  row_length : ∀ row ∈ rows, row.length = gridColumns
  has_path : 0 < rows.flatten.count true

namespace Grid

/-- The number of path cells. -/
def pathCount (g : Grid) : Nat := g.rows.flatten.count true

/-- Whether a cell lies inside the grid and on the path. -/
def isPath (g : Grid) (x y : Int) : Bool :=
  if 0 ≤ x ∧ 0 ≤ y then
    match g.rows[y.toNat]? with
    | some row => row[x.toNat]?.getD false
    | none => false
  else false

/-- The grid of rows of numbers; the first rule that they break is reported. -/
def ofRows (rows : List (List Int)) : Except Violation Grid :=
  if hrows : rows.length = gridRows then
    match hcols : rows.findIdx? (fun row => row.length != gridColumns) with
    | some i => .error (.gridColumnCount (i + 1))
    | none =>
        if rows.all fun row => row.all fun cell => cell == 0 || cell == 1 then
          let cells := rows.map fun row => row.map fun cell => cell == 1
          if hpath : 0 < cells.flatten.count true then
            .ok {
              rows := cells
              rows_length := by simpa [cells] using hrows
              row_length := by
                intro row hrow
                obtain ⟨source, hsource, rfl⟩ := List.mem_map.mp hrow
                have := List.findIdx?_eq_none_iff.mp hcols source hsource
                simpa using this
              has_path := hpath }
          else .error .gridWithoutPath
        else .error .gridCell
  else .error .gridRowCount

/-- The grid of a JSON text. -/
def parse (text : String) : Except Violation Grid :=
  match Json.decode (Json.Decoder.list (Json.Decoder.list Json.Decoder.int64)) text with
  | .ok rows => ofRows rows
  | .error _ => .error .gridFormat

/-- The characters of a row: its cells with commas between them, in brackets. -/
def rowChars (row : List Bool) : List Char :=
  '[' :: ((row.map fun cell => [if cell then '1' else '0']).intersperse [',']).flatten ++ [']']

/-- The canonical text of a grid. -/
def render (g : Grid) : String :=
  String.ofList ('[' :: ((g.rows.map rowChars).intersperse [',']).flatten ++ [']'])

/-- A start cell must lie on the path. -/
def checkStart (g : Grid) (x y : Int) : Except Violation Unit :=
  if g.isPath x y then .ok () else .error .startOffPath

end Grid

end RobotMaze
