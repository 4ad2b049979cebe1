import RobotMaze.Json.Basic

/-! # Tables of settings — how a settings file may add to a table

    A file names tables by headers and by keys with points in them.  A table is
    stated only once, so each keeps how it came about.

    * `Table.within` goes down the names of a header to a table, making those
      that are missing;
    * `Table.state` and `Table.append` open the table of a header `[…]` or
      `[[…]]`;
    * `Table.put` sets the value of a key;
    * `Table.toJson` is the table as an object. -/

namespace RobotMaze.Toml

/-- How a table came about. -/
inductive Origin where
  /-- By the header of a table inside it. -/
  | implied
  /-- By a key with points. -/
  | dotted
  /-- By a header of its own. -/
  | stated
  deriving DecidableEq, Repr

/-- What a name in a file stands for. -/
inductive Node where
  | value (j : Json)
  | table (origin : Origin) (entries : List (String × Node))
  /-- Tables under one name, the newest first. -/
  | series (newest : List (String × Node)) (older : List (List (String × Node)))

/-- The entries of a table, in the order in which they were made. -/
abbrev Table := List (String × Node)

namespace Table

/-- Puts a node under a name that is already there. -/
def replace (name : String) (node : Node) : Table → Table
  | [] => []
  | (n, old) :: rest =>
      if n = name then (n, node) :: rest else (n, old) :: replace name node rest

/-- Changes the table that the names of a header lead to; of a series, the newest. -/
def within (change : Table → Option Table) : List String → Table → Option Table
  | [], t => change t
  | name :: rest, t =>
      match t.lookup name with
      | none => (within change rest []).map fun inner => t ++ [(name, .table .implied inner)]
      | some (.table origin inner) =>
          (within change rest inner).map fun inner => replace name (.table origin inner) t
      | some (.series newest older) =>
          (within change rest newest).map fun newest => replace name (.series newest older) t
      | some (.value _) => none

/-- Opens a table by its header: a new one, or one that was only implied. -/
def state (name : String) (t : Table) : Option Table :=
  match t.lookup name with
  | none => some (t ++ [(name, .table .stated [])])
  | some (.table .implied inner) => some (replace name (.table .stated inner) t)
  | _ => none

/-- Adds a table to a series. -/
def append (name : String) (t : Table) : Option Table :=
  match t.lookup name with
  | none => some (t ++ [(name, .series [] [])])
  | some (.series newest older) => some (replace name (.series [] (newest :: older)) t)
  | _ => none

/-- Sets the value of a name that has none yet. -/
def putHere (name : String) (j : Json) (t : Table) : Option Table :=
  match t.lookup name with
  | none => some (t ++ [(name, .value j)])
  | some _ => none

/-- Sets the value of a key with points, in the tables that such keys have made. -/
def put (t : Table) : List String → String → Json → Option Table
  | [], name, j => putHere name j t
  | step :: rest, name, j =>
      match t.lookup step with
      | none => (put [] rest name j).map fun inner => t ++ [(step, .table .dotted inner)]
      | some (.table origin inner) =>
          if origin = .stated ∨ (origin = .implied ∧ rest.isEmpty) then none
          else (put inner rest name j).map fun inner => replace step (.table origin inner) t
      | some (.series newest older) =>
          if rest.isEmpty then none
          else (put newest rest name j).map fun newest => replace step (.series newest older) t
      | some (.value _) => none

mutual

/-- What a name stands for, as JSON. -/
def nodeJson : Node → Json
  | .value j => j
  | .table _ entries => .object (entriesJson entries)
  | .series newest older => .array (seriesJson [.object (entriesJson newest)] older)

/-- The entries of a table as members. -/
def entriesJson : List (String × Node) → List (String × Json)
  | [] => []
  | (name, node) :: rest => (name, nodeJson node) :: entriesJson rest

/-- Older tables of a series in front of the newer ones. -/
def seriesJson (newer : List Json) : List (List (String × Node)) → List Json
  | [] => newer
  | t :: rest => seriesJson (.object (entriesJson t) :: newer) rest

end

/-- The table as an object. -/
def toJson (t : Table) : Json := .object (entriesJson t)

end Table

end RobotMaze.Toml
