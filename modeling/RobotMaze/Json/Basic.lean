import RobotMaze.Keyed

/-! # JSON values

    The documents of the game — tracks, sessions, audit entries, reports — are
    JSON values.  A value keeps the members of an object in the order in which
    they were put there; `sorted` brings them into key order, keeping the last
    member of each name. -/

namespace RobotMaze

/-- A number of a JSON document: whole when it is written without point and exponent and fits 64
    bits, a floating-point number otherwise. -/
inductive Number where
  | whole (n : Int)
  | float (x : Float)
  deriving Repr

/-- A JSON value. -/
inductive Json where
  | null
  | bool (b : Bool)
  | number (n : Number)
  | string (s : String)
  | array (items : List Json)
  | object (members : List (String × Json))
  deriving Repr

namespace Json

instance : Inhabited Json := ⟨.null⟩

/-- A whole number. -/
abbrev whole (n : Int) : Json := .number (.whole n)

/-- A count. -/
abbrev count (n : Nat) : Json := .number (.whole n)

/-- A floating-point number. -/
abbrev float (x : Float) : Json := .number (.float x)

/-- A value that may be missing; a missing one is `null`. -/
def optional {α : Type} (encode : α → Json) : Option α → Json
  | some a => encode a
  | none => .null

/-- A list of values. -/
def list {α : Type} (encode : α → Json) (items : List α) : Json := .array (items.map encode)

/-- The member of an object, if the value is an object that has one of this name. -/
def get? (key : String) : Json → Option Json
  | .object members => members.lookup key
  | _ => none

mutual

/-- The value with the members of every object in key order, the last of each name kept. -/
def sorted : Json → Json
  | .array items => .array (sortedItems items)
  | .object members => .object (sortedMembers [] members)
  | .null => .null
  | .bool b => .bool b
  | .number n => .number n
  | .string s => .string s

/-- The values of an array, each in key order. -/
def sortedItems : List Json → List Json
  | [] => []
  | item :: rest => sorted item :: sortedItems rest

/-- Members put one by one into those already in key order. -/
def sortedMembers (done : List (String × Json)) : List (String × Json) → List (String × Json)
  | [] => done
  | (k, v) :: rest => sortedMembers (Keyed.insert k (sorted v) done) rest

end

mutual

/-- The value with a function applied to every text in it, names of members too. -/
def mapTexts (f : String → String) : Json → Json
  | .string s => .string (f s)
  | .array items => .array (mapItems f items)
  | .object members => .object (mapMembers f members)
  | .null => .null
  | .bool b => .bool b
  | .number n => .number n

/-- The values of an array with a function applied to every text. -/
def mapItems (f : String → String) : List Json → List Json
  | [] => []
  | item :: rest => mapTexts f item :: mapItems f rest

/-- Members with a function applied to every text. -/
def mapMembers (f : String → String) : List (String × Json) → List (String × Json)
  | [] => []
  | (k, v) :: rest => (f k, mapTexts f v) :: mapMembers f rest

end

end Json

end RobotMaze
