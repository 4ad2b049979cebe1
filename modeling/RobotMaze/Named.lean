import RobotMaze.Json.Decoder

/-! # Named values — types with one written name for each value

    Headings, roles, statuses and the like are written by name: in JSON, in the
    store and on the command line.

    * `Named.ofName?` finds the value of a name; the name must match exactly;
    * `Named.toJson` and `Named.decoder` are the JSON forms. -/

namespace RobotMaze

/-- A type whose values have names. -/
class Named (α : Type) where
  /-- All values, in the order in which they are declared. -/
  all : List α
  /-- The written name. -/
  name : α → String

namespace Named

variable {α : Type} [Named α]

/-- The value of a name. -/
def ofName? (s : String) : Option α := all.find? fun a => name a == s

/-- A value by its name. -/
def toJson (a : α) : Json := .string (name a)

/-- Decodes a value from its name. -/
def decoder : Json.Decoder α := Json.Decoder.name ofName?

/-- A value that was found has the name by which it was looked up. -/
theorem name_of_ofName? {s : String} {a : α} (h : ofName? s = some a) : name a = s := by
  have := List.find?_some h
  simpa using this

end Named

end RobotMaze
