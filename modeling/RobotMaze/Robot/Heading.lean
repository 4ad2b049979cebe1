import RobotMaze.Named

/-! # Headings — the four directions of the robot

    North is up the grid, where `y` falls.  A left turn goes counter-clockwise,
    a right turn clockwise, and either undoes the other. -/

namespace RobotMaze

/-- A direction on the grid. -/
inductive Heading where
  | north
  | south
  | east
  | west
  deriving DecidableEq, Repr

namespace Heading

instance : Named Heading where
  all := [.north, .south, .east, .west]
  name
    | .north => "NORTH"
    | .south => "SOUTH"
    | .east => "EAST"
    | .west => "WEST"

/-- A quarter turn counter-clockwise. -/
def turnLeft : Heading → Heading
  | .north => .west
  | .west => .south
  | .south => .east
  | .east => .north

/-- A quarter turn clockwise. -/
def turnRight : Heading → Heading
  | .north => .east
  | .east => .south
  | .south => .west
  | .west => .north

/-- The change of `x` and `y` by one step ahead. -/
def delta : Heading → Int × Int
  | .north => (0, -1)
  | .south => (0, 1)
  | .east => (1, 0)
  | .west => (-1, 0)

/-- A right turn undoes a left one. -/
theorem turnRight_turnLeft (h : Heading) : h.turnLeft.turnRight = h := by
  cases h <;> rfl

/-- A left turn undoes a right one. -/
theorem turnLeft_turnRight (h : Heading) : h.turnRight.turnLeft = h := by
  cases h <;> rfl

end Heading

/-- A cell of the plane. -/
structure Position where
  x : Int
  y : Int
  deriving DecidableEq, Repr

namespace Position

/-- The cell one step ahead. -/
def step (p : Position) (h : Heading) : Position :=
  ⟨p.x + h.delta.1, p.y + h.delta.2⟩

/-- A position as an object with `x` and `y`. -/
def toJson (p : Position) : Json := .object [("x", .whole p.x), ("y", .whole p.y)]

/-- The members of a position. -/
def decoder : Json.Decoder Position :=
  (Position.mk <$> .required "x" .int32 <*> .required "y" .int32 : Json.Record Position).decoder

end Position

end RobotMaze
