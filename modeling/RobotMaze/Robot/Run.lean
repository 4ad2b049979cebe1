import RobotMaze.Grid
import RobotMaze.Named
import RobotMaze.Robot.Heading

/-! # Programs and their runs

    * `Move` — the instructions of a program, `closing?` — the end of a loop;
    * `simulate` — what a program does on a grid. -/

/-! ## Programs — lists of moves with loop markers

    A loop marker opens or closes a loop; loops nest.  A loop's body runs once,
    and a marker without a partner has no effect.

    * `closing?` finds the marker that closes a loop, past the loops inside it. -/

namespace RobotMaze

/-- One instruction of a program. -/
inductive Move where
  | forward
  | left
  | right
  | loopStart
  | loopEnd
  deriving DecidableEq, Repr

namespace Move

instance : Named Move where
  all := [.forward, .left, .right, .loopStart, .loopEnd]
  name
    | .forward => "FORWARD"
    | .left => "LEFT"
    | .right => "RIGHT"
    | .loopStart => "LOOP_START"
    | .loopEnd => "LOOP_END"

/-- Whether a move opens or closes a loop. -/
def isMarker : Move → Bool
  | .loopStart => true
  | .loopEnd => true
  | _ => false

/-- The place of the marker that closes `depth` open loops, counted from the start of the list. -/
def closing? (depth : Nat) : List Move → Option Nat
  | [] => none
  | .loopStart :: rest => (closing? (depth + 1) rest).map (· + 1)
  | .loopEnd :: rest =>
      if depth ≤ 1 then some 0 else (closing? (depth - 1) rest).map (· + 1)
  | _ :: rest => (closing? depth rest).map (· + 1)

/-- The index of the marker that closes the loop opened at an index. -/
def loopEnd? (moves : List Move) (start : Nat) : Option Nat :=
  match moves.drop start with
  | .loopStart :: rest => (closing? 1 rest).map (start + 1 + ·)
  | _ => none

end Move

/-- Decodes a list of moves. -/
def Program.decoder : Json.Decoder (List Move) := Json.Decoder.list Named.decoder

/-! ## Runs — a robot executes a program

    A robot starts on a path cell and executes a program move by move.  It stops
    at the first step ahead that would leave the path.

    * `Robot.run` executes a list of moves;
    * `simulate` runs a program from its start and reports the `Outcome`. -/

/-- How a run ended. -/
inductive RunStatus where
  /-- Every path cell was visited. -/
  | success
  /-- The program ended with path cells left. -/
  | incomplete
  /-- A step ahead was blocked. -/
  | failed
  deriving DecidableEq, Repr

instance : Named RunStatus where
  all := [.success, .incomplete, .failed]
  name
    | .success => "SUCCESS"
    | .incomplete => "INCOMPLETE"
    | .failed => "FAILED"

/-- The report on a run. -/
structure Outcome where
  status : RunStatus
  position : Position
  heading : Heading
  cellsVisited : Nat
  totalCells : Nat
  movesExecuted : Nat
  errorPosition : Option Position
  errorMessage : Option String
  deriving DecidableEq, Repr

namespace Outcome

/-- A report as an object. -/
def toJson (o : Outcome) : Json :=
  .object [
    ("status", Named.toJson o.status),
    ("position", o.position.toJson),
    ("direction", Named.toJson o.heading),
    ("cellsVisited", .count o.cellsVisited),
    ("totalCellsRequired", .count o.totalCells),
    ("movesExecuted", .count o.movesExecuted),
    ("errorPosition", .optional Position.toJson o.errorPosition),
    ("errorMessage", .optional .string o.errorMessage)]

/-- Decodes a report. -/
def decoder : Json.Decoder Outcome :=
  (Outcome.mk
    <$> .required "status" Named.decoder
    <*> .required "position" Position.decoder
    <*> .required "direction" Named.decoder
    <*> .required "cellsVisited" .count
    <*> .required "totalCellsRequired" .count
    <*> .required "movesExecuted" .count
    <*> .optional "errorPosition" Position.decoder
    <*> .optional "errorMessage" .string : Json.Record Outcome).decoder

end Outcome

/-- A robot under way: where it stands, the cells it stood on and the moves it made. -/
structure Robot where
  position : Position
  heading : Heading
  visited : List Position
  executed : Nat
  deriving DecidableEq, Repr

/-- A robot after some moves: still under way, or stopped before a cell it cannot enter. -/
inductive Progress where
  | moving (robot : Robot)
  | blocked (robot : Robot) (target : Position)
  deriving DecidableEq, Repr

namespace Robot

/-- A robot before its first move. -/
def start (position : Position) (heading : Heading) : Robot :=
  ⟨position, heading, [position], 0⟩

/-- Puts a cell among those visited. -/
def visit (visited : List Position) (p : Position) : List Position :=
  if visited.contains p then visited else visited ++ [p]

/-- Executes one move; a loop marker has no effect of its own. -/
def step (g : Grid) (r : Robot) : Move → Progress
  | .forward =>
      let target := r.position.step r.heading
      let r := { r with executed := r.executed + 1 }
      if g.isPath target.x target.y then
        .moving { r with position := target, visited := visit r.visited target }
      else .blocked r target
  | .left => .moving { r with executed := r.executed + 1, heading := r.heading.turnLeft }
  | .right => .moving { r with executed := r.executed + 1, heading := r.heading.turnRight }
  | .loopStart => .moving r
  | .loopEnd => .moving r

/-- Executes a list of moves, the body of a loop as a list of its own. -/
def run (g : Grid) (r : Robot) : List Move → Progress
  | [] => .moving r
  | .loopStart :: rest =>
      match Move.closing? 1 rest with
      | some n =>
          match run g r (rest.take n) with
          | .moving r => run g r (rest.drop (n + 1))
          | .blocked r target => .blocked r target
      | none => run g r rest
  | move :: rest =>
      match step g r move with
      | .moving r => run g r rest
      | .blocked r target => .blocked r target
termination_by moves => moves.length
decreasing_by
  all_goals simp only [List.length_cons, List.length_take, List.length_drop]
  all_goals omega

end Robot

/-- The message on a blocked step. -/
def blockedMessage : String := "Invalid move: the robot cannot move to that position"

/-- The report on a robot that has come to its end. -/
def Progress.outcome (g : Grid) : Progress → Outcome
  | .blocked r target =>
      ⟨.failed, r.position, r.heading, r.visited.length, g.pathCount, r.executed, some target,
        some blockedMessage⟩
  | .moving r =>
      ⟨if g.pathCount ≤ r.visited.length then .success else .incomplete, r.position, r.heading,
        r.visited.length, g.pathCount, r.executed, none, none⟩

/-- Runs a program from a start cell. -/
def simulate (g : Grid) (position : Position) (heading : Heading) (moves : List Move) :
    Except Violation Outcome :=
  if maxProgramMoves < moves.length then .error .programTooLong
  else if g.isPath position.x position.y then
    .ok ((Robot.start position heading).run g moves |>.outcome g)
  else .error .startOffPath

end RobotMaze
