import Mathlib.Data.Int.Notation

/-! # Ranges — the numbers that fit their width

    Ids, coordinates and counts are unbounded here; where one is stored, written
    or read, it has to fit 32 or 64 bits. -/

namespace RobotMaze

/-- A number of 32 bits. -/
def IsInt32 (n : Int) : Prop := -0x80000000 ≤ n ∧ n < 0x80000000

instance (n : Int) : Decidable (IsInt32 n) :=
  inferInstanceAs (Decidable (-0x80000000 ≤ n ∧ n < 0x80000000))

/-- A number of 64 bits. -/
def IsInt64 (n : Int) : Prop := -0x8000000000000000 ≤ n ∧ n < 0x8000000000000000

instance (n : Int) : Decidable (IsInt64 n) :=
  inferInstanceAs (Decidable (-0x8000000000000000 ≤ n ∧ n < 0x8000000000000000))

/-- A count of 64 bits. -/
def IsCount64 (n : Nat) : Prop := n < 0x10000000000000000

instance (n : Nat) : Decidable (IsCount64 n) :=
  inferInstanceAs (Decidable (n < 0x10000000000000000))

end RobotMaze
