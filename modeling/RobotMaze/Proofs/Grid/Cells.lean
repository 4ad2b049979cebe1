import Mathlib.Data.Finset.Card
import RobotMaze.Grid
import RobotMaze.Robot.Heading

/-! # Path cells — the cells of a grid one by one

    A grid counts its path cells in its rows, while a robot asks for one cell
    after the other.  The two views agree:

    * `Grid.pathCells` lists the cells that `Grid.isPath` accepts, each once
      (`mem_pathCells`, `nodup_pathCells`);
    * there are as many of them as `Grid.pathCount` says (`length_pathCells`);
    * so a list without repetition of path cells is no longer than that, and
      as long only if it has them all. -/

namespace RobotMaze.Grid

/-- Every place of a grid, row by row. -/
def places : List Position :=
  (List.range gridRows).flatMap fun (y : Nat) =>
    (List.range gridColumns).map fun (x : Nat) => Position.mk x y

/-- The path cells of a grid, row by row. -/
def pathCells (g : Grid) : List Position := places.filter fun p => g.isPath p.x p.y

/-- A grid whose first row is path and whose other rows are wall. -/
def corridor : Grid where
  rows := [[true, true, true, true, true], [false, false, false, false, false],
    [false, false, false, false, false], [false, false, false, false, false]]
  rows_length := rfl
  row_length := by decide
  has_path := by decide

/-- A path cell lies within the rows and columns of the grid. -/
theorem bounds_of_isPath {g : Grid} {x y : Int} (h : g.isPath x y = true) :
    (0 ≤ x ∧ x < gridColumns) ∧ 0 ≤ y ∧ y < gridRows := by
  simp only [isPath] at h
  by_cases hxy : 0 ≤ x ∧ 0 ≤ y
  · rw [if_pos hxy] at h
    cases hrow : g.rows[y.toNat]? with
    | none =>
        rw [hrow] at h
        cases h
    | some row =>
        rw [hrow] at h
        obtain ⟨hy, hget⟩ := List.getElem?_eq_some_iff.mp hrow
        have hlength : row.length = gridColumns := by
          rw [← hget]
          exact g.row_length _ (List.getElem_mem hy)
        have hx : x.toNat < row.length := by
          by_contra hx
          have hnone : row[x.toNat]? = none := List.getElem?_eq_none (by omega)
          simp [hnone] at h
        have hrows := g.rows_length
        omega
  · rw [if_neg hxy] at h
    cases h

theorem mem_places {p : Position} :
    p ∈ places ↔ (0 ≤ p.x ∧ p.x < gridColumns) ∧ 0 ≤ p.y ∧ p.y < gridRows := by
  simp only [places]
  constructor
  · intro h
    obtain ⟨y, hy, hp⟩ := List.mem_flatMap.mp h
    obtain ⟨x, hx, rfl⟩ := List.mem_map.mp hp
    have hx' := List.mem_range.mp hx
    have hy' := List.mem_range.mp hy
    exact ⟨⟨Int.natCast_nonneg x, Int.ofNat_lt.mpr hx'⟩, Int.natCast_nonneg y,
      Int.ofNat_lt.mpr hy'⟩
  · rintro ⟨⟨hx, hxlt⟩, hy, hylt⟩
    refine List.mem_flatMap.mpr ⟨p.y.toNat, List.mem_range.mpr (by omega), ?_⟩
    refine List.mem_map.mpr ⟨p.x.toNat, List.mem_range.mpr (by omega), ?_⟩
    rw [Int.toNat_of_nonneg hx, Int.toNat_of_nonneg hy]

/-- The path cells are the cells that are path. -/
theorem mem_pathCells {g : Grid} {p : Position} :
    p ∈ g.pathCells ↔ g.isPath p.x p.y = true := by
  simp only [pathCells]
  rw [List.mem_filter]
  constructor
  · exact And.right
  · intro h
    exact ⟨mem_places.mpr (bounds_of_isPath h), h⟩

/-- No path cell is listed twice. -/
theorem nodup_pathCells (g : Grid) : g.pathCells.Nodup :=
  List.Nodup.filter _ (by decide)

/-- Row by row, the cells of a grid are what `isPath` says of its places. -/
theorem flatten_rows (g : Grid) : g.rows.flatten = places.map fun p => g.isPath p.x p.y := by
  -- four rows of five cells each: with the cells as variables both sides compute to one list
  obtain ⟨rows, hrows, hrow, hpath⟩ := g
  match rows, hrows with
  | [a, b, c, d], _ =>
      match a, hrow a (by simp), b, hrow b (by simp), c, hrow c (by simp), d, hrow d (by simp) with
      | [_, _, _, _, _], _, [_, _, _, _, _], _, [_, _, _, _, _], _, [_, _, _, _, _], _ => rfl

/-- There are as many path cells as the grid counts. -/
theorem length_pathCells (g : Grid) : g.pathCells.length = g.pathCount := by
  simp only [pathCount, pathCells]
  rw [flatten_rows, List.count, List.countP_map, List.countP_eq_length_filter]
  congr 1
  refine List.filter_congr fun p _ => ?_
  simp

/-! ## Counting visited cells -/

section Visited

variable {g : Grid} {visited : List Position}

/-- Different path cells are no more than the grid has. -/
theorem length_le_pathCount (hnodup : visited.Nodup)
    (hpath : ∀ p ∈ visited, g.isPath p.x p.y = true) : visited.length ≤ g.pathCount := by
  have hsub : visited ⊆ g.pathCells := fun p hp => mem_pathCells.mpr (hpath p hp)
  rw [← length_pathCells]
  exact (List.subperm_of_subset hnodup hsub).length_le

/-- Different path cells are as many as the grid has if and only if they are all it has. -/
theorem pathCount_le_length_iff (hnodup : visited.Nodup)
    (hpath : ∀ p ∈ visited, g.isPath p.x p.y = true) :
    g.pathCount ≤ visited.length ↔ ∀ p : Position, g.isPath p.x p.y = true → p ∈ visited := by
  have hsub : visited ⊆ g.pathCells := fun p hp => mem_pathCells.mpr (hpath p hp)
  rw [← length_pathCells]
  constructor
  · intro hle p hp
    have hperm := (List.subperm_of_subset hnodup hsub).perm_of_length_le hle
    exact hperm.mem_iff.mpr (mem_pathCells.mpr hp)
  · intro hall
    have hback : g.pathCells ⊆ visited := fun p hp => hall p (mem_pathCells.mp hp)
    exact (List.subperm_of_subset (nodup_pathCells g) hback).length_le

end Visited

end RobotMaze.Grid
