import RobotMaze.Grid
import RobotMaze.Proofs.Grid.Cells
import RobotMaze.Proofs.Json.Items
import RobotMaze.Proofs.Ranges

/-! # Grid texts — one canonical text for each grid

    A grid has many texts, which differ in their blanks, and one canonical text.
    A store keeps only that and reads it for every game.

    * `Grid.ofRows_cells` — the numbers of a grid's cells make the grid;
    * `Grid.parse_render` — so does its canonical text;
    * `Grid.eq_of_isPath` — a grid is known by its path;
    * `Grid.canonical_answer` — a second pass over a canonical text changes
      nothing, and two texts have the same canonical text exactly if their grids
      have the same path. -/

namespace RobotMaze.Grid

open Json (Decoder Reading)
open Json.Reading (ReadsBack valueAt valueAt_brackets)

/-- The number of a cell. -/
def cellNumber (cell : Bool) : Int := if cell then 1 else 0

/-- The written form of a cell. -/
def cellChars (cell : Bool) : List Char := [if cell then '1' else '0']

/-- What is read of a cell. -/
def cellReading (cell : Bool) : Reading := .number (.whole (cellNumber cell))

/-- What is read of a row. -/
def rowReading (row : List Bool) : Reading := .array (row.map cellReading) true

/-! ## The rules of a grid -/

/-- A grid is made of the numbers of its cells. -/
theorem ofRows_cells (g : Grid) : ofRows (g.rows.map fun row => row.map cellNumber) = .ok g := by
  obtain ⟨rows, hrows, hrow, hpath⟩ := g
  have hlength : (rows.map fun row => row.map cellNumber).length = gridRows := by
    rw [List.length_map]
    exact hrows
  have hcolumns : (rows.map fun row => row.map cellNumber).findIdx?
      (fun row => row.length != gridColumns) = none := by
    rw [List.findIdx?_eq_none_iff]
    intro row hmem
    obtain ⟨source, hsource, rfl⟩ := List.mem_map.mp hmem
    simp [hrow source hsource]
  have hcells : (rows.map fun row => row.map cellNumber).all
      (fun row => row.all fun cell => cell == 0 || cell == 1) = true := by
    simp [cellNumber]
  have hback : (rows.map fun row => row.map cellNumber).map
      (fun row => row.map fun cell => cell == 1) = rows := by
    rw [List.map_map]
    refine List.map_id'' (fun row => ?_) rows
    show (row.map cellNumber).map (fun cell => cell == 1) = row
    rw [List.map_map]
    refine List.map_id'' (fun cell => ?_) row
    cases cell <;> rfl
  simp only [ofRows]
  rw [dif_pos hlength]
  split
  · rename_i i hfound
    rw [hcolumns] at hfound
    cases hfound
  · rw [if_pos hcells]
    simp only [hback]
    rw [dif_pos hpath]

/-! ## Reading a canonical text -/

theorem readsBack_cells (row : List Bool) : ReadsBack cellChars cellReading 1 row := by
  intro cell _ fuel c rest hfuel hc
  obtain ⟨k, rfl⟩ : ∃ k, fuel = k + 1 := ⟨fuel - 1, by omega⟩
  cases cell <;> rcases hc with rfl | rfl <;> rfl

/-- Rows of the width of a grid are read back. -/
theorem readsBack_rows {rows : List (List Bool)} (h : ∀ row ∈ rows, row.length = gridColumns) :
    ReadsBack rowChars rowReading 7 rows := by
  intro row hrow fuel c rest hfuel _
  have hlength : row.length = 5 := h row hrow
  obtain ⟨cell, cells, rfl⟩ : ∃ cell cells, row = cell :: cells :=
    List.exists_cons_of_length_pos (by omega)
  rw [List.length_cons] at hlength
  have hread := valueAt_brackets (readsBack_cells (cell :: cells)) rfl
    (by cases cell <;> rfl) (by cases cell <;> decide) (show 1 + cells.length + 2 ≤ fuel by omega)
    (c :: rest)
  show valueAt fuel (('[' :: (((cell :: cells).map cellChars).intersperse [',']).flatten ++ [']'])
    ++ c :: rest) = _
  rw [List.append_assoc]
  exact hread

theorem length_rowChars {row : List Bool} (h : row.length = gridColumns) :
    (rowChars row).length = 11 := by
  match row, h with
  | [_, _, _, _, _], _ => rfl

/-- What is read of the canonical text of a grid. -/
theorem ofChars_render (g : Grid) :
    Reading.ofChars g.render.toList = (.array (g.rows.map rowReading) true, []) := by
  obtain ⟨row, rows, hrows⟩ : ∃ row rows, g.rows = row :: rows :=
    List.exists_cons_of_length_pos (by rw [g.rows_length]; decide)
  have hlength : rows.length = 3 := by
    have := g.rows_length
    rw [hrows, List.length_cons] at this
    exact Nat.succ.inj this
  have hwidth : ∀ r ∈ row :: rows, r.length = gridColumns := by
    rw [← hrows]
    exact g.row_length
  have hchars : g.render.toList
      = '[' :: (((row :: rows).map rowChars).intersperse [',']).flatten ++ [']'] := by
    simp only [render]
    rw [hrows, String.toList_ofList]
  -- the text is longer than its first row, which gives fuel enough
  have hfuel : 7 + rows.length + 2 ≤ g.render.toList.length + 1 := by
    obtain ⟨tail, htail⟩ : ∃ tail, (((row :: rows).map rowChars).intersperse [',']).flatten
        = rowChars row ++ tail := by
      cases rows <;> simp
    rw [hchars, htail]
    simp only [List.length_append, List.length_cons,
      length_rowChars (hwidth row List.mem_cons_self)]
    omega
  have hfirst : ∃ more, rowChars row = '[' :: more := ⟨_, rfl⟩
  obtain ⟨more, hfirst⟩ := hfirst
  have hread := valueAt_brackets (readsBack_rows hwidth) hfirst rfl (by decide) hfuel []
  simp only [Reading.ofChars]
  rw [hrows, ← hread, ← hchars]

/-- The canonical text of a grid reads back as the grid. -/
theorem parse_render (g : Grid) : parse g.render = .ok g := by
  have hrows : Decoder.list (Decoder.list Decoder.int64) (.array (g.rows.map rowReading) true)
      = .ok (g.rows.map fun row => row.map cellNumber) := by
    refine Decoder.list_array fun row _ => ?_
    refine Decoder.list_array fun cell _ => ?_
    cases cell <;> rfl
  have hdecode : Json.decode (Decoder.list (Decoder.list Decoder.int64)) g.render
      = .ok (g.rows.map fun row => row.map cellNumber) := by
    simp only [Json.decode]
    rw [ofChars_render]
    show (Decoder.list (Decoder.list Decoder.int64) (.array (g.rows.map rowReading) true)
      >>= fun a => _) = _
    rw [hrows]
    rfl
  simp only [parse]
  rw [hdecode]
  exact ofRows_cells g

/-! ## Canonical texts -/

/-- The canonical text of a grid text. -/
def canonical (text : String) : Except Violation String := (parse text).map render

variable {g h : Grid}

/-- Grids of the same cells are the same. -/
theorem eq_of_flatten_rows (heq : g.rows.flatten = h.rows.flatten) : g = h := by
  -- all rows have one length, so the cells can be cut into rows in one way only
  have hlength : ∀ k : Grid, k.rows.map List.length = List.replicate gridRows gridColumns := by
    intro k
    refine List.eq_replicate_iff.mpr ⟨by rw [List.length_map, k.rows_length], fun n hn => ?_⟩
    obtain ⟨row, hrow, rfl⟩ := List.mem_map.mp hn
    exact k.row_length row hrow
  have hrows : g.rows = h.rows :=
    List.eq_iff_flatten_eq.mpr ⟨heq, (hlength g).trans (hlength h).symm⟩
  cases g
  cases h
  cases hrows
  rfl

/-- Grids with the same path are the same; the coordinates of 32 bits are enough for that. -/
theorem eq_of_isPath (hpath : ∀ x y, IsInt32 x → IsInt32 y → g.isPath x y = h.isPath x y) :
    g = h := by
  refine eq_of_flatten_rows ?_
  rw [flatten_rows, flatten_rows]
  refine List.map_congr_left fun p hp => ?_
  obtain ⟨⟨hx, hx'⟩, hy, hy'⟩ := mem_places.mp hp
  simp only [gridColumns, gridRows] at hx' hy'
  exact hpath p.x p.y ⟨by omega, by omega⟩ ⟨by omega, by omega⟩

/-- Grids with the same canonical text are the same, for the text is read back. -/
theorem eq_of_render (heq : g.render = h.render) : g = h := by
  have hparse : (Except.ok g : Except Violation Grid) = .ok h := by
    rw [← parse_render g, heq, parse_render h]
  injection hparse

theorem canonical_of_parse {s : String} (hs : parse s = .ok g) : canonical s = .ok g.render := by
  simp only [canonical]
  rw [hs]
  rfl

/-- Only an accepted text has a canonical text. -/
theorem exists_parse_of_canonical {s c : String} (hs : canonical s = .ok c) :
    ∃ g, parse s = .ok g := by
  cases hparse : parse s with
  | ok g => exact ⟨g, rfl⟩
  | error v =>
      simp only [canonical] at hs
      rw [hparse] at hs
      cases hs

/-- The canonical text of an accepted text has the same grid and is its own canonical text.
    Two accepted texts share their canonical text exactly if their grids agree on every cell. -/
theorem canonical_answer {s t : String} (hs : parse s = .ok g) (ht : parse t = .ok h) :
    canonical s = .ok g.render ∧ parse g.render = .ok g ∧ canonical g.render = .ok g.render
    ∧ (canonical s = canonical t
      ↔ ∀ x y, IsInt32 x → IsInt32 y → g.isPath x y = h.isPath x y) := by
  refine ⟨canonical_of_parse hs, parse_render g, canonical_of_parse (parse_render g), ?_, ?_⟩
  · intro heq x y _ _
    rw [canonical_of_parse hs, canonical_of_parse ht] at heq
    injection heq with heq
    rw [eq_of_render heq]
  · intro hpath
    rw [canonical_of_parse hs, canonical_of_parse ht, eq_of_isPath hpath]

/-- Two texts of one grid, with blanks in other places. -/
theorem canonical_answer_blanks :
    let s := " [[1, 1,1,1,1],[0,0,0,0,0],[0,0,0,0,0],[0,0,0,0,0]]\n"
    let t := "[[1,1,1,1,1] ,[0,0,0,0,0],[0,0,0,0,0],[0,0,0,0, 0]]"
    canonical s = .ok corridor.render ∧ canonical t = .ok corridor.render
    ∧ ∃ g h, parse s = .ok g ∧ parse t = .ok h ∧ canonical g.render = .ok g.render
      ∧ ∀ x y, IsInt32 x → IsInt32 y → g.isPath x y = h.isPath x y := by
  intro s t
  have hs : canonical s = .ok corridor.render := by decide +kernel
  have ht : canonical t = .ok corridor.render := by decide +kernel
  obtain ⟨g, hg⟩ := exists_parse_of_canonical hs
  obtain ⟨h, hh⟩ := exists_parse_of_canonical ht
  obtain ⟨-, -, hagain, hiff⟩ := canonical_answer hg hh
  exact ⟨hs, ht, g, h, hg, hh, hagain, hiff.mp (hs.trans ht.symm)⟩

end RobotMaze.Grid
