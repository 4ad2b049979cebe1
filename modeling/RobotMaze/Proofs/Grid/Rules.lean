import RobotMaze.Proofs.Grid.Cells
import RobotMaze.Proofs.Grid.Text

/-! # Grid rules — which rows of numbers are a grid, and what is wrong with the others

    The rules are said here of rows of numbers, without a grid:

    * `IsGrid` are the rules together;
    * `FirstBroken` is the first rule that rows break, with its wording.

    Rows satisfy the rules or break a first one, and never both
    (`FirstBroken.not_isGrid`), so `Grid.ofRows_answer` says all that
    `Grid.ofRows` can answer. -/

namespace RobotMaze.Grid

/-- Rows of numbers that are a grid. -/
structure IsGrid (rows : List (List Int)) : Prop where
  rowCount : rows.length = 4
  columnCount : ∀ row ∈ rows, row.length = 5
  cell : ∀ row ∈ rows, ∀ cell ∈ row, cell = 0 ∨ cell = 1
  path : ∃ row ∈ rows, 1 ∈ row

/-- The first rule that rows of numbers break, in the order of the rules, and its wording. -/
inductive FirstBroken (rows : List (List Int)) : Violation → String → Prop where
  | rowCount (hrows : rows.length ≠ 4) :
      FirstBroken rows .gridRowCount "Grid must have exactly 4 rows"
  /-- All rows before this one have the right length. -/
  | columnCount (hrows : rows.length = 4) (before : List (List Int)) (row : List Int)
      (after : List (List Int)) (hsplit : rows = before ++ row :: after)
      (hbefore : ∀ r ∈ before, r.length = 5) (hrow : row.length ≠ 5) :
      FirstBroken rows (.gridColumnCount (before.length + 1))
        ("Row " ++ toString (before.length + 1) ++ " must have exactly 5 columns")
  | cell (hrows : rows.length = 4) (hcolumns : ∀ row ∈ rows, row.length = 5)
      (hcell : ∃ row ∈ rows, ∃ cell ∈ row, cell ≠ 0 ∧ cell ≠ 1) :
      FirstBroken rows .gridCell "Grid cells must be 0 or 1"
  | withoutPath (hrows : rows.length = 4) (hcolumns : ∀ row ∈ rows, row.length = 5)
      (hcell : ∀ row ∈ rows, ∀ cell ∈ row, cell = 0) :
      FirstBroken rows .gridWithoutPath "Grid must contain at least one path cell"

namespace FirstBroken

variable {rows : List (List Int)} {v w : Violation} {text text' : String}

/-- Rows that break a rule are no grid. -/
theorem not_isGrid (h : FirstBroken rows v text) : ¬IsGrid rows := by
  intro hgrid
  cases h with
  | rowCount hrows => exact hrows hgrid.rowCount
  | columnCount hrows before row after hsplit hbefore hrow =>
      exact hrow (hgrid.columnCount row (by simp [hsplit]))
  | cell hrows hcolumns hcell =>
      obtain ⟨row, hmem, cell, hcell, hzero, hone⟩ := hcell
      rcases hgrid.cell row hmem cell hcell with h | h
      · exact hzero h
      · exact hone h
  | withoutPath hrows hcolumns hcell =>
      obtain ⟨row, hmem, hone⟩ := hgrid.path
      exact absurd (hcell row hmem 1 hone) (by decide)

/-- Two splits of rows at the first one of a wrong length have the same rows before it. -/
theorem length_before {before before' after after' : List (List Int)} {row row' : List Int}
    (hsplit : before ++ row :: after = before' ++ row' :: after')
    (hbefore : ∀ r ∈ before, r.length = 5) (hrow : row.length ≠ 5)
    (hbefore' : ∀ r ∈ before', r.length = 5) (hrow' : row'.length ≠ 5) :
    before.length = before'.length := by
  -- on the rows before: as long as neither split has come to its wrong row, both go on with the
  -- same one
  induction before generalizing before' with
  | nil =>
      cases before' with
      | nil => rfl
      | cons r rest =>
          injection hsplit with hhead
          exact absurd (hhead ▸ hbefore' r List.mem_cons_self) hrow
  | cons r rest ih =>
      cases before' with
      | nil =>
          injection hsplit with hhead
          exact absurd (hhead ▸ hbefore r List.mem_cons_self) hrow'
      | cons r' rest' =>
          injection hsplit with hhead htail
          simp only [List.length_cons]
          rw [ih htail (fun s hs => hbefore s (List.mem_cons_of_mem _ hs))
            fun s hs => hbefore' s (List.mem_cons_of_mem _ hs)]

/-- Only one rule is the first that is broken. -/
theorem unique (h : FirstBroken rows v text) (h' : FirstBroken rows w text') : v = w := by
  cases h with
  | rowCount hrows =>
      cases h' with
      | rowCount => rfl
      | columnCount hrows' | cell hrows' | withoutPath hrows' => exact absurd hrows' hrows
  | columnCount hrows before row after hsplit hbefore hrow =>
      have hmem : row ∈ rows := by simp [hsplit]
      cases h' with
      | rowCount hrows' => exact absurd hrows hrows'
      | columnCount _ before' row' after' hsplit' hbefore' hrow' =>
          rw [length_before (hsplit.symm.trans hsplit') hbefore hrow hbefore' hrow']
      | cell _ hcolumns | withoutPath _ hcolumns => exact absurd (hcolumns row hmem) hrow
  | cell hrows hcolumns hcell =>
      cases h' with
      | rowCount hrows' => exact absurd hrows hrows'
      | columnCount _ before' row' after' hsplit' _ hrow' =>
          exact absurd (hcolumns row' (by simp [hsplit'])) hrow'
      | cell => rfl
      | withoutPath _ _ hzero =>
          obtain ⟨row, hmem, cell, hcell, hne, -⟩ := hcell
          exact absurd (hzero row hmem cell hcell) hne
  | withoutPath hrows hcolumns hzero =>
      cases h' with
      | rowCount hrows' => exact absurd hrows hrows'
      | columnCount _ before' row' after' hsplit' _ hrow' =>
          exact absurd (hcolumns row' (by simp [hsplit'])) hrow'
      | cell _ _ hcell =>
          obtain ⟨row, hmem, cell, hcell, hne, -⟩ := hcell
          exact absurd (hzero row hmem cell hcell) hne
      | withoutPath => rfl

end FirstBroken

/-! ## What rows of numbers make -/

section OfRows

variable {rows : List (List Int)} {g : Grid} {v : Violation}

theorem message_gridColumnCount (n : Nat) : (Violation.gridColumnCount n).message
    = "Row " ++ toString n ++ " must have exactly 5 columns" := by
  have hend : " must have exactly " ++ (toString gridColumns ++ " columns")
      = " must have exactly 5 columns" := by decide
  show "Row " ++ toString n ++ " must have exactly " ++ toString gridColumns ++ " columns" = _
  rw [String.append_assoc, String.append_assoc, hend]

theorem columnCount_of_findIdx? (h : rows.findIdx? (fun row => row.length != gridColumns) = none) :
    ∀ row ∈ rows, row.length = 5 := by
  intro row hrow
  simpa [gridColumns] using List.findIdx?_eq_none_iff.mp h row hrow

/-- A grid is made of rows that follow the rules, and its path cells are the ones. -/
theorem isGrid_of_ofRows (h : ofRows rows = .ok g) :
    IsGrid rows ∧ g.rows = rows.map fun row => row.map fun cell => cell == 1 := by
  simp only [ofRows] at h
  split at h
  case isFalse => cases h
  case isTrue hrows =>
    split at h
    · cases h
    · rename_i hcolumns
      split at h
      case isFalse => cases h
      case isTrue hcells =>
        split at h
        case isFalse => cases h
        case isTrue hpath =>
          injection h with h
          subst h
          -- a path cell that is counted comes from a one in some row
          obtain ⟨cells, hmem, htrue⟩ := List.mem_flatten.mp (List.count_pos_iff.mp hpath)
          obtain ⟨row, hrow, rfl⟩ := List.mem_map.mp hmem
          obtain ⟨cell, hcell, hone⟩ := List.mem_map.mp htrue
          refine ⟨⟨hrows, columnCount_of_findIdx? hcolumns, ?_, row, hrow,
            beq_iff_eq.mp hone ▸ hcell⟩, rfl⟩
          intro row hrow cell hcell
          simpa using List.all_eq_true.mp (List.all_eq_true.mp hcells row hrow) cell hcell

/-- What is reported is the first rule that the rows break. -/
theorem firstBroken_of_ofRows (h : ofRows rows = .error v) : FirstBroken rows v v.message := by
  simp only [ofRows] at h
  split at h
  case isFalse hrows =>
    injection h with h
    subst h
    exact .rowCount hrows
  case isTrue hrows =>
    split at h
    · rename_i i hfound
      injection h with h
      subst h
      -- the search stops at the first row of a wrong length, and rows are numbered from one
      obtain ⟨hi, hrow, hbefore⟩ := List.findIdx?_eq_some_iff_getElem.mp hfound
      have hlength : (rows.take i).length = i := by
        rw [List.length_take]
        omega
      have hbroken := FirstBroken.columnCount hrows (rows.take i) rows[i] (rows.drop (i + 1))
        (by simp) ?_ (by simpa [gridColumns] using hrow)
      · rw [message_gridColumnCount]
        rw [hlength] at hbroken
        exact hbroken
      · intro r hr
        obtain ⟨j, hj, rfl⟩ := List.mem_take_iff_getElem.mp hr
        simpa [gridColumns] using hbefore j (by omega)
    · rename_i hcolumns
      have hcolumns := columnCount_of_findIdx? hcolumns
      split at h
      case isFalse hcells =>
        injection h with h
        subst h
        refine .cell hrows hcolumns ?_
        simpa using hcells
      case isTrue hcells =>
        split at h
        case isTrue => cases h
        case isFalse hpath =>
          injection h with h
          subst h
          refine .withoutPath hrows hcolumns fun row hrow cell hcell => ?_
          have hbit : cell = 0 ∨ cell = 1 := by
            simpa using List.all_eq_true.mp (List.all_eq_true.mp hcells row hrow) cell hcell
          refine hbit.resolve_right fun hone => hpath (List.count_pos_iff.mpr ?_)
          refine List.mem_flatten.mpr ⟨_, List.mem_map.mpr ⟨row, hrow, rfl⟩, ?_⟩
          exact List.mem_map.mpr ⟨cell, hcell, by simp [hone]⟩

/-- A cell is path if it lies in the rows and its number is one. -/
theorem isPath_of_rows (h : g.rows = rows.map fun row => row.map fun cell => cell == 1)
    (x y : Int) : g.isPath x y = true ↔ (0 ≤ x ∧ x < 5) ∧ (0 ≤ y ∧ y < 4)
      ∧ ∃ row, rows[y.toNat]? = some row ∧ row[x.toNat]? = some 1 := by
  -- the look-up itself needs no upper bounds, which follow from the shape of a grid
  have hcell : 0 ≤ x ∧ 0 ≤ y → (g.isPath x y = true
      ↔ ∃ row, rows[y.toNat]? = some row ∧ row[x.toNat]? = some 1) := by
    intro hxy
    simp only [isPath, h]
    rw [if_pos hxy, List.getElem?_map]
    cases rows[y.toNat]? with
    | none => simp
    | some row => cases hget : row[x.toNat]? <;> simp [hget]
  constructor
  · intro hpath
    obtain ⟨hx, hy⟩ := bounds_of_isPath hpath
    exact ⟨hx, hy, (hcell ⟨hx.1, hy.1⟩).mp hpath⟩
  · rintro ⟨hx, hy, hone⟩
    exact (hcell ⟨hx.1, hy.1⟩).mpr hone

/-- A grid counts the ones of its rows. -/
theorem pathCount_of_rows (h : g.rows = rows.map fun row => row.map fun cell => cell == 1) :
    g.pathCount = rows.flatten.count 1 := by
  simp only [pathCount, h]
  rw [← List.map_flatten, List.count, List.countP_map, List.count]
  refine List.countP_congr fun cell _ => ?_
  simp

/-- Rows of numbers are a grid exactly if they follow the rules; its path is where the ones
    are.  For other rows the first rule that they break is reported. -/
theorem ofRows_answer (rows : List (List Int)) :
    ((∃ g, ofRows rows = .ok g) ↔ IsGrid rows)
    ∧ (∀ g, ofRows rows = .ok g →
        (∀ x y : Int, g.isPath x y = true ↔ (0 ≤ x ∧ x < 5) ∧ (0 ≤ y ∧ y < 4)
          ∧ ∃ row, rows[y.toNat]? = some row ∧ row[x.toNat]? = some 1)
        ∧ g.pathCount = rows.flatten.count 1)
    ∧ ∀ v, ofRows rows = .error v ↔ FirstBroken rows v v.message := by
  refine ⟨⟨?_, ?_⟩, ?_, fun v => ⟨firstBroken_of_ofRows, ?_⟩⟩
  · rintro ⟨g, hg⟩
    exact (isGrid_of_ofRows hg).1
  · intro hgrid
    cases hrows : ofRows rows with
    | ok g => exact ⟨g, rfl⟩
    | error v => exact absurd hgrid (firstBroken_of_ofRows hrows).not_isGrid
  · intro g hg
    obtain ⟨-, hcells⟩ := isGrid_of_ofRows hg
    exact ⟨isPath_of_rows hcells, pathCount_of_rows hcells⟩
  · intro hbroken
    cases hrows : ofRows rows with
    | ok g => exact absurd (isGrid_of_ofRows hrows).1 hbroken.not_isGrid
    | error w => rw [(firstBroken_of_ofRows hrows).unique hbroken]

end OfRows

end RobotMaze.Grid
