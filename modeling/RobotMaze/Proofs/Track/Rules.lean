import RobotMaze.Proofs.Grid.Cells
import RobotMaze.Proofs.Grid.Text
import RobotMaze.Proofs.Store.Rows
import RobotMaze.Service.Tracks

/-! # Rules of stored tracks

    A stored track obeys the rules of its fields (`TrackRow.Sound`) and can be
    read (`TrackRow.Readable`).  The operations on tracks write no other rows:

    * `newTrackRow_sound` — a new track that passed the rules;
    * `changeRow_sound` — a change that passed its checks, whichever fields it
      names: `checkChange_ok` says what these checks have shown. -/

namespace RobotMaze

open Time (Instant)

/-- What holds of the fields of every stored track. -/
structure TrackRow.Sound (r : TrackRow) : Prop where
  name_trimmed : Text.trim r.name = r.name
  name_length : 1 ≤ r.name.length ∧ r.name.length ≤ 100
  layout : ∃ g, Grid.parse r.gridConfig = .ok g ∧ r.gridConfig = g.render
    ∧ g.isPath r.startX r.startY = true
  difficulty_bounds : 1 ≤ r.difficulty ∧ r.difficulty ≤ 5
  description_clean : ∀ d ∈ r.description, Text.trim d = d ∧ d ≠ ""

/-- What makes a stored track one that can be read. -/
structure TrackRow.Readable (r : TrackRow) : Prop where
  createdAt : ∃ t, readTime r.createdAt = .ok t
  updatedAt : ∃ t, readTime r.updatedAt = .ok t
  isActive : r.isActive = 0 ∨ r.isActive = 1

/-! ## The rules of single fields -/

namespace Track

theorem checkName_ok {name checked : String} (h : checkName name = .ok checked) :
    Text.trim checked = checked ∧ 1 ≤ checked.length ∧ checked.length ≤ 100 := by
  simp only [checkName] at h
  by_cases hempty : (Text.trim name).isEmpty = true
  · simp only [if_pos hempty] at h
    cases h
  · by_cases hlong : maxTrackName < (Text.trim name).length
    · simp only [if_neg hempty, if_pos hlong] at h
      cases h
    · simp only [if_neg hempty, if_neg hlong] at h
      injection h with h
      subst h
      refine ⟨Text.trim_trim name, ?_, Nat.le_of_not_lt hlong⟩
      rw [String.isEmpty_iff] at hempty
      have hlength : (Text.trim name).length ≠ 0 := by
        rw [← String.length_toList]
        intro hzero
        exact hempty (String.toList_eq_nil_iff.mp (List.eq_nil_of_length_eq_zero hzero))
      omega

/-- The name that is kept is the given one without the blanks around it. -/
theorem eq_trim_of_checkName {name checked : String} (h : checkName name = .ok checked) :
    checked = Text.trim name := by
  simp only [checkName] at h
  split at h
  · cases h
  · split at h
    · cases h
    · exact (Except.ok.inj h).symm

theorem checkDifficulty_ok {level checked : Int} (h : checkDifficulty level = .ok checked) :
    checked = level ∧ 1 ≤ level ∧ level ≤ 5 := by
  simp only [checkDifficulty] at h
  by_cases hbounds : minDifficulty ≤ level ∧ level ≤ maxDifficulty
  · rw [if_pos hbounds] at h
    injection h with h
    exact ⟨h.symm, hbounds⟩
  · rw [if_neg hbounds] at h
    cases h

/-- So does every level that is named and checked. -/
theorem bounds_of_mapM_checkDifficulty {given level : Option Int}
    (h : given.mapM checkDifficulty = .ok level) : ∀ n ∈ given, 1 ≤ n ∧ n ≤ 5 := by
  rintro n rfl
  rcases mapM_ok h with ⟨hnone, -⟩ | ⟨source, checked, hsome, -, hchecked⟩
  · cases hnone
  · obtain rfl := Option.some.inj hsome
    exact (checkDifficulty_ok hchecked).2

theorem cleanDescription_clean (description : Option String) :
    ∀ d ∈ cleanDescription description, Text.trim d = d ∧ d ≠ "" := by
  intro d hd
  simp only [cleanDescription] at hd
  obtain ⟨hd, hnonempty⟩ := Option.mem_filter_iff.mp hd
  obtain ⟨source, hsource, rfl⟩ := Option.map_eq_some_iff.mp hd
  refine ⟨Text.trim_trim source, ?_⟩
  rintro hempty
  rw [hempty] at hnonempty
  exact absurd hnonempty (by decide)

end Track

theorem Grid.checkStart_ok {g : Grid} {x y : Int} {u : Unit} (h : g.checkStart x y = .ok u) :
    g.isPath x y = true := by
  simp only [checkStart] at h
  by_cases hpath : g.isPath x y = true
  · exact hpath
  · rw [if_neg hpath] at h
    cases h

/-- The places of a grid have small numbers. -/
theorem Grid.isInt32_of_isPath {g : Grid} {x y : Int} (h : g.isPath x y = true) :
    IsInt32 x ∧ IsInt32 y := by
  have hbounds : (0 ≤ x ∧ x < 5) ∧ 0 ≤ y ∧ y < 4 := Grid.bounds_of_isPath h
  obtain ⟨⟨hx, hxlt⟩, hy, hylt⟩ := hbounds
  exact ⟨⟨by omega, by omega⟩, by omega, by omega⟩

/-! ## Reading a row -/

namespace TrackRow

/-- The numbers of a row that obeys the rules are small. -/
theorem Sound.isInt32 {r : TrackRow} (h : r.Sound) :
    IsInt32 r.startX ∧ IsInt32 r.startY ∧ IsInt32 r.difficulty := by
  obtain ⟨g, -, -, hpath⟩ := h.layout
  obtain ⟨hx, hy⟩ := Grid.isInt32_of_isPath hpath
  obtain ⟨hlow, hhigh⟩ := h.difficulty_bounds
  exact ⟨hx, hy, by omega, by omega⟩

/-- A row that obeys the rules can be read. -/
theorem exists_read {r : TrackRow} (hsound : r.Sound) (hreadable : r.Readable) :
    ∃ t, r.read = .ok t :=
  exists_read_iff.mpr ⟨hsound.isInt32, hreadable.createdAt, hreadable.updatedAt⟩

end TrackRow

/-! ## New tracks -/

/-- A new track that passed the rules is stored as one that obeys them. -/
theorem newTrackRow_sound {input : NewTrack} {t : CheckedTrack} (h : input.check = .ok t)
    (createdBy : Option String) (now : Instant) (id : Int) :
    (Database.newTrackRow t createdBy now id).Sound := by
  simp only [NewTrack.check] at h
  obtain ⟨name, hname, h⟩ := ok_of_bind h
  obtain ⟨grid, hgrid, h⟩ := ok_of_bind h
  obtain ⟨u, hstart, h⟩ := ok_of_bind h
  obtain ⟨level, hlevel, h⟩ := ok_of_bind h
  injection h with h
  obtain ⟨htrimmed, hlength⟩ := Track.checkName_ok hname
  obtain ⟨rfl, hbounds⟩ := Track.checkDifficulty_ok hlevel
  rw [← h]
  exact {
    name_trimmed := htrimmed
    name_length := hlength
    layout := ⟨grid, Grid.parse_render grid, rfl, Grid.checkStart_ok hstart⟩
    difficulty_bounds := hbounds
    description_clean := Track.cleanDescription_clean input.description }

theorem newTrackRow_readable {now : Instant} (hnow : now.HasFourDigitYear) (t : CheckedTrack)
    (createdBy : Option String) (id : Int) :
    (Database.newTrackRow t createdBy now id).Readable where
  createdAt := ⟨_, readTime_stamp hnow⟩
  updatedAt := ⟨_, readTime_stamp hnow⟩
  isActive := Or.inr rfl

/-! ## Changed tracks -/

namespace Tracks

/-- What the checks of a change have shown about its name, its grid and its fields. -/
structure Checked (c : TrackChange) (current : Track) (name : Option String)
    (grid : Option Grid) : Prop where
  name_rules : ∀ n ∈ name, Text.trim n = n ∧ 1 ≤ n.length ∧ n.length ≤ 100
  grid_read : c.gridConfig.mapM Grid.parse = .ok grid
  layout_checked : checkLayout c grid current = .ok ()
  difficulty_bounds : ∀ level ∈ c.difficulty, 1 ≤ level ∧ level ≤ 5

/-- A layout that is looked at has its start cell on the path of the new grid, or of the old one
    where no new one is named. -/
theorem checkLayout_ok {c : TrackChange} {grid : Option Grid} {current : Track}
    (h : checkLayout c grid current = .ok ()) (htouches : c.touchesLayout = true) :
    ∃ g, (grid = some g ∨ (grid = none ∧ current.grid = .ok g))
      ∧ g.isPath (c.startX.getD current.startX) (c.startY.getD current.startY) = true := by
  simp only [checkLayout] at h
  rw [if_pos htouches] at h
  cases grid with
  | some new => exact ⟨new, Or.inl rfl, Grid.checkStart_ok h⟩
  | none =>
      obtain ⟨g, hg, hstart⟩ := ok_of_bind h
      exact ⟨g, Or.inr ⟨rfl, hg⟩, Grid.checkStart_ok hstart⟩

/-- The start cell of a change that passed its checks lies on the path. -/
theorem Checked.layout_changeRow {c : TrackChange} {current : Track} {name : Option String}
    {grid : Option Grid} {row : TrackRow} (h : Checked c current name grid)
    (hread : row.read = .ok current) (hrow : row.Sound) :
    ∃ g, Grid.parse ((grid.map Grid.render).getD row.gridConfig) = .ok g
      ∧ (grid.map Grid.render).getD row.gridConfig = g.render
      ∧ g.isPath (c.startX.getD row.startX) (c.startY.getD row.startY) = true := by
  obtain ⟨old, hparse, hrender, hpath⟩ := hrow.layout
  have hcurrent := TrackRow.eq_of_read hread
  have hx : current.startX = row.startX := by rw [hcurrent]
  have hy : current.startY = row.startY := by rw [hcurrent]
  have hconfig : current.gridConfig = row.gridConfig := by rw [hcurrent]
  by_cases htouches : c.touchesLayout = true
  · obtain ⟨g, hgrid, hstart⟩ := checkLayout_ok h.layout_checked htouches
    rw [hx, hy] at hstart
    -- a new grid replaces the text; without one the start cell was checked against the old grid
    rcases hgrid with rfl | ⟨rfl, hgrid⟩
    · exact ⟨g, Grid.parse_render g, rfl, hstart⟩
    · rw [Track.grid, hconfig, hparse] at hgrid
      injection hgrid with hgrid
      subst hgrid
      exact ⟨old, hparse, hrender, hstart⟩
  · -- neither the grid nor the start cell is named, so both stay
    have hnone : c.gridConfig = none ∧ c.startX = none ∧ c.startY = none := by
      simp only [TrackChange.touchesLayout] at htouches
      simpa [and_assoc] using htouches
    obtain ⟨hgrid, hstartX, hstartY⟩ := hnone
    have hsame : grid = none := by
      have hmap := h.grid_read
      rw [hgrid] at hmap
      injection hmap with hmap
      exact hmap.symm
    rw [hsame, hstartX, hstartY]
    exact ⟨old, hparse, hrender, hpath⟩

/-- A change that passed its checks leaves a track that obeys the rules. -/
theorem Checked.changeRow_sound {c : TrackChange} {current : Track} {name : Option String}
    {grid : Option Grid} {row : TrackRow} (h : Checked c current name grid)
    (hread : row.read = .ok current) (hrow : row.Sound) (now : Instant) :
    (changeRow c name grid now row).Sound where
  name_trimmed := by
    cases name with
    | none => exact hrow.name_trimmed
    | some n => exact (h.name_rules n rfl).1
  name_length := by
    cases name with
    | none => exact hrow.name_length
    | some n => exact (h.name_rules n rfl).2
  layout := h.layout_changeRow hread hrow
  difficulty_bounds := by
    show 1 ≤ c.difficulty.getD row.difficulty ∧ c.difficulty.getD row.difficulty ≤ 5
    cases hlevel : c.difficulty with
    | none => exact hrow.difficulty_bounds
    | some level => exact h.difficulty_bounds level hlevel
  description_clean := by
    simp only [changeRow]
    cases c.description with
    | none => exact hrow.description_clean
    | some description => exact Track.cleanDescription_clean description

theorem changeRow_readable {now : Instant} (hnow : now.HasFourDigitYear) {row : TrackRow}
    (hrow : row.Readable) (c : TrackChange) (name : Option String) (grid : Option Grid) :
    (changeRow c name grid now row).Readable where
  createdAt := hrow.createdAt
  updatedAt := ⟨_, readTime_stamp hnow⟩
  isActive := by
    simp only [changeRow]
    cases c.isActive with
    | none => exact hrow.isActive
    | some b => cases b <;> simp [flag]

end Tracks

end RobotMaze
