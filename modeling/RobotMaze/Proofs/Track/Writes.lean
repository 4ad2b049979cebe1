import RobotMaze.Proofs.Service.Frames
import RobotMaze.Proofs.Store.Table
import RobotMaze.Proofs.Track.Rules

/-! # Writes to the table of tracks

    Each operation on tracks writes at most one row, and a row that is written
    obeys the rules.

    * `Tracks.get_ok`, `checkChange_ok` — what reading and checking have shown;
    * `create_writes`, `update_writes`, … — the write of each operation, whatever
      its answer;
    * `Call.writes` — that of any call. -/

namespace RobotMaze.Tracks

open Time (Instant)

/-- A row as the operations on tracks leave it. -/
structure Kept (r : TrackRow) : Prop where
  sound : r.Sound
  readable : r.Readable

/-- What an operation does to the table of tracks. -/
def Writes (s t : Store) : Prop :=
  Table.Written Kept Database.trackIsAcceptable s.database.tracks t.database.tracks

theorem Writes.refl (s : Store) : Writes s s := Table.Written.nothing

/-- What leaves the table of tracks alone adds no write. -/
theorem Writes.of_eq {s t u : Store} (h : Writes s t)
    (htracks : u.database.tracks = t.database.tracks) : Writes s u := by
  simp only [Writes]
  rw [htracks]
  exact h

/-- After its write an operation does nothing to the table of tracks. -/
theorem Writes.ends {α : Type} {op : Op α} {s t : Store} (h : Writes s t)
    (hop : op.Keeps fun u => u.database.tracks) : op.Ends t fun _ u => Writes s u :=
  Op.Ends.keeping hop fun _ _ htracks => h.of_eq htracks

/-- What leaves the table of tracks alone writes nothing to it. -/
theorem writes_of_keeps {α : Type} {op : Op α} (s : Store)
    (hop : op.Keeps fun u => u.database.tracks) : Writes s (op.run s).2 :=
  (Writes.refl s).of_eq (hop.run s)

theorem besideAudit_tracks : BesideAudit fun s : Store => s.database.tracks :=
  ⟨fun _ _ => rfl, fun _ _ => rfl⟩

/-! ## What was read and checked -/

theorem get_ok {id : Int} {s : Store} {t : Track} (h : (get id).answer s = .ok t) :
    ∃ row, s.database.tracks.find? id = some row ∧ row.read = .ok t := by
  simp only [get] at h
  obtain ⟨found, hfound, h⟩ := Op.Reads.ok_of_bind (Op.keeps_query _) h
  injection hfound with hfound
  cases found with
  | none => cases h
  | some row =>
      rw [Op.answer_ofRead] at h
      exact ⟨row, hfound, h⟩

/-- A change that passed its checks passed each of them. -/
theorem checkChange_parts {id : Int} {c : TrackChange} {current : Track} {s : Store}
    {name : Option String} {grid : Option Grid}
    (h : (checkChange id c current).answer s = .ok (name, grid)) :
    c.name.mapM Track.checkName = .ok name ∧ c.gridConfig.mapM Grid.parse = .ok grid
    ∧ checkLayout c grid current = .ok ()
    ∧ ∃ level, c.difficulty.mapM Track.checkDifficulty = .ok level := by
  -- whether or not the name has to be free, the same checks follow
  have hrest : ∃ checked, c.name.mapM Track.checkName = .ok checked
      ∧ (do
          let grid ← Op.ofCheck (c.gridConfig.mapM Grid.parse)
          Op.ofCheck (checkLayout c grid current)
          let _ ← Op.ofCheck (c.difficulty.mapM Track.checkDifficulty)
          return (checked, grid) : Op (Option String × Option Grid)).answer s
        = .ok (name, grid) := by
    simp only [checkChange] at h
    obtain ⟨checked, hname, h⟩ := Op.Reads.ok_of_bind (Op.keeps_ofCheck _) h
    refine ⟨checked, Op.ofCheck_ok hname, ?_⟩
    by_cases hneeds : needsName c checked current = true
    · rw [if_pos hneeds] at h
      obtain ⟨u, hfree, h⟩ := Op.Reads.ok_of_bind (keeps_requireName _ _ _) h
      exact h
    · rw [if_neg hneeds] at h
      exact h
  obtain ⟨checked, hname, hrest⟩ := hrest
  obtain ⟨read, hgrid, hrest⟩ := Op.Reads.ok_of_bind (Op.keeps_ofCheck _) hrest
  obtain ⟨u, hlayout, hrest⟩ := Op.Reads.ok_of_bind (Op.keeps_ofCheck _) hrest
  obtain ⟨level, hlevel, hrest⟩ := Op.Reads.ok_of_bind (Op.keeps_ofCheck _) hrest
  injection hrest with hrest
  injection hrest with hchecked hread
  subst hchecked hread
  exact ⟨hname, Op.ofCheck_ok hgrid, Op.ofCheck_ok hlayout, level, Op.ofCheck_ok hlevel⟩

/-- The checks of a change have shown that its fields obey the rules. -/
theorem checkChange_ok {id : Int} {c : TrackChange} {current : Track} {s : Store}
    {name : Option String} {grid : Option Grid}
    (h : (checkChange id c current).answer s = .ok (name, grid)) :
    Checked c current name grid := by
  obtain ⟨hname, hgrid, hlayout, level, hlevel⟩ := checkChange_parts h
  refine ⟨?_, hgrid, hlayout, Track.bounds_of_mapM_checkDifficulty hlevel⟩
  intro n hn
  rcases mapM_ok hname with ⟨-, rfl⟩ | ⟨source, checked, -, rfl, hchecked⟩
  · cases hn
  · injection hn with hn
    subst hn
    exact Track.checkName_ok hchecked

/-! ## The write of each operation -/

section Operations

variable {now : Instant} (hnow : now.HasFourDigitYear) (actor : Actor) (s : Store)
include hnow

/-- A new track is added as a row that obeys the rules. -/
theorem store_writes {input : NewTrack} {t : CheckedTrack} (hcheck : input.check = .ok t) :
    (store t actor now).Ends s fun _ u => Writes s u := by
  simp only [store]
  refine Op.Ends.changing (fun _ _ => Writes.refl s) fun row db hdb => ?_
  obtain ⟨tracks, hinsert, rfl⟩ := Database.insertTrack_ok hdb
  have hwrites : Writes s { s with database := { s.database with tracks } } :=
    Table.Written.added (fun _ => rfl)
      (fun id => ⟨newTrackRow_sound hcheck _ now id, newTrackRow_readable hnow t _ id⟩) hinsert
  exact hwrites.ends (Op.keeps_ofRead _)

theorem create_writes (input : NewTrack) :
    (create input actor now).Ends s fun _ u => Writes s u := by
  simp only [create]
  refine Op.Ends.reading (Op.keeps_ofCheck _) (fun _ _ => Writes.refl s) fun t ht => ?_
  refine Op.Ends.reading (keeps_requireName _ _ _) (fun _ _ => Writes.refl s) fun _ _ => ?_
  refine (store_writes hnow actor s (Op.ofCheck_ok ht)).bind ?_ fun _ _ h => h
  intro t u hwrites
  refine hwrites.ends ?_
  exact Op.keeps_bind (AuditLog.keeps_note besideAudit_tracks _ _) fun _ => Op.keeps_pure _

theorem importOne_writes (doc : TrackDocument) :
    (importOne doc actor now).Ends s fun _ u => Writes s u := by
  simp only [importOne]
  refine Op.Ends.reading (Op.keeps_ofCheck _) (fun _ _ => Writes.refl s) fun _ _ => ?_
  refine Op.Ends.reading (Op.keeps_ofCheck _) (fun _ _ => Writes.refl s) fun base _ => ?_
  refine Op.Ends.reading keeps_active (fun _ _ => Writes.refl s) fun tracks _ => ?_
  refine Op.Ends.reading (Op.keeps_ofCheck _) (fun _ _ => Writes.refl s) fun t ht => ?_
  refine (store_writes hnow actor s (Op.ofCheck_ok ht)).bind ?_ fun _ _ h => h
  intro t u hwrites
  refine hwrites.ends ?_
  exact Op.keeps_bind (AuditLog.keeps_note besideAudit_tracks _ _) fun _ => Op.keeps_pure _

/-- Setting the flag of a track and the time of its change keeps the rules. -/
theorem kept_of_flag {r : TrackRow} (hr : Kept r) (active : Bool) :
    Kept { r with isActive := flag active, updatedAt := now.stamp } where
  sound := ⟨hr.sound.name_trimmed, hr.sound.name_length, hr.sound.layout,
    hr.sound.difficulty_bounds, hr.sound.description_clean⟩
  readable := ⟨hr.readable.createdAt, ⟨_, readTime_stamp hnow⟩, by cases active <;> simp [flag]⟩

theorem update_writes (id : Int) (c : TrackChange) :
    (update id c actor now).Ends s fun _ u => Writes s u := by
  simp only [update]
  refine Op.Ends.reading (keeps_get id) (fun _ _ => Writes.refl s) fun current hcurrent => ?_
  refine Op.Ends.reading (keeps_checkChange _ _ _) (fun _ _ => Writes.refl s) ?_
  rintro ⟨name, grid⟩ hchecked
  by_cases hempty : c = {}
  · simp only [if_pos hempty]
    exact Op.ends_pure (Writes.refl s)
  · simp only [if_neg hempty]
    refine Op.Ends.changing (fun _ _ => Writes.refl s) fun n db hdb => ?_
    obtain ⟨tracks, hmodify, rfl⟩ := Database.modifyTrack_ok hdb
    have hwrites : Writes s { s with database := { s.database with tracks } } := by
      refine Table.Written.changed ?_ ?_ hmodify
      · exact fun _ => rfl
      intro r hfind hr
      -- the row that is changed is the one that was read and checked
      obtain ⟨row, hrow, hread⟩ := get_ok hcurrent
      rw [hfind] at hrow
      injection hrow with hrow
      subst hrow
      exact ⟨(checkChange_ok hchecked).changeRow_sound hread hr.sound now,
        changeRow_readable hnow hr.readable c name grid⟩
    refine hwrites.ends ?_
    have hnote := AuditLog.keeps_note besideAudit_tracks
    grind

theorem delete_writes (id : Int) : (delete id actor now).Ends s fun _ u => Writes s u := by
  simp only [delete]
  refine Op.Ends.reading (keeps_get id) (fun _ _ => Writes.refl s) fun t ht => ?_
  by_cases hactive : t.isActive = true
  · simp only [hactive, Bool.not_true, Bool.false_eq_true, if_false]
    refine Op.Ends.changing (fun _ _ => Writes.refl s) fun n db hdb => ?_
    obtain ⟨tracks, hmodify, rfl⟩ := Database.modifyTrack_ok hdb
    have hwrites : Writes s { s with database := { s.database with tracks } } := by
      refine Table.Written.changed ?_ (fun r _ hr => kept_of_flag hnow hr false) hmodify
      exact fun _ => rfl
    refine hwrites.ends ?_
    have hnote := AuditLog.keeps_note besideAudit_tracks
    grind
  · simp only [hactive, Bool.not_false, if_true]
    exact Op.ends_pure (Writes.refl s)

theorem reactivate_writes (id : Int) :
    (reactivate id actor now).Ends s fun _ u => Writes s u := by
  simp only [reactivate]
  refine Op.Ends.reading (keeps_get id) (fun _ _ => Writes.refl s) fun t ht => ?_
  by_cases hactive : t.isActive = true
  · rw [if_pos hactive]
    exact Op.ends_pure (Writes.refl s)
  · rw [if_neg hactive]
    refine Op.Ends.reading (keeps_requireName _ _ _) (fun _ _ => Writes.refl s) fun _ _ => ?_
    refine Op.Ends.changing (fun _ _ => Writes.refl s) fun n db hdb => ?_
    obtain ⟨tracks, hmodify, rfl⟩ := Database.modifyTrack_ok hdb
    have hwrites : Writes s { s with database := { s.database with tracks } } := by
      refine Table.Written.changed ?_ (fun r _ hr => kept_of_flag hnow hr true) hmodify
      exact fun _ => rfl
    refine hwrites.ends ?_
    exact Op.keeps_bind (AuditLog.keeps_note besideAudit_tracks _ _) fun _ => keeps_get id

/-- The write of any call of the service for tracks. -/
theorem Call.writes (c : Call) : Writes s ((c.op now).2.run s).2 := by
  cases c with
  | create input actor => exact (create_writes hnow actor s input).store
  | update id change actor => exact (update_writes hnow actor s id change).store
  | delete id actor => exact (delete_writes hnow actor s id).store
  | reactivate id actor => exact (reactivate_writes hnow actor s id).store
  | importOne doc actor => exact (importOne_writes hnow actor s doc).store
  | _ => exact writes_of_keeps s (Call.keeps_of_reading besideAudit_tracks rfl)

end Operations

end RobotMaze.Tracks
