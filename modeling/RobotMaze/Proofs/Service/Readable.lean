import RobotMaze.Proofs.Service.Traffic
import RobotMaze.Proofs.Track.Writes
import RobotMaze.Proofs.User.Rules

/-! # Rows that can be read

    Reading a row fails for a number that is too great and for a text that is no
    time.  No call writes either, not even into a row that has changed since the
    call has read it:

    * `Table.Readable` — all rows of a table can be read;
    * `TrackChange.Fits`, `Tracks.checkChange_honours` — the numbers of a change
      that was checked are small, whatever the row is by then;
    * `Users.readable`, `Tracks.readable` — that is a pact, and each change of
      accounts and of tracks keeps it;
    * `Users.readable_shared`, `Tracks.readable_shared` — so rows can be read
      after every schedule. -/

namespace RobotMaze

open Time (Instant)

/-- All rows of a table can be read. -/
def Table.Readable {ρ α : Type} (read : ρ → Read α) (t : Table ρ) : Prop :=
  ∀ r ∈ t.rows, ∃ a, read r = .ok a

variable {now : Instant}

/-! ## Accounts -/

namespace Users

/-- What all calls do to accounts: they can be read. -/
def readable : Pact Store := .always fun s => s.database.users.Readable UserRow.read

/-- Whether users can be read is a matter of their table. -/
theorem readable_sees : readable.Sees fun s => s.database.users :=
  Pact.always_sees (Q := Table.Readable UserRow.read)

/-- A user who can be read is inserted. -/
theorem insertUser_upholds_readable {make : Int → UserRow}
    (hmake : ∀ id, ∃ u, (make id).read = .ok u) :
    (Op.change (Database.insertUser make)).Upholds readable := by
  refine fun s => Op.honours_change fun t _ hholds row db hchange => ⟨?_, trivial⟩
  obtain ⟨users, hinsert, rfl⟩ := Database.insertUser_ok hchange
  exact Table.forall_rows_insert hinsert hholds hmake

/-- A user who can be read is changed to one who can be. -/
theorem modifyUser_upholds_readable {id : Int} {condition : Database → UserRow → Bool}
    {f : UserRow → UserRow} (hf : ∀ r, (∃ u, r.read = .ok u) → ∃ u, (f r).read = .ok u) :
    (Op.change (Database.modifyUser id condition f)).Upholds readable := by
  refine fun s => Op.honours_change fun t _ hholds n db hchange => ⟨?_, trivial⟩
  obtain ⟨users, hmodify, rfl⟩ := Database.modifyUser_ok hchange
  exact Table.forall_rows_modify hmodify hholds hf

/-- An account that can be read can be read with other values, as long as its times stay. -/
theorem exists_read_of_times {r q : UserRow} (hcreated : q.createdAt = r.createdAt)
    (hlogin : q.lastLogin = r.lastLogin) (hr : ∃ u, r.read = .ok u) : ∃ u, q.read = .ok u := by
  rw [UserRow.exists_read_iff, hcreated, hlogin]
  exact UserRow.exists_read_iff.mp hr

/-- No change that a call for users makes leaves one unreadable. -/
theorem Call.changesUphold_readable (hnow : now.HasFourDigitYear) (c : Call) :
    c.ChangesUphold readable now := by
  have hbeside : BesideLogins fun s => s.database.users := fun _ _ => rfl
  have hend := fun id => (keeps_endLogins hbeside id).upholds readable_sees
  cases c with
  | create | ensureFirstAdmin =>
      intro checked fullName hash createdBy
      exact insertUser_upholds_readable fun id =>
        UserRow.exists_read_iff.mpr ⟨⟨_, readTime_stamp hnow⟩, none, rfl⟩
  | update id c =>
      refine ⟨fun _ _ _ _ => ?_, fun _ => hend id⟩
      exact modifyUser_upholds_readable fun _ => exists_read_of_times rfl rfl
  | delete id =>
      exact ⟨modifyUser_upholds_readable fun _ => exists_read_of_times rfl rfl, hend id⟩
  | reactivate => exact modifyUser_upholds_readable fun _ => exists_read_of_times rfl rfl
  | changePassword =>
      exact fun _ => modifyUser_upholds_readable fun _ => exists_read_of_times rfl rfl
  | authenticate =>
      -- only letting somebody in writes a time, and it is that of the clock
      refine fun _ => modifyUser_upholds_readable fun r hr => ?_
      obtain ⟨hcreated, -⟩ := UserRow.exists_read_iff.mp hr
      exact UserRow.exists_read_iff.mpr ⟨hcreated, _, readTimeOpt_some (readTime_stamp hnow)⟩
  | endLogins id => exact hend id
  | _ => trivial

/-- No call leaves a user unreadable. -/
theorem upholds_readable {e : Event} (hnow : e.now.HasFourDigitYear) :
    (e.call.op e.now).2.Upholds readable :=
  e.upholds_of_sees readable_sees fun c => c.changesUphold_readable hnow

/-- Accounts can be read at every moment. -/
theorem readable_shared (trail : Trail) {run : List Event} {schedule : List Turn}
    (hrun : ∀ e ∈ run, e.now.HasFourDigitYear)
    (hschedule : ∀ e, .arrive e ∈ schedule → e.now.HasFourDigitYear) :
    (((Store.empty trail).after run).shared schedule).database.users.Readable UserRow.read := by
  have hempty : readable.holds (Store.empty trail) := fun _ h => nomatch h
  exact Store.holds_shared hempty (fun e he => upholds_readable (hrun e he)) fun e he =>
    upholds_readable (hschedule e he)

end Users

/-! ## Tracks -/

/-- The numbers that a change names are small. -/
structure TrackChange.Fits (c : TrackChange) : Prop where
  startX : ∀ x ∈ c.startX, IsInt32 x
  startY : ∀ y ∈ c.startY, IsInt32 y
  difficulty : ∀ level ∈ c.difficulty, IsInt32 level

namespace Tracks

/-- What all calls do to tracks: they can be read. -/
def readable : Pact Store := .always fun s => s.database.tracks.Readable TrackRow.read

/-- Whether tracks can be read is a matter of their table. -/
theorem readable_sees : readable.Sees fun s => s.database.tracks :=
  Pact.always_sees (Q := Table.Readable TrackRow.read)

/-! ### Checks -/

/-- The start cell that a change names lies on a grid, be it the grid that is read or another one
    that is there in the end. -/
theorem fits_of_checks {c : TrackChange} {grid : Option Grid} {current : Track}
    {level : Option Int} (hlayout : checkLayout c grid current = .ok ())
    (hlevel : c.difficulty.mapM Track.checkDifficulty = .ok level) : c.Fits where
  startX := by
    intro x hx
    have htouches : c.touchesLayout = true := by
      rw [TrackChange.touchesLayout, Option.mem_def.mp hx]
      simp
    obtain ⟨g, -, hpath⟩ := checkLayout_ok hlayout htouches
    rw [Option.mem_def.mp hx] at hpath
    exact (Grid.isInt32_of_isPath hpath).1
  startY := by
    intro y hy
    have htouches : c.touchesLayout = true := by
      rw [TrackChange.touchesLayout, Option.mem_def.mp hy]
      simp
    obtain ⟨g, -, hpath⟩ := checkLayout_ok hlayout htouches
    rw [Option.mem_def.mp hy] at hpath
    exact (Grid.isInt32_of_isPath hpath).2
  difficulty := by
    intro n hn
    obtain ⟨hlow, hhigh⟩ := Track.bounds_of_mapM_checkDifficulty hlevel n hn
    exact ⟨by omega, by omega⟩

/-- A change of a track that passes its check fits. -/
theorem checkChange_honours {p : Pact Store} (id : Int) (c : TrackChange) (current : Track)
    (s : Store) : (checkChange id c current).Honours p s fun _ _ => c.Fits := by
  -- whether or not the name has to be free, the same checks follow
  have hrest : ∀ name t, (do
      let grid ← Op.ofCheck (c.gridConfig.mapM Grid.parse)
      Op.ofCheck (checkLayout c grid current)
      let _ ← Op.ofCheck (c.difficulty.mapM Track.checkDifficulty)
      return (name, grid) : Op (Option String × Option Grid)).Honours p t fun _ _ => c.Fits := by
    intro name t
    refine (Op.honours_ofCheck _ t).bind ?_
    rintro grid t ⟨-, rfl⟩
    refine (Op.honours_ofCheck _ _).bind ?_
    rintro ⟨⟩ t ⟨hlayout, rfl⟩
    refine (Op.honours_ofCheck _ _).bind ?_
    rintro level t ⟨hlevel, rfl⟩
    exact Op.honours_pure (fits_of_checks hlayout hlevel)
  simp only [checkChange]
  refine (Op.honours_ofCheck _ s).bind ?_
  rintro name t ⟨-, rfl⟩
  by_cases hneeds : needsName c name current = true
  · rw [if_pos hneeds]
    exact (Op.Reads.honours (keeps_requireName _ _ _) _).bind fun _ u _ => hrest name u
  · rw [if_neg hneeds]
    exact hrest name _

/-! ### Changes -/

/-- A track that passes its check can be read. -/
theorem insertTrack_upholds_readable (hnow : now.HasFourDigitYear) {input : NewTrack}
    {t : CheckedTrack} (hcheck : input.check = .ok t) (createdBy : Option String) :
    (Op.change (Database.insertTrack t createdBy now)).Upholds readable := by
  refine fun s => Op.honours_change fun u _ hholds row db hchange => ⟨?_, trivial⟩
  obtain ⟨tracks, hinsert, rfl⟩ := Database.insertTrack_ok hchange
  refine Table.forall_rows_insert hinsert hholds fun id => ?_
  exact TrackRow.exists_read (newTrackRow_sound hcheck createdBy now id)
    (newTrackRow_readable hnow t createdBy id)

/-- A track that can be read is changed to one that can be. -/
theorem modifyTrack_upholds_readable {id : Int} {condition : Database → TrackRow → Bool}
    {f : TrackRow → TrackRow} (hf : ∀ r, (∃ t, r.read = .ok t) → ∃ t, (f r).read = .ok t) :
    (Op.change (Database.modifyTrack id condition f)).Upholds readable := by
  refine fun s => Op.honours_change fun u _ hholds n db hchange => ⟨?_, trivial⟩
  obtain ⟨tracks, hmodify, rfl⟩ := Database.modifyTrack_ok hchange
  exact Table.forall_rows_modify hmodify hholds hf

/-- A track that can be read can be read after a change, if the numbers of the change are small. -/
theorem exists_read_changeRow {c : TrackChange} (hc : c.Fits) (hnow : now.HasFourDigitYear)
    {name : Option String} {grid : Option Grid} {r : TrackRow} (hr : ∃ t, r.read = .ok t) :
    ∃ t, (changeRow c name grid now r).read = .ok t := by
  obtain ⟨⟨hx, hy, hlevel⟩, hcreatedAt, -⟩ := TrackRow.exists_read_iff.mp hr
  -- a number is the one that the change names, or it stays
  have hgetD : ∀ {given : Option Int} {old : Int}, (∀ n ∈ given, IsInt32 n) → IsInt32 old →
      IsInt32 (given.getD old) := by
    intro given old hgiven hold
    cases given with
    | none => exact hold
    | some n => exact hgiven n rfl
  exact TrackRow.exists_read_iff.mpr ⟨⟨hgetD hc.startX hx, hgetD hc.startY hy,
    hgetD hc.difficulty hlevel⟩, hcreatedAt, _, readTime_stamp hnow⟩

/-- Setting a track active or inactive leaves it readable. -/
theorem setActive_upholds_readable (hnow : now.HasFourDigitYear) (id active : Int)
    (condition : Database → TrackRow → Bool) : (Op.change (Database.modifyTrack id condition
      fun r => { r with isActive := active, updatedAt := now.stamp })).Upholds readable := by
  refine modifyTrack_upholds_readable fun r hr => ?_
  obtain ⟨hnumbers, hcreatedAt, -⟩ := TrackRow.exists_read_iff.mp hr
  exact TrackRow.exists_read_iff.mpr ⟨hnumbers, hcreatedAt, _, readTime_stamp hnow⟩

/-! ### Calls -/

/-- Storing a track that passes its check leaves all readable. -/
theorem store_upholds_readable (hnow : now.HasFourDigitYear) {input : NewTrack}
    {t : CheckedTrack} (hcheck : input.check = .ok t) (actor : Actor) :
    (store t actor now).Upholds readable :=
  Op.upholds_bind (insertTrack_upholds_readable hnow hcheck actor.username) fun _ =>
    Op.Reads.upholds (Op.keeps_ofRead _)

theorem note_upholds_readable (e : AuditEvent) (now : Instant) :
    (AuditLog.note e now).Upholds readable :=
  (AuditLog.keeps_note besideAudit_tracks e now).upholds readable_sees

/-- Creating a track leaves all readable. -/
theorem create_upholds_readable (hnow : now.HasFourDigitYear) (input : NewTrack) (actor : Actor) :
    (create input actor now).Upholds readable := by
  have hnote := fun e => note_upholds_readable e now
  intro s
  simp only [create]
  refine (Op.honours_ofCheck _ s).bind ?_
  rintro t u ⟨hcheck, -⟩
  have hstore := store_upholds_readable hnow hcheck actor
  refine (?_ : Op.Upholds readable _) u
  grind

/-- Importing a track leaves all readable. -/
theorem importOne_upholds_readable (hnow : now.HasFourDigitYear) (doc : TrackDocument)
    (actor : Actor) : (importOne doc actor now).Upholds readable := by
  have hnote := fun e => note_upholds_readable e now
  simp only [importOne]
  refine Op.upholds_bind (Op.Reads.upholds (Op.keeps_ofCheck _)) fun _ => ?_
  refine Op.upholds_bind (Op.Reads.upholds (Op.keeps_ofCheck _)) fun base => ?_
  refine Op.upholds_bind (Op.Reads.upholds keeps_active) fun tracks s => ?_
  refine (Op.honours_ofCheck _ s).bind ?_
  rintro t u ⟨hcheck, -⟩
  have hstore := store_upholds_readable hnow hcheck actor
  refine (?_ : Op.Upholds readable _) u
  grind

/-- Updating a track leaves all readable. -/
theorem update_upholds_readable (hnow : now.HasFourDigitYear) (id : Int) (c : TrackChange)
    (actor : Actor) : (update id c actor now).Upholds readable := by
  have hnote := fun e => note_upholds_readable e now
  simp only [update]
  refine Op.upholds_bind (Op.Reads.upholds (keeps_get id)) fun current s => ?_
  refine (checkChange_honours id c current s).bind ?_
  rintro ⟨name, grid⟩ u hfits
  have hmodify : ∀ condition, (Op.change (Database.modifyTrack id condition
      (changeRow c name grid now))).Upholds readable := fun _ =>
    modifyTrack_upholds_readable fun _ => exists_read_changeRow hfits hnow
  refine (?_ : Op.Upholds readable _) u
  grind

/-- No call for tracks leaves one unreadable. -/
theorem Call.upholds_readable (hnow : now.HasFourDigitYear) (c : Call) :
    (c.op now).2.Upholds readable := by
  have hnote := fun e => note_upholds_readable e now
  cases c with
  | create input actor => exact create_upholds_readable hnow input actor
  | importOne doc actor => exact importOne_upholds_readable hnow doc actor
  | update id c actor => exact update_upholds_readable hnow id c actor
  | delete id actor =>
      have hmodify := setActive_upholds_readable hnow id 0
      show (Tracks.delete id actor now).Upholds _
      simp only [Tracks.delete]
      grind
  | reactivate id actor =>
      have hmodify := setActive_upholds_readable hnow id 1
      show (Tracks.reactivate id actor now).Upholds _
      simp only [Tracks.reactivate]
      grind
  | _ => exact (Call.keeps_of_reading besideAudit_tracks rfl).upholds readable_sees

/-- No call leaves a track unreadable. -/
theorem upholds_readable {e : Event} (hnow : e.now.HasFourDigitYear) :
    (e.call.op e.now).2.Upholds readable := by
  obtain ⟨now, c⟩ := e
  cases c with
  | tracks c => exact c.upholds_readable hnow
  | _ => exact (Call.keeps_tracks fun _ h => by cases h).upholds readable_sees

/-- Tracks can be read at every moment. -/
theorem readable_shared (trail : Trail) {run : List Event} {schedule : List Turn}
    (hrun : ∀ e ∈ run, e.now.HasFourDigitYear)
    (hschedule : ∀ e, .arrive e ∈ schedule → e.now.HasFourDigitYear) :
    (((Store.empty trail).after run).shared schedule).database.tracks.Readable TrackRow.read := by
  have hempty : readable.holds (Store.empty trail) := fun _ h => nomatch h
  exact Store.holds_shared hempty (fun e he => upholds_readable (hrun e he)) fun e he =>
    upholds_readable (hschedule e he)

end Tracks

end RobotMaze
