import RobotMaze.Proofs.Service.Traffic
import RobotMaze.Proofs.Track.Stored

/-! # Active tracks under overlapping calls

    Deleting a track asks at the moment of the change whether another one is
    active.  An update asks only if the track was active when the update read it,
    so it can take the last active track away if that track was activated in
    between (`shared_countActiveTracks_race`).  Nothing else can:

    * `Event.TurnsOff`, `Event.TurnsOn` — updates to inactive, and activations;
    * `activeStays` — a track is active, and what nobody turns on stays off;
    * `update_upholds`, `delete_upholds`, … — what each operation keeps to;
    * `shared_countActiveTracks_pos` — any calls, in any order of their steps, of
      which none turns a track on that another one turns off. -/

namespace RobotMaze

open Database (trackIsActive)
open Time (Instant)

/-- There is a track of this id, and it is inactive. -/
def Database.HasIdleTrack (id : Int) (db : Database) : Prop :=
  ∃ r, db.tracks.find? id = some r ∧ r.isActive = 0

/-- No two tracks share an id, an active one is there, and tracks of some ids, once inactive, stay
    so. -/
def activeStays (off : Int → Prop) : Pact Store where
  holds s := s.database.tracks.Numbered ∧ ∃ r ∈ s.database.tracks.rows, trackIsActive r = true
  allows s t := ∀ id, off id → s.database.HasIdleTrack id → t.database.HasIdleTrack id
  refl _ _ _ hidle := hidle
  trans hst htu id hoff hidle := htu id hoff (hst id hoff hidle)

/-- A call updates a track to inactive. -/
def Event.TurnsOff (id : Int) (e : Event) : Prop :=
  match e.call with
  | .tracks (.update track c _) => track = id ∧ c.isActive = some false
  | _ => False

/-- A call activates a track. -/
def Event.TurnsOn (id : Int) (e : Event) : Prop :=
  match e.call with
  | .tracks (.update track c _) => track = id ∧ c.isActive = some true
  | .tracks (.reactivate track _) => track = id
  | _ => False

variable {off : Int → Prop}

theorem activeStays_sees : (activeStays off).Sees fun s => s.database.tracks := by
  intro s t hview hholds
  have htracks : t.database.tracks = s.database.tracks := hview
  refine ⟨?_, fun id _ hidle => ?_⟩
  · show t.database.tracks.Numbered ∧ ∃ r ∈ t.database.tracks.rows, trackIsActive r = true
    rw [htracks]
    exact hholds
  · rw [Database.HasIdleTrack, htracks]
    exact hidle

/-- There are active tracks if one of them is. -/
theorem Database.countActiveTracks_pos {db : Database} :
    0 < db.countActiveTracks ↔ ∃ r ∈ db.tracks.rows, trackIsActive r = true := by
  rw [countActiveTracks, activeTracks, ← List.countP_eq_length_filter, List.countP_pos_iff]

namespace Tracks

/-! ## Changes -/

/-- A new track takes no other one away. -/
theorem insertTrack_upholds (t : CheckedTrack) (createdBy : Option String) (now : Instant) :
    (Op.change (Database.insertTrack t createdBy now)).Upholds (activeStays off) := by
  refine fun s => Op.honours_change fun u _ hholds row db hchange => ?_
  obtain ⟨hnumbered, r, hr, hactive⟩ := hholds
  obtain ⟨tracks, hinsert, rfl⟩ := Database.insertTrack_ok hchange
  have htracks := hnumbered.insert (fun _ => rfl) hinsert
  obtain ⟨id, -, -, -, rfl⟩ := Table.insert_ok hinsert
  refine ⟨⟨htracks, r, List.mem_append_left _ hr, hactive⟩, ?_⟩
  rintro idle - ⟨v, hfind, hidle⟩
  exact ⟨v, Table.find?_append hfind _, hidle⟩

/-- A change of a track leaves an active one, if under its condition an active track either stays
    one or is not the only one; and it must leave off what is to stay off. -/
theorem modifyTrack_honours {id : Int} {condition : Database → TrackRow → Bool}
    {f : TrackRow → TrackRow} {s : Store} (hid : ∀ r, Row.id (f r) = Row.id r)
    (hleaves : ∀ t, (activeStays off).allows s t → ∀ r, t.database.tracks.find? id = some r →
      condition t.database r = true → trackIsActive r = true →
      trackIsActive (f r) = true ∨ (t.database.tracks.others r.id).any trackIsActive = true)
    (hidle : off id → ∀ r, r.isActive = 0 → (f r).isActive = 0) :
    (Op.change (Database.modifyTrack id condition f)).Honours (activeStays off) s
      fun _ _ => True := by
  refine Op.honours_change fun t hallows hholds n db hchange => ?_
  obtain ⟨hnumbered, hactive⟩ := hholds
  obtain ⟨tracks, hmodify, rfl⟩ := Database.modifyTrack_ok hchange
  have htracks := hnumbered.modify hid hmodify
  rcases Table.modify_ok hmodify with ⟨-, rfl⟩ | ⟨u, hfind, hcondition, -, -, rfl⟩
  · exact ⟨⟨htracks, hactive⟩, (activeStays off).refl t⟩
  refine ⟨⟨htracks, ?_⟩, ?_⟩
  · refine hnumbered.exists_changed hfind hactive fun huactive => ?_
    have huid : u.id = id := (Table.find?_eq_some hfind).2
    have hother := hleaves t hallows u hfind hcondition huactive
    rw [List.any_eq_true, huid] at hother
    exact hother
  · exact fun idle hoff => Table.exists_find?_changed hid fun hsame => hidle (hsame ▸ hoff)

/-- Where an active track may go, another one is there. -/
theorem any_trackIsActive_of_leavesActiveTrack {db : Database} {r : TrackRow}
    (hleaves : db.leavesActiveTrack r = true) (hactive : trackIsActive r = true) :
    (db.tracks.others r.id).any trackIsActive = true := by
  rw [Database.trackIsActive, beq_iff_eq] at hactive
  simpa [Database.leavesActiveTrack, hactive] using hleaves

/-! ## Operations -/

theorem note_upholds (now : Instant) (e : AuditEvent) :
    (AuditLog.note e now).Upholds (activeStays off) :=
  (AuditLog.keeps_note besideAudit_tracks e now).upholds activeStays_sees

/-- A new track is active, and takes none from the active ones. -/
theorem store_upholds (t : CheckedTrack) (actor : Actor) (now : Instant) :
    (store t actor now).Upholds (activeStays off) :=
  Op.upholds_bind (insertTrack_upholds t actor.username now) fun _ =>
    Op.Reads.upholds (Op.keeps_ofRead _)

/-- What an operation reads of a track is what the store says at that moment. -/
theorem get_honours {p : Pact Store} (id : Int) (s : Store) :
    (get id).Honours p s fun current t =>
      ∃ row, t.database.tracks.find? id = some row ∧ row.read = .ok current := by
  simp only [get]
  refine (Op.honours_query _ s).bind ?_
  rintro found t ⟨-, -, hfound⟩
  cases found with
  | none => exact Op.honours_throw _
  | some row =>
      refine (Op.honours_ofRead _ t).imp ?_
      rintro current u ⟨hread, rfl⟩
      exact ⟨row, hfound.symm, hread⟩

section Flag

variable {c : TrackChange} {name : Option String} {grid : Option Grid} {now : Instant} {r : TrackRow}

theorem isActive_changeRow :
    (changeRow c name grid now r).isActive = (c.isActive.map flag).getD r.isActive := by
  simp only [changeRow]
  cases c.isActive <;> rfl

/-- Only an update to inactive makes a track less than active. -/
theorem trackIsActive_changeRow (hkeeps : c.isActive ≠ some false)
    (hactive : trackIsActive r = true) : trackIsActive (changeRow c name grid now r) = true := by
  simp only [trackIsActive, isActive_changeRow]
  cases hflag : c.isActive with
  | none => exact hactive
  | some active =>
      cases active with
      | true => rfl
      | false => exact absurd hflag hkeeps

/-- Only an update to active turns a track on. -/
theorem isActive_changeRow_of_idle (hkeeps : c.isActive ≠ some true) (hidle : r.isActive = 0) :
    (changeRow c name grid now r).isActive = 0 := by
  rw [isActive_changeRow]
  cases hflag : c.isActive with
  | none => exact hidle
  | some active =>
      cases active with
      | true => exact absurd hflag hkeeps
      | false => rfl

end Flag

/-- What has been read as inactive, and stays off, is not active at any later moment. -/
theorem not_active_of_read {id : Int} {current : Track} {row r : TrackRow} {s t : Store}
    (hoff : off id) (hallows : (activeStays off).allows s t)
    (hrow : s.database.tracks.find? id = some row) (hread : row.read = .ok current)
    (hseen : current.isActive = false) (hr : t.database.tracks.find? id = some r) :
    trackIsActive r = false := by
  have hidle : row.isActive = 0 := by
    rw [TrackRow.eq_of_read hread] at hseen
    simpa using hseen
  obtain ⟨u, hu, huidle⟩ := hallows id hoff ⟨row, hrow, hidle⟩
  rw [hr] at hu
  injection hu with hu
  rw [trackIsActive, hu, huidle]
  rfl

/-- An update to inactive asks for another active track if it has seen the track active; if it has
    not, the track must have stayed inactive. -/
theorem update_upholds (id : Int) (c : TrackChange) (actor : Actor) (now : Instant)
    (hoff : c.isActive = some false → off id) (hon : c.isActive = some true → ¬ off id) :
    (update id c actor now).Upholds (activeStays off) := by
  have hnote : ∀ e, (AuditLog.note e now).Upholds (activeStays off) := note_upholds now
  intro s
  simp only [update]
  refine (get_honours id s).bind ?_
  rintro current t ⟨row, hrow, hread⟩
  refine (Op.Reads.honours (keeps_checkChange id c current) t).bind ?_
  rintro ⟨name, grid⟩ u htu
  by_cases hnothing : c = {}
  · simp only [if_pos hnothing]
    exact Op.honours_pure trivial
  simp only [if_neg hnothing]
  have hid : ∀ r, Row.id (changeRow c name grid now r) = Row.id r := fun _ => rfl
  refine (modifyTrack_honours hid ?_ ?_).bind fun n v _ => ?_
  · intro v huv r hr hcondition hactive
    by_cases hflag : c.isActive = some false
    · cases hseen : current.isActive with
      | true =>
          have hleaves : v.database.leavesActiveTrack r = true := by
            simpa [hflag, hseen] using hcondition
          exact Or.inr (any_trackIsActive_of_leavesActiveTrack hleaves hactive)
      | false =>
          have htv := (activeStays off).trans htu huv
          have hinactive := not_active_of_read (hoff hflag) htv hrow hread hseen hr
          rw [hinactive] at hactive
          cases hactive
    · exact Or.inl (trackIsActive_changeRow hflag hactive)
  · exact fun hidoff r => isActive_changeRow_of_idle fun hflag => hon hflag hidoff
  · -- what follows the change is the record of it
    refine (?_ : Op.Upholds (activeStays off) _) v
    grind

/-- A deletion asks for another active track, whatever it has seen. -/
theorem delete_upholds (id : Int) (actor : Actor) (now : Instant) :
    (delete id actor now).Upholds (activeStays off) := by
  have hnote : ∀ e, (AuditLog.note e now).Upholds (activeStays off) := note_upholds now
  have hchange : (Op.change (Database.modifyTrack id
      (fun db row => trackIsActive row && db.leavesActiveTrack row)
      fun r => { r with isActive := 0, updatedAt := now.stamp })).Upholds (activeStays off) := by
    refine fun s => modifyTrack_honours (fun _ => rfl) ?_ fun _ _ _ => rfl
    intro t _ r _ hcondition hactive
    exact Or.inr (any_trackIsActive_of_leavesActiveTrack (Bool.and_eq_true_iff.mp hcondition).2
      hactive)
  simp only [delete]
  grind

/-- A track that is reactivated is one more that is active. -/
theorem reactivate_upholds (id : Int) (actor : Actor) (now : Instant) (hon : ¬ off id) :
    (reactivate id actor now).Upholds (activeStays off) := by
  have hnote : ∀ e, (AuditLog.note e now).Upholds (activeStays off) := note_upholds now
  have hchange : (Op.change (Database.modifyTrack id (fun _ _ => true)
      fun r => { r with isActive := 1, updatedAt := now.stamp })).Upholds (activeStays off) := by
    refine fun s => modifyTrack_honours (fun _ => rfl) ?_ fun hidoff => absurd hidoff hon
    exact fun _ _ _ _ _ _ => Or.inl rfl
  simp only [reactivate]
  grind

/-- Creating a track deactivates none. -/
theorem create_upholds (input : NewTrack) (actor : Actor) (now : Instant) :
    (create input actor now).Upholds (activeStays off) := by
  have hnote : ∀ e, (AuditLog.note e now).Upholds (activeStays off) := note_upholds now
  have hstore : ∀ t, (store t actor now).Upholds (activeStays off) := fun t =>
    store_upholds t actor now
  simp only [create]
  grind

/-- Importing a track deactivates none. -/
theorem importOne_upholds (doc : TrackDocument) (actor : Actor) (now : Instant) :
    (importOne doc actor now).Upholds (activeStays off) := by
  have hnote : ∀ e, (AuditLog.note e now).Upholds (activeStays off) := note_upholds now
  have hstore : ∀ t, (store t actor now).Upholds (activeStays off) := fun t =>
    store_upholds t actor now
  simp only [importOne]
  grind

/-- Any call on tracks leaves an active one, if it turns off only what stays off, and turns on
    nothing of it. -/
theorem Call.upholds {c : Call} {now : Instant}
    (hoff : ∀ id, Event.TurnsOff id ⟨now, .tracks c⟩ → off id)
    (hon : ∀ id, Event.TurnsOn id ⟨now, .tracks c⟩ → ¬ off id) :
    (c.op now).2.Upholds (activeStays off) := by
  cases c with
  | create input actor => exact create_upholds input actor now
  | update id c actor =>
      exact update_upholds id c actor now (fun h => hoff id ⟨rfl, h⟩) fun h => hon id ⟨rfl, h⟩
  | delete id actor => exact delete_upholds id actor now
  | reactivate id actor => exact reactivate_upholds id actor now (hon id rfl)
  | importOne doc actor => exact importOne_upholds doc actor now
  | _ => exact (Call.keeps_of_reading besideAudit_tracks rfl).upholds activeStays_sees

/-- Any call does; those of the other services have nothing to do with tracks. -/
theorem upholds_activeStays {e : Event} (hoff : ∀ id, e.TurnsOff id → off id)
    (hon : ∀ id, e.TurnsOn id → ¬ off id) : (e.call.op e.now).2.Upholds (activeStays off) := by
  obtain ⟨now, c⟩ := e
  cases c with
  | tracks c => exact c.upholds hoff hon
  | _ => exact (Call.keeps_tracks fun _ h => by cases h).upholds activeStays_sees

/-! ## Schedules -/

/-- As long as no call activates a track that another one updates to inactive, a track stays active
    at every moment, whatever calls are under way and in whatever order they take their steps. -/
theorem shared_countActiveTracks_pos {s : Store} (hnumbered : s.database.tracks.Numbered)
    (hactive : 0 < s.database.countActiveTracks) (schedule : List Turn)
    (happart : ∀ e f id, .arrive e ∈ schedule → .arrive f ∈ schedule →
      e.TurnsOff id → ¬ f.TurnsOn id) :
    0 < (s.shared schedule).database.countActiveTracks := by
  -- what stays off is what nobody turns on
  let off : Int → Prop := fun id => ∀ f, .arrive f ∈ schedule → ¬ f.TurnsOn id
  have hholds : (activeStays off).holds s :=
    ⟨hnumbered, Database.countActiveTracks_pos.mp hactive⟩
  have hcalls : ∀ e, .arrive e ∈ schedule → (e.call.op e.now).2.Upholds (activeStays off) := by
    intro e he
    exact upholds_activeStays (fun id hturns f hf => happart e f id he hf hturns)
      fun id hturns hoff => hoff e he hturns
  obtain ⟨⟨-, hstays⟩, -⟩ := Store.shared_upholds hholds hcalls
  exact Database.countActiveTracks_pos.mpr hstays

/-- Two tracks are created. -/
def twoTracks : List Event :=
  [⟨⟨1772366400, 0⟩, .tracks (.create ⟨"North", Grid.corridor.render, 0, 0, .east, none, none⟩ {})⟩,
    ⟨⟨1772366400, 0⟩, .tracks (.create ⟨"South", Grid.corridor.render, 0, 0, .east, none, none⟩ {})⟩]

/-- One track is updated to inactive while the other one is deleted, and each call sees both of them
    active. -/
def removals : List Turn :=
  [.arrive ⟨⟨1772366460, 0⟩, .tracks (.update 1 { isActive := some false } {})⟩,
    .arrive ⟨⟨1772366460, 0⟩, .tracks (.delete 2 {})⟩,
    .step 0, .step 1, .step 1, .step 0, .step 1, .step 0]

/-- One of the two tracks is left. -/
theorem shared_countActiveTracks_removals :
    let s := (Store.empty .disabled).after twoTracks
    s.database.tracks.Numbered ∧ 0 < s.database.countActiveTracks
      ∧ (∀ e f id, .arrive e ∈ removals → .arrive f ∈ removals → e.TurnsOff id → ¬ f.TurnsOn id)
      ∧ 0 < (s.shared removals).database.countActiveTracks
      ∧ (s.shared removals).database.countActiveTracks = 1 := by
  have hnumbered : ((Store.empty .disabled).after twoTracks).database.tracks.Numbered :=
    ((stored_empty .disabled).after (by decide)).numbered
  have hactive : 0 < ((Store.empty .disabled).after twoTracks).database.countActiveTracks := by
    decide +kernel
  have happart : ∀ e f id, .arrive e ∈ removals → .arrive f ∈ removals →
      e.TurnsOff id → ¬ f.TurnsOn id := by
    intro e f id _ hf _ hon
    simp only [removals, List.mem_cons, Turn.arrive.injEq, reduceCtorEq, or_false,
      List.not_mem_nil] at hf
    rcases hf with rfl | rfl
    · cases hon.2
    · exact hon
  exact ⟨hnumbered, hactive, happart,
    shared_countActiveTracks_pos hnumbered hactive removals happart, by decide +kernel⟩

/-- The first track is deleted, and the second one is the only active one. -/
def oneLeft : List Event := twoTracks ++ [⟨⟨1772366460, 0⟩, .tracks (.delete 1 {})⟩]

/-- An update to inactive has read the inactive track.  Before it goes on, the track is reactivated
    and the other one deleted. -/
def race : List Turn :=
  [.arrive ⟨⟨1772366520, 0⟩, .tracks (.update 1 { isActive := some false } {})⟩, .step 0,
    .arrive ⟨⟨1772366520, 0⟩, .tracks (.reactivate 1 {})⟩,
    .step 1, .step 1, .step 1, .step 1, .step 1, .step 1,
    .arrive ⟨⟨1772366520, 0⟩, .tracks (.delete 2 {})⟩,
    .step 2, .step 2, .step 2, .step 2,
    .step 0]

/-- The update then takes the last active track away. -/
theorem shared_countActiveTracks_race :
    let s := (Store.empty .disabled).after oneLeft
    0 < s.database.countActiveTracks ∧ (s.shared race).database.countActiveTracks = 0 := by
  decide +kernel

end Tracks

end RobotMaze
