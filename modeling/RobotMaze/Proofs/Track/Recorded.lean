import RobotMaze.Proofs.Service.Recorded
import RobotMaze.Proofs.Track.Stored

/-! # Changes of tracks are recorded

    A stored track can be read, before a change and after it.  So no operation on
    tracks gets stuck between its change and the record of it:

    * `Store.PutTrack` — a track was put into a store;
    * `store_adds`, `store_recorded` — a new track, created or imported;
    * `modify_put` — a change of a track under a condition;
    * `create_recorded`, `update_recorded`, … — how each operation ends. -/

namespace RobotMaze

open Time (Instant)

/-- A track was put into a store, in place of an older one or not. -/
def Store.PutTrack (s : Store) (id : Int) (u : Store) : Prop :=
  ∃ old new tracks, s.database.tracks.Put old new tracks ∧ new.id = id
    ∧ u = { s with database := { s.database with tracks } }

namespace Tracks

theorem event_tells (actor : Actor) (action : String) (kind : AuditAction) (t : Track) :
    (event actor action kind t).Tells actor resource t.id :=
  ⟨rfl, rfl, rfl, rfl, rfl, rfl⟩

/-- A track that is found and can be read is what the store answers. -/
theorem get_of_find {s : Store} {id : Int} {row : TrackRow} {t : Track}
    (hfind : s.database.tracks.find? id = some row) (hread : row.read = .ok t) :
    (get id).answer s = .ok t := by
  simp only [get]
  rw [Op.Reads.answer_bind (Op.keeps_query _), Op.answer_query]
  simp only [Database.trackById]
  rw [hfind]
  show (Op.ofRead row.read).answer s = _
  rw [Op.answer_ofRead, hread]

/-- What is read under an id has that id. -/
theorem id_of_get {s : Store} {id : Int} {t : Track} (h : (get id).answer s = .ok t) :
    t.id = id := by
  obtain ⟨row, hfind, hread⟩ := get_ok h
  exact (congrArg Track.id (TrackRow.eq_of_read hread)).trans (Table.find?_eq_some hfind).2

/-! ## Handing tracks out -/

theorem exportOne_noting (id : Int) (actor : Actor) (now : Instant) (s : Store) :
    (exportOne id actor now).Ends s (Noting now s) := by
  simp only [exportOne]
  refine Op.Ends.reading (keeps_get id) (fun f _ => .failed f) fun t _ => ?_
  exact Op.Ends.noting (Op.ends_pure (.noted rfl))

theorem exportAll_noting (activeOnly : Bool) (actor : Actor) (now : Instant) (s : Store) :
    (exportAll activeOnly actor now).Ends s (Noting now s) := by
  have hall : ∀ tracks : List Track, (do
      let details := toString tracks.length ++ " tracks, activeOnly=" ++ boolText activeOnly
      AuditLog.note ((actor.event "Tracks exported" .exported resource).withDetails details) now
      return tracks.map fun t => .ofTrack t now : Op (List TrackDocument)).Ends s
        (Noting now s) :=
    fun tracks => Op.Ends.noting (Op.ends_pure (.noted rfl))
  simp only [exportAll]
  cases activeOnly with
  | true => exact Op.Ends.reading keeps_active (fun f _ => .failed f) fun tracks _ => hall tracks
  | false => exact Op.Ends.reading keeps_all (fun f _ => .failed f) fun tracks _ => hall tracks

/-! ## Changes -/

section Operations

variable {now : Instant} (hnow : now.HasFourDigitYear) (actor : Actor) {s : Store}
include hnow

/-- A new track that passed the rules gets a row at the end of its table, or it is not stored. -/
theorem store_adds {input : NewTrack} {t : CheckedTrack} (hcheck : input.check = .ok t) :
    (store t actor now).Ends s fun r u => (∃ f, r = .error f ∧ u = s)
      ∨ ∃ track id, r = .ok track ∧ s.database.tracks.nextId? = some id
        ∧ (Database.newTrackRow t actor.username now id).read = .ok track
        ∧ u = { s with database := { s.database with
          tracks := s.database.tracks.append (Database.newTrackRow t actor.username now id) } } := by
  simp only [store]
  refine Op.Ends.changing (fun f _ => Or.inl ⟨f, rfl, rfl⟩) fun row db hdb => ?_
  obtain ⟨tracks, hinsert, rfl⟩ := Database.insertTrack_ok hdb
  obtain ⟨id, hnext, rfl, -, rfl⟩ := Table.insert_ok hinsert
  obtain ⟨track, hread⟩ := TrackRow.exists_read (newTrackRow_sound hcheck actor.username now id)
    (newTrackRow_readable hnow t actor.username id)
  exact Op.Reads.ends (Op.keeps_ofRead _) (Op.answer_ofRead _)
    (Or.inr ⟨track, id, hread, hnext, hread, rfl⟩)

/-- A new track that passed the rules is stored and noted, or it is not stored. -/
theorem store_recorded {input : NewTrack} {t : CheckedTrack}
    (hcheck : input.check = .ok t) (action : String) (kind : AuditAction) :
    (do
      let t ← store t actor now
      AuditLog.note (event actor action kind t) now
      return t : Op Track).Ends s
      (Recorded (fun _ => False) (fun _ => s.PutTrack) actor resource now s) := by
  refine (store_adds hnow actor hcheck).bind ?_ ?_
  · rintro track u (⟨f, hf, -⟩ | ⟨_, id, hok, hnext, hread, rfl⟩)
    · cases hf
    · obtain rfl := Except.ok.inj hok
      have hid : track.id = id := congrArg Track.id (TrackRow.eq_of_read hread)
      exact Op.Ends.noting (Op.ends_pure (.recorded ⟨_, _, _, .added hnext, hid.symm, rfl⟩
        (event_tells actor action kind track)))
  · rintro f u (⟨_, -, rfl⟩ | ⟨_, _, hok, -⟩)
    · exact .failed f
    · cases hok

theorem create_recorded (input : NewTrack) :
    (create input actor now).Ends s
      (Recorded (fun _ => False) (fun _ => s.PutTrack) actor resource now s) := by
  simp only [create]
  refine Op.Ends.reading (Op.keeps_ofCheck _) (fun f _ => .failed f) fun t ht => ?_
  refine Op.Ends.reading (keeps_requireName _ _ _) (fun f _ => .failed f) fun _ _ => ?_
  exact store_recorded hnow actor (Op.ofCheck_ok ht) _ _

theorem importOne_recorded (doc : TrackDocument) :
    (importOne doc actor now).Ends s
      (Recorded (fun _ => False) (fun _ => s.PutTrack) actor resource now s) := by
  simp only [importOne]
  refine Op.Ends.reading (Op.keeps_ofCheck _) (fun f _ => .failed f) fun _ _ => ?_
  refine Op.Ends.reading (Op.keeps_ofCheck _) (fun f _ => .failed f) fun base _ => ?_
  refine Op.Ends.reading keeps_active (fun f _ => .failed f) fun tracks _ => ?_
  refine Op.Ends.reading (Op.keeps_ofCheck _) (fun f _ => .failed f) fun t ht => ?_
  exact store_recorded hnow actor (Op.ofCheck_ok ht) _ _

/-! ## Changes of a track that is there -/

variable (hs : Stored s)
include hs

omit hnow in
/-- A change under a condition: it is refused, or nothing satisfies the condition, or the track was
    put into the store, and it can be read from then on. -/
theorem modify_put {α : Type} {id : Int} {condition : Database → TrackRow → Bool}
    {f : TrackRow → TrackRow} (hid : ∀ r, Row.id (f r) = Row.id r)
    (hkept : ∀ r, s.database.tracks.find? id = some r → Kept r → Kept (f r)) {k : Nat → Op α}
    {post : Except Failure α → Store → Prop} (hrefused : ∀ e, post (.error e) s)
    (hnone : (∀ r, s.database.tracks.find? id = some r → condition s.database r = false) →
      (k 0).Ends s post)
    (hput : ∀ u, s.PutTrack id u → (∃ t, ∀ v : Store, v.database.tracks = u.database.tracks →
      (get id).answer v = .ok t) → (k 1).Ends u post) :
    (Op.change (Database.modifyTrack id condition f) >>= k).Ends s post := by
  refine Op.Ends.changing (fun e _ => hrefused e) fun n db hdb => ?_
  obtain ⟨tracks, hmodify, rfl⟩ := Database.modifyTrack_ok hdb
  rcases Table.put_of_modify hid hmodify with ⟨rfl, rfl, hfalse⟩ | ⟨r, hfind, -, -, rfl, htracks⟩
  · exact hnone hfalse
  · obtain ⟨hr, hrid⟩ := Table.find?_eq_some hfind
    have hnew : (f r).id = id := (hid r).trans hrid
    have hrow : Kept (f r) := hkept r hfind (hs.kept r hr)
    obtain ⟨t, hread⟩ := TrackRow.exists_read hrow.sound hrow.readable
    refine hput _ ⟨_, _, tracks, htracks, hnew, rfl⟩ ⟨t, fun v hv => get_of_find ?_ hread⟩
    rw [hv, ← hnew]
    exact htracks.find? hs.numbered

/-- Only a change without any field leaves the track as it is. -/
theorem update_recorded (id : Int) (c : TrackChange) :
    (update id c actor now).Ends s
      (Recorded (fun _ => c = {}) (fun _ => s.PutTrack) actor resource now s) := by
  simp only [update]
  refine Op.Ends.reading (keeps_get id) (fun f _ => .failed f) fun current hcurrent => ?_
  refine Op.Ends.reading (keeps_checkChange _ _ _) (fun f _ => .failed f) ?_
  rintro ⟨name, grid⟩ hchecked
  by_cases hempty : c = {}
  · simp only [if_pos hempty]
    exact Op.ends_pure (.idle hempty)
  simp only [if_neg hempty]
  refine modify_put hs ?_ ?_ ?_ ?_ ?_
  · exact fun _ => rfl
  · intro r hfind hr
    -- the row that is changed is the one that was read and checked
    obtain ⟨row, hrow, hread⟩ := get_ok hcurrent
    obtain rfl : r = row := Option.some.inj (hfind.symm.trans hrow)
    exact ⟨(checkChange_ok hchecked).changeRow_sound hread hr.sound now,
      changeRow_readable hnow hr.readable c name grid⟩
  · exact fun f => .failed f
  · intro _
    simp only [if_true]
    split <;> exact .failed _
  · rintro u hput ⟨t, hget⟩
    simp only [if_neg (by decide : ¬ 1 = 0)]
    refine Op.Ends.reading_of_answer (keeps_get id) (hget u rfl) (Op.Ends.noting ?_)
    have htells := (event_tells actor "Track updated" .update t).withDetails c.toJson.render
    rw [id_of_get (hget u rfl)] at htells
    exact Op.ends_pure (.recorded hput htells)

/-- Only a track that is inactive already is left as it is. -/
theorem delete_recorded (id : Int) :
    (delete id actor now).Ends s
      (Recorded (fun _ => ∃ t, (get id).answer s = .ok t ∧ t.isActive = false)
        (fun _ => s.PutTrack) actor resource now s) := by
  simp only [delete]
  refine Op.Ends.reading (keeps_get id) (fun f _ => .failed f) fun t ht => ?_
  obtain rfl : t.id = id := id_of_get ht
  by_cases hactive : (!t.isActive) = true
  · simp only [if_pos hactive]
    exact Op.ends_pure (.idle ⟨t, ht, by simpa using hactive⟩)
  simp only [if_neg hactive]
  refine modify_put hs ?_ ?_ ?_ ?_ ?_
  · exact fun _ => rfl
  · exact fun r _ hr => kept_of_flag hnow hr false
  · exact fun f => .failed f
  · -- no row satisfied the condition; the track that is read again is active as before
    intro _
    simp only [if_true]
    refine Op.Ends.reading_of_answer (keeps_get t.id) ht ?_
    rw [if_pos (by simpa using hactive)]
    exact Op.ends_throw (.failed _)
  · intro u hput _
    simp only [if_neg (by decide : ¬ 1 = 0)]
    exact Op.Ends.noted (.recorded hput (event_tells actor _ _ t))

/-- Only a track that is active already is left as it is. -/
theorem reactivate_recorded (id : Int) :
    (reactivate id actor now).Ends s
      (Recorded (fun _ => ∃ t, (get id).answer s = .ok t ∧ t.isActive = true)
        (fun _ => s.PutTrack) actor resource now s) := by
  simp only [reactivate]
  refine Op.Ends.reading (keeps_get id) (fun f _ => .failed f) fun t ht => ?_
  obtain rfl : t.id = id := id_of_get ht
  by_cases hactive : t.isActive = true
  · rw [if_pos hactive]
    exact Op.ends_pure (.idle ⟨t, ht, hactive⟩)
  rw [if_neg hactive]
  refine Op.Ends.reading (keeps_requireName _ _ _) (fun f _ => .failed f) fun _ _ => ?_
  refine modify_put hs ?_ ?_ ?_ ?_ ?_
  · exact fun _ => rfl
  · exact fun r _ hr => kept_of_flag hnow hr true
  · exact fun f => .failed f
  · -- the track is there, and the change asks for nothing else
    intro hfalse
    obtain ⟨row, hfind, -⟩ := get_ok ht
    cases hfalse row hfind
  · rintro u hput ⟨track, hget⟩
    have hread := hget (u.noted (event actor "Track reactivated" .update t) now)
      Store.noted_tracks
    refine Op.Ends.noting (Op.Reads.ends (keeps_get t.id) hread ?_)
    exact .recorded hput (event_tells actor _ _ t)

end Operations

end Tracks

end RobotMaze
