import RobotMaze.Proofs.Service.Frames
import RobotMaze.Proofs.Store.Put

/-! # Recorded calls

    An operation that has done its work notes an event and goes on, whether or not
    the event could be stored.  So a call that changes a track or an account does all
    of its work or none of it, and what it has done is recorded.

    * `Store.noted` — the store after an event was noted, and what it still has in
      common with the one before;
    * `Op.Ends.noting` — the rule for what an operation notes;
    * `noted_audit` — the event is the last row of the log, under the next id;
    * `AuditEvent.Tells` — an event tells who did something, and to what;
    * `Recorded` — how such a call ends;
    * `Noting` — how a call ends that changes neither, but may be noted. -/

namespace RobotMaze

open Time (Instant)

/-! ## Noting an event -/

/-- The store after an event was noted. -/
def Store.noted (s : Store) (e : AuditEvent) (now : Instant) : Store :=
  ((AuditLog.note e now).run s).2

/-- A log after an event was noted: the row of the event is the last one, unless all ids have been
    given out. -/
inductive AuditLog.Noted (e : AuditEvent) (now : Instant) (t : Table AuditRow) :
    Table AuditRow → Prop where
  | full (next : t.nextId? = none) : Noted e now t t
  | added {id : Int} (next : t.nextId? = some id) : Noted e now t (t.append (.ofEvent id now e))

/-- A database after an event was noted in it: no table but the log is different. -/
def Database.Notes (e : AuditEvent) (now : Instant) (db db' : Database) : Prop :=
  ∃ audit, AuditLog.Noted e now db.audit audit ∧ db' = { db with audit }

section Noted

variable {e : AuditEvent} {now : Instant} {s : Store}

/-- What lies beside the log is as before an event was noted. -/
theorem Store.noted_of_beside {γ : Type} (view : Store → γ) (haudit : BesideAudit view)
    (s : Store) (e : AuditEvent) (now : Instant) : view (s.noted e now) = view s :=
  (AuditLog.keeps_note haudit e now).run s

@[simp]
theorem Store.noted_tracks : (s.noted e now).database.tracks = s.database.tracks :=
  noted_of_beside (fun s => s.database.tracks) ⟨fun _ _ => rfl, fun _ _ => rfl⟩ s e now

@[simp]
theorem Store.noted_users : (s.noted e now).database.users = s.database.users :=
  noted_of_beside (fun s => s.database.users) ⟨fun _ _ => rfl, fun _ _ => rfl⟩ s e now

@[simp]
theorem Store.noted_sessions : (s.noted e now).database.sessions = s.database.sessions :=
  noted_of_beside (fun s => s.database.sessions) ⟨fun _ _ => rfl, fun _ _ => rfl⟩ s e now

theorem Database.insertAudit_error {db : Database} {f : Failure}
    (h : insertAudit e now db = .error f) : db.audit.nextId? = none := by
  simp only [insertAudit, Table.insert] at h
  cases hnext : db.audit.nextId? with
  | none => rfl
  | some id =>
      rw [hnext] at h
      cases h

/-- Recording always succeeds. -/
theorem AuditLog.record_ends (e : AuditEvent) (now : Instant) (s : Store) :
    (record e now).Ends s fun r t => (∃ entry, r = .ok entry)
      ∧ Noted e now s.database.audit t.database.audit := by
  have hinsert : (Op.change (Database.insertAudit e now)).Ends s fun _ t =>
      Noted e now s.database.audit t.database.audit := by
    simp only [Op.Ends]
    rw [Op.run_change]
    cases hresult : Database.insertAudit e now s.database with
    | error f => exact .full (Database.insertAudit_error hresult)
    | ok result =>
        obtain ⟨row, db⟩ := result
        obtain ⟨audit, hinsert, rfl⟩ := Database.insertAudit_ok hresult
        obtain ⟨id, hnext, rfl, -, rfl⟩ := Table.insert_ok hinsert
        exact .added hnext
  simp only [record]
  refine hinsert.attempt.bind ?_ fun f t h => ?_
  · rintro outcome t ⟨_, -, hnoted⟩
    cases outcome with
    | error f => exact Op.ends_pure ⟨⟨_, rfl⟩, hnoted⟩
    | ok row =>
        cases hread : row.read with
        | error f =>
            simp only [hread]
            exact Op.ends_pure ⟨⟨_, rfl⟩, hnoted⟩
        | ok entry =>
            simp only [hread]
            exact ⟨⟨_, rfl⟩, hnoted⟩
  · obtain ⟨_, hok, -⟩ := h
    cases hok

/-- Noting an event succeeds, and adds its row if it can. -/
theorem AuditLog.note_ends (e : AuditEvent) (now : Instant) (s : Store) :
    (note e now).Ends s fun r t => r = .ok () ∧ Noted e now s.database.audit t.database.audit := by
  simp only [note]
  refine (record_ends e now s).bind ?_ fun f t h => ?_
  · rintro entry t ⟨-, hnoted⟩
    exact Op.ends_pure ⟨rfl, hnoted⟩
  · obtain ⟨⟨entry, hok⟩, -⟩ := h
    cases hok

/-- Recording leaves the same store as noting. -/
theorem AuditLog.run_record (e : AuditEvent) (now : Instant) (s : Store) :
    ((record e now).run s).2 = s.noted e now := by
  have hrecord := (record_ends e now s).1
  simp only [Store.noted, note]
  rw [Op.run_bind]
  obtain ⟨entry, hok⟩ := hrecord
  rw [hok]
  rfl

theorem Store.noted_audit (s : Store) (e : AuditEvent) (now : Instant) :
    AuditLog.Noted e now s.database.audit (s.noted e now).database.audit :=
  (AuditLog.note_ends e now s).2

/-- Noting an event writes to the log, and to no other table. -/
theorem Store.noted_database (s : Store) (e : AuditEvent) (now : Instant) :
    s.database.Notes e now (s.noted e now).database := by
  refine ⟨_, s.noted_audit e now, ?_⟩
  have hrest := noted_of_beside (fun s => { s.database with audit := {} })
    ⟨fun _ _ => rfl, fun _ _ => rfl⟩ s e now
  exact congrArg (fun db : Database => { db with audit := (s.noted e now).database.audit }) hrest

end Noted

/-- After an event was noted an operation goes on. -/
theorem Op.Ends.noting {α : Type} {e : AuditEvent} {now : Instant} {s : Store} {k : Unit → Op α}
    {post : Except Failure α → Store → Prop} (h : (k ()).Ends (s.noted e now) post) :
    (AuditLog.note e now >>= k).Ends s post := by
  simp only [Op.Ends, Op.answer]
  rw [Op.run_bind, (AuditLog.note_ends e now s).1]
  exact h

/-- An event is the last thing that is noted. -/
theorem Op.Ends.noted {e : AuditEvent} {now : Instant} {s : Store}
    {post : Except Failure Unit → Store → Prop} (h : post (.ok ()) (s.noted e now)) :
    (AuditLog.note e now).Ends s post := by
  have hanswer : (AuditLog.note e now).answer s = .ok () := (AuditLog.note_ends e now s).1
  simp only [Op.Ends]
  rw [hanswer]
  exact h

/-! ## Recording a call -/

/-- An event tells that an actor succeeded with something about the resource of an id. -/
structure AuditEvent.Tells (e : AuditEvent) (actor : Actor) (resourceType : String) (id : Int) :
    Prop where
  username : e.username = recordedName actor.username
  ipAddress : e.ipAddress = actor.ipAddress
  userAgent : e.userAgent = actor.userAgent
  status : e.status = .success
  resourceType : e.resourceType = resourceType
  resourceId : e.resourceId = some (toString id)

theorem AuditEvent.Tells.withDetails {e : AuditEvent} {actor : Actor} {type : String} {id : Int}
    (h : e.Tells actor type id) (details : String) : (e.withDetails details).Tells actor type id :=
  ⟨h.username, h.ipAddress, h.userAgent, h.status, h.resourceType, h.resourceId⟩

/-- How a call ends that is recorded if it changes anything.  It fails, or it finds nothing to do,
    and the store is the same as before; or it has made its change and noted it. -/
inductive Recorded {α : Type} (idle : α → Prop) (change : α → Int → Store → Prop) (actor : Actor)
    (resourceType : String) (now : Instant) (s : Store) : Except Failure α → Store → Prop where
  | failed (f : Failure) : Recorded idle change actor resourceType now s (.error f) s
  | idle {a : α} (nothing : idle a) : Recorded idle change actor resourceType now s (.ok a) s
  | recorded {a : α} {id : Int} {u : Store} {e : AuditEvent} (changed : change a id u)
      (tells : e.Tells actor resourceType id) :
      Recorded idle change actor resourceType now s (.ok a) (u.noted e now)

variable {α : Type} {idle : α → Prop} {change : α → Int → Store → Prop} {actor : Actor}
  {resourceType : String} {now : Instant} {s t : Store}

/-- Whoever fails has done nothing. -/
theorem Recorded.store_eq_of_error {f : Failure} {r : Except Failure α}
    (h : Recorded idle change actor resourceType now s r t) (hr : r = .error f) : t = s := by
  cases h with
  | failed => rfl
  | idle => rfl
  | recorded => cases hr

/-- The tables of which every change is recorded, and the log itself. -/
def Store.books (s : Store) : Table TrackRow × Table UserRow × Table AuditRow :=
  (s.database.tracks, s.database.users, s.database.audit)

theorem Store.tracks_of_books (h : t.books = s.books) : t.database.tracks = s.database.tracks :=
  congrArg Prod.fst h

theorem Store.users_of_books (h : t.books = s.books) : t.database.users = s.database.users :=
  congrArg (fun books => books.2.1) h

theorem Store.audit_of_books (h : t.books = s.books) : t.database.audit = s.database.audit :=
  congrArg (fun books => books.2.2) h

/-- How a call ends that changes neither tracks nor accounts.  It fails, and the store is the same
    as before; or it succeeds, and an event may have been noted. -/
inductive Noting {α : Type} (now : Instant) (s : Store) : Except Failure α → Store → Prop where
  | failed (f : Failure) : Noting now s (.error f) s
  | silent {a : α} {t : Store} (same : t.books = s.books) : Noting now s (.ok a) t
  | noted {a : α} {u : Store} {e : AuditEvent} (same : u.books = s.books) :
      Noting now s (.ok a) (u.noted e now)

/-- A call that only notes leaves the store as it was if it fails. -/
theorem Noting.store_eq_of_error {f : Failure} {r : Except Failure α} (h : Noting now s r t)
    (hr : r = .error f) : t = s := by
  cases h with
  | failed => rfl
  | silent => cases hr
  | noted => cases hr

/-- Recording notes its event, or it fails and the store is the same. -/
theorem AuditLog.record_noting (e : AuditEvent) (now : Instant) (s : Store) :
    (record e now).Ends s (Noting now s) := by
  obtain ⟨⟨entry, hok⟩, -⟩ := record_ends e now s
  simp only [Op.Ends]
  rw [hok, run_record]
  exact .noted rfl

theorem AuditLog.note_noting (e : AuditEvent) (now : Instant) (s : Store) :
    (note e now).Ends s (Noting now s) :=
  Op.Ends.noted (.noted rfl)

end RobotMaze
