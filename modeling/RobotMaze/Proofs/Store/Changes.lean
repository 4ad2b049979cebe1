import RobotMaze.Proofs.Store.Rows
import RobotMaze.Proofs.Store.Table
import RobotMaze.Store.Audit
import RobotMaze.Store.Users
import RobotMaze.Store.Sessions
import RobotMaze.Store.Tracks

/-! # Changes — which table a change of the database writes to

    Every change writes to one table.  A part of the store that does not look at
    that table is left alone.

    * `insertTrack_ok`, `modifyTrack_ok`, … — the table after a change;
    * `BesideTracks`, `BesideUsers`, … — parts of the store that do not look at a
      table;
    * `keeps_insertTrack`, `keeps_modifyTrack`, … — the frames of the changes. -/

namespace RobotMaze

open Time (Instant)

/-- The row of a login. -/
def LoginSession.row (s : LoginSession) : LoginRow :=
  { token := s.token
    userId := s.userId
    createdAt := s.createdAt.stamp
    expiresAt := s.expiresAt.stamp
    ipAddress := s.ipAddress
    userAgent := s.userAgent }

namespace Database

/-- A change of one table that is put back into the database. -/
theorem ok_of_put {α τ : Type} {x : Except Failure (α × τ)} {put : τ → Database} {a : α}
    {db : Database} (h : (x >>= fun r => pure (r.1, put r.2)) = .ok (a, db)) :
    ∃ t, x = .ok (a, t) ∧ db = put t := by
  obtain ⟨r, rfl, h⟩ := ok_of_bind h
  injection h with h
  injection h with ha hdb
  exact ⟨r.2, by rw [← ha], hdb.symm⟩

variable {db db' : Database} {n : Nat} {id : Int} {now : Instant}

/-- An inserted track is the new row of its table, and nothing else changes. -/
theorem insertTrack_ok {t : CheckedTrack} {createdBy : Option String} {row : TrackRow}
    (h : insertTrack t createdBy now db = .ok (row, db')) :
    ∃ tracks, db.tracks.insert (newTrackRow t createdBy now) trackIsAcceptable = .ok (row, tracks)
      ∧ db' = { db with tracks } :=
  ok_of_put h

/-- A modified track is changed in its table, and nothing else changes. -/
theorem modifyTrack_ok {condition : Database → TrackRow → Bool} {change : TrackRow → TrackRow}
    (h : modifyTrack id condition change db = .ok (n, db')) :
    ∃ tracks, db.tracks.modify id (condition db) change trackIsAcceptable = .ok (n, tracks)
      ∧ db' = { db with tracks } :=
  ok_of_put h

/-- An inserted user is the new row of its table, and nothing else changes. -/
theorem insertUser_ok {make : Int → UserRow} {row : UserRow}
    (h : insertUser make db = .ok (row, db')) :
    ∃ users, db.users.insert make userIsAcceptable = .ok (row, users) ∧ db' = { db with users } :=
  ok_of_put h

/-- A modified user is changed in its table, and nothing else changes. -/
theorem modifyUser_ok {condition : Database → UserRow → Bool} {change : UserRow → UserRow}
    (h : modifyUser id condition change db = .ok (n, db')) :
    ∃ users, db.users.modify id (condition db) change userIsAcceptable = .ok (n, users)
      ∧ db' = { db with users } :=
  ok_of_put h

/-- A change of a user fails where the table refuses it only. -/
theorem modifyUser_error {condition : Database → UserRow → Bool} {change : UserRow → UserRow}
    {e : Failure} (h : modifyUser id condition change db = .error e) : e = .refused := by
  rcases error_of_bind h with h | ⟨r, -, h⟩
  · exact Table.modify_error h
  · cases h

/-- An inserted session is the new row of its table, and nothing else changes. -/
theorem insertSession_ok {s : GameSession} {row : SessionRow}
    (h : insertSession s db = .ok (row, db')) :
    ∃ sessions, db.sessions.insert s.rowAt db.sessionIsAcceptable = .ok (row, sessions)
      ∧ db' = { db with sessions } :=
  ok_of_put h

/-- A new session fails where the table refuses it only. -/
theorem insertSession_error {s : GameSession} {e : Failure}
    (h : insertSession s db = .error e) : e = .refused := by
  rcases error_of_bind h with h | ⟨r, -, h⟩
  · exact Table.insert_error h
  · cases h

/-- A session that is not there changes nothing; else the row found under its id is written. -/
theorem updateSession_ok {s : GameSession} (h : updateSession s db = .ok (n, db')) :
    (db.sessionById s.sessionId = none ∧ db' = db)
    ∨ ∃ row sessions, db.sessionById s.sessionId = some row
      ∧ db.sessions.modify row.id (fun _ => true) (fun r => s.rowAt r.id)
        db.sessionIsAcceptable = .ok (n, sessions)
      ∧ db' = { db with sessions } := by
  simp only [updateSession] at h
  simp only [sessionById]
  cases hfind : db.sessions.rows.find? fun r => r.sessionId == s.sessionId with
  | none =>
      rw [hfind] at h
      injection h with h
      injection h with hn hdb
      exact Or.inl ⟨rfl, hdb.symm⟩
  | some row =>
      rw [hfind] at h
      have hput : ∃ sessions, _ = Except.ok (n, sessions) ∧ db' = { db with sessions } :=
        ok_of_put h
      obtain ⟨sessions, hmodify, hdb⟩ := hput
      exact Or.inr ⟨row, sessions, rfl, hmodify, hdb⟩

/-- A new entry is the row of its event, and nothing else changes. -/
theorem insertAudit_ok {e : AuditEvent} {row : AuditRow}
    (h : insertAudit e now db = .ok (row, db')) :
    ∃ audit, db.audit.insert (fun id => .ofEvent id now e) (fun _ _ => true) = .ok (row, audit)
      ∧ db' = { db with audit } :=
  ok_of_put h

/-- A login is added if its token is new and its user exists. -/
theorem insertLogin_ok {s : LoginSession} {u : Unit} (h : insertLogin s db = .ok (u, db')) :
    (∀ r ∈ db.logins, r.token ≠ s.token) ∧ db.users.find? s.userId ≠ none
      ∧ db' = { db with logins := db.logins ++ [s.row] } := by
  simp only [insertLogin] at h
  split at h
  · cases h
  · rename_i hfree
    injection h with h
    injection h with hu hdb
    obtain ⟨htoken, huser⟩ := not_or.mp (mt Bool.or_eq_true_iff.mpr hfree)
    refine ⟨fun r hr heq => htoken ?_, fun hnone => huser ?_, hdb.symm⟩
    · exact List.any_eq_true.mpr ⟨r, hr, beq_iff_eq.mpr heq⟩
    · rw [hnone]
      rfl

end Database

/-! ## Parts of the store -/

section Parts

variable {γ : Type}

/-- A part of the store that does not look at the table of tracks. -/
def BesideTracks (view : Store → γ) : Prop :=
  ∀ (s : Store) tracks, view { s with database := { s.database with tracks } } = view s

/-- A part of the store that does not look at the table of users. -/
def BesideUsers (view : Store → γ) : Prop :=
  ∀ (s : Store) users, view { s with database := { s.database with users } } = view s

/-- A part of the store that does not look at the table of game sessions. -/
def BesideSessions (view : Store → γ) : Prop :=
  ∀ (s : Store) sessions, view { s with database := { s.database with sessions } } = view s

/-- A part of the store that does not look at the table of logins. -/
def BesideLogins (view : Store → γ) : Prop :=
  ∀ (s : Store) logins, view { s with database := { s.database with logins } } = view s

/-- A part of the store that looks neither at the audit log nor at its trail. -/
structure BesideAudit (view : Store → γ) : Prop where
  audit : ∀ (s : Store) audit, view { s with database := { s.database with audit } } = view s
  trail : ∀ (s : Store) trail, view { s with trail } = view s

end Parts

/-! ## Frames -/

namespace Op

variable {γ : Type} {view : Store → γ}

section Tracks

variable (hview : BesideTracks view)
include hview

/-- A new track writes to the tracks only. -/
@[grind ←]
theorem keeps_insertTrack (t : CheckedTrack) (createdBy : Option String) (now : Instant) :
    (change (Database.insertTrack t createdBy now)).Keeps view := by
  refine keeps_change fun s row db h => ?_
  obtain ⟨tracks, hinsert, rfl⟩ := Database.insertTrack_ok h
  exact hview s tracks

/-- A changed track writes to the tracks only. -/
@[grind ←]
theorem keeps_modifyTrack (id : Int) (condition : Database → TrackRow → Bool)
    (f : TrackRow → TrackRow) : (change (Database.modifyTrack id condition f)).Keeps view := by
  refine keeps_change fun s n db h => ?_
  obtain ⟨tracks, hmodify, rfl⟩ := Database.modifyTrack_ok h
  exact hview s tracks

end Tracks

section Users

variable (hview : BesideUsers view)
include hview

/-- A new user writes to the users only. -/
@[grind ←]
theorem keeps_insertUser (make : Int → UserRow) :
    (change (Database.insertUser make)).Keeps view := by
  refine keeps_change fun s row db h => ?_
  obtain ⟨users, hinsert, rfl⟩ := Database.insertUser_ok h
  exact hview s users

/-- A changed user writes to the users only. -/
@[grind ←]
theorem keeps_modifyUser (id : Int) (condition : Database → UserRow → Bool)
    (f : UserRow → UserRow) : (change (Database.modifyUser id condition f)).Keeps view := by
  refine keeps_change fun s n db h => ?_
  obtain ⟨users, hmodify, rfl⟩ := Database.modifyUser_ok h
  exact hview s users

end Users

section Sessions

variable (hview : BesideSessions view)
include hview

/-- A new session writes to the sessions only. -/
@[grind ←]
theorem keeps_insertSession (s : GameSession) :
    (change (Database.insertSession s)).Keeps view := by
  refine keeps_change fun t row db h => ?_
  obtain ⟨sessions, hinsert, rfl⟩ := Database.insertSession_ok h
  exact hview t sessions

/-- A session that is written back writes to the sessions only. -/
@[grind ←]
theorem keeps_updateSession (s : GameSession) :
    (change (Database.updateSession s)).Keeps view := by
  refine keeps_change fun t n db h => ?_
  rcases Database.updateSession_ok h with ⟨hnone, rfl⟩ | ⟨row, sessions, hfind, hmodify, rfl⟩
  · rfl
  · exact hview t sessions

end Sessions

section Logins

variable (hview : BesideLogins view)
include hview

/-- A new login writes to the logins only. -/
@[grind ←]
theorem keeps_insertLogin (s : LoginSession) :
    (change (Database.insertLogin s)).Keeps view := by
  refine keeps_change fun t u db h => ?_
  obtain ⟨-, -, rfl⟩ := Database.insertLogin_ok h
  exact hview t _

/-- Removing logins writes to the logins only. -/
theorem keeps_deleteLogins (test : LoginRow → Bool) :
    (change fun db => .ok (db.deleteLogins test)).Keeps view := by
  refine keeps_change fun t n db h => ?_
  injection h with h
  injection h with hn hdb
  rw [← hdb]
  exact hview t _

end Logins

@[grind ←]
theorem keeps_insertAudit (hview : BesideAudit view) (e : AuditEvent) (now : Instant) :
    (change (Database.insertAudit e now)).Keeps view := by
  refine keeps_change fun s row db h => ?_
  obtain ⟨audit, hinsert, rfl⟩ := Database.insertAudit_ok h
  exact hview.audit s audit

end Op

end RobotMaze
