import RobotMaze.Proofs.Ranges
import RobotMaze.Proofs.Store.Outcome
import RobotMaze.Proofs.Time.Written
import RobotMaze.Store.Rows

/-! # Rows — reading what was stored

    * `readTime_stamp`, `readTime_stamp_ok` — a time is read back from its stamp,
      and no other one is;
    * `TrackRow.fields_of_read`, `UserRow.fields_of_read`,
      `SessionRow.fields_of_read` — all values of what was read;
    * `TrackRow.exists_read_iff`, `UserRow.exists_read_iff` — which rows can be read;
    * `UserRow.read_error`, `SessionRow.read_error` — reading fails for a value that
      is not what its column holds, and for nothing else. -/

namespace RobotMaze

open Time (Instant)

/-- A stamp of a year with four digits is read from the store. -/
theorem readTime_stamp {t : Instant} (h : t.HasFourDigitYear) :
    readTime t.stamp = .ok t.stamped := by
  simp only [readTime, Instant.ofStored?]
  rw [Instant.ofRfc3339?_stamp h]
  rfl

/-- A time that was read from a stamp is that of the stamp, and its year has four digits. -/
theorem readTime_stamp_ok {t u : Instant} (h : readTime t.stamp = .ok u) :
    t.HasFourDigitYear ∧ u = t.stamped := by
  simp only [readTime] at h
  cases hread : Instant.ofStored? t.stamp with
  | none =>
      rw [hread] at h
      cases h
  | some v =>
      rw [hread] at h
      obtain rfl := Except.ok.inj h
      exact Instant.hasFourDigitYear_of_ofStored? hread

/-- A flag is stored as one of two numbers. -/
theorem flag_eq_zero_or_one (b : Bool) : flag b = 0 ∨ flag b = 1 := by
  cases b
  · exact Or.inl rfl
  · exact Or.inr rfl

/-- A number that is read is the one in the column. -/
theorem readInt32_ok {column : Nat} {n m : Int} (h : readInt32 column n = .ok m) : m = n := by
  simp only [readInt32] at h
  split at h
  · injection h with h
    exact h.symm
  · cases h

/-- A number that is read has 32 bits. -/
theorem readInt32_isInt32 {column : Nat} {n m : Int} (h : readInt32 column n = .ok m) :
    IsInt32 n := by
  simp only [readInt32] at h
  split at h
  · assumption
  · cases h

/-- A number of 32 bits is read. -/
theorem readInt32_of_isInt32 {column : Nat} {n : Int} (h : IsInt32 n) :
    readInt32 column n = .ok n :=
  if_pos h

namespace TrackRow

/-- All that is read from the row of a track. -/
theorem fields_of_read {r : TrackRow} {t : Track} (h : r.read = .ok t) :
    ∃ createdAt updatedAt, readTime r.createdAt = .ok createdAt
      ∧ readTime r.updatedAt = .ok updatedAt
      ∧ t = { id := r.id, name := r.name, gridConfig := r.gridConfig, startX := r.startX,
              startY := r.startY, heading := r.heading, createdAt, updatedAt,
              createdBy := readText r.createdBy, isActive := r.isActive != 0,
              difficulty := r.difficulty, description := readText r.description } := by
  simp only [read] at h
  obtain ⟨x, hx, h⟩ := ok_of_bind h
  obtain ⟨y, hy, h⟩ := ok_of_bind h
  obtain ⟨createdAt, hcreatedAt, h⟩ := ok_of_bind h
  obtain ⟨updatedAt, hupdatedAt, h⟩ := ok_of_bind h
  obtain ⟨level, hlevel, h⟩ := ok_of_bind h
  refine ⟨createdAt, updatedAt, hcreatedAt, hupdatedAt, ?_⟩
  rw [← readInt32_ok hx, ← readInt32_ok hy, ← readInt32_ok hlevel]
  exact (Except.ok.inj h).symm

/-- A track can be read if its numbers and its times can. -/
theorem exists_read_iff {r : TrackRow} : (∃ t, r.read = .ok t)
    ↔ (IsInt32 r.startX ∧ IsInt32 r.startY ∧ IsInt32 r.difficulty)
      ∧ (∃ t, readTime r.createdAt = .ok t) ∧ ∃ t, readTime r.updatedAt = .ok t := by
  constructor
  · rintro ⟨t, h⟩
    simp only [read] at h
    obtain ⟨x, hx, h⟩ := ok_of_bind h
    obtain ⟨y, hy, h⟩ := ok_of_bind h
    obtain ⟨createdAt, hcreatedAt, h⟩ := ok_of_bind h
    obtain ⟨updatedAt, hupdatedAt, h⟩ := ok_of_bind h
    obtain ⟨level, hlevel, -⟩ := ok_of_bind h
    exact ⟨⟨readInt32_isInt32 hx, readInt32_isInt32 hy, readInt32_isInt32 hlevel⟩,
      ⟨createdAt, hcreatedAt⟩, updatedAt, hupdatedAt⟩
  · rintro ⟨⟨hx, hy, hlevel⟩, ⟨createdAt, hcreatedAt⟩, updatedAt, hupdatedAt⟩
    simp only [read]
    rw [readInt32_of_isInt32 hx, readInt32_of_isInt32 hy, hcreatedAt, hupdatedAt,
      readInt32_of_isInt32 hlevel]
    exact ⟨_, rfl⟩

/-- The track that is read from a row has the values of the row. -/
theorem eq_of_read {r : TrackRow} {t : Track} (h : r.read = .ok t) :
    t = { t with id := r.id, name := r.name, gridConfig := r.gridConfig, startX := r.startX,
                 startY := r.startY, heading := r.heading, isActive := r.isActive != 0 } := by
  obtain ⟨createdAt, updatedAt, -, -, rfl⟩ := fields_of_read h
  rfl

end TrackRow

namespace UserRow

/-- All that is read from the row of an account. -/
theorem fields_of_read {r : UserRow} {u : User} (h : r.read = .ok u) :
    ∃ createdAt lastLogin, readTime r.createdAt = .ok createdAt
      ∧ readTimeOpt r.lastLogin = .ok lastLogin
      ∧ u = { id := r.id, username := r.username, passwordHash := r.passwordHash, email := r.email,
              fullName := r.fullName, role := r.role, isActive := r.isActive != 0, createdAt,
              lastLogin, createdBy := readText r.createdBy } := by
  simp only [read] at h
  obtain ⟨createdAt, hcreatedAt, h⟩ := ok_of_bind h
  obtain ⟨lastLogin, hlastLogin, h⟩ := ok_of_bind h
  exact ⟨createdAt, lastLogin, hcreatedAt, hlastLogin, (Except.ok.inj h).symm⟩

/-- An account can be read if its times can. -/
theorem exists_read_iff {r : UserRow} : (∃ u, r.read = .ok u)
    ↔ (∃ t, readTime r.createdAt = .ok t) ∧ ∃ t, readTimeOpt r.lastLogin = .ok t := by
  constructor
  · rintro ⟨u, h⟩
    obtain ⟨createdAt, lastLogin, hcreatedAt, hlastLogin, -⟩ := fields_of_read h
    exact ⟨⟨createdAt, hcreatedAt⟩, lastLogin, hlastLogin⟩
  · rintro ⟨⟨createdAt, hcreatedAt⟩, lastLogin, hlastLogin⟩
    simp only [read]
    rw [hcreatedAt, hlastLogin]
    exact ⟨_, rfl⟩

/-- The account that is read from a row has its id and its hash, and is active unless its flag is
    zero. -/
theorem eq_of_read {r : UserRow} {u : User} (h : r.read = .ok u) :
    u = { u with id := r.id, passwordHash := r.passwordHash, isActive := r.isActive != 0 } := by
  obtain ⟨createdAt, lastLogin, -, -, rfl⟩ := fields_of_read h
  rfl

end UserRow

/-! ## Sessions -/

/-- A time that is read from its stamp as itself. -/
def Time.Instant.Settled (t : Instant) : Prop := readTime t.stamp = .ok t

/-- An instant is settled once it has been stored. -/
theorem settled_stamped {t : Instant} (h : t.HasFourDigitYear) : t.stamped.Settled := by
  simp only [Instant.Settled]
  rw [Instant.stamp_stamped]
  exact readTime_stamp h

/-- A time that is read back from its stamp, if only to the millisecond. -/
def Time.Instant.Storable (t : Instant) : Prop := ∃ u, readTime t.stamp = .ok u ∧ u.Settled

/-- An instant in a year with four digits can be stored. -/
theorem Time.Instant.HasFourDigitYear.storable {t : Instant} (h : t.HasFourDigitYear) :
    t.Storable :=
  ⟨t.stamped, readTime_stamp h, settled_stamped h⟩

theorem Time.Instant.Settled.storable {t : Instant} (h : t.Settled) : t.Storable := ⟨t, h, h⟩

/-- An empty text is read as a missing one. -/
theorem readText_eq_filter (text : Option String) : readText text = text.filter (· ≠ "") := by
  refine congrArg (fun kept => Option.filter kept text) (funext fun s => ?_)
  rw [Bool.eq_iff_iff]
  simp

/-- A text that has been read is read as itself. -/
theorem readText_readText (text : Option String) : readText (readText text) = readText text := by
  simp only [readText]
  rw [Option.filter_filter]
  simp

/-- No time is read from an empty text, so a time that can be read is not a missing one. -/
theorem readTimeOpt_some {text : String} {t : Instant} (h : readTime text = .ok t) :
    readTimeOpt (some text) = .ok (some t) := by
  have hempty : text.isEmpty = false := by
    rw [Bool.eq_false_iff, ne_eq, String.isEmpty_iff]
    rintro rfl
    cases h
  simp only [readTimeOpt, readText]
  rw [Option.filter_some, if_pos (by rw [hempty]; rfl), Option.mapM_some, h]
  rfl

/-- Optional times that were read from their stamps are those of the stamps. -/
theorem readTimeOpt_stamp_ok {a b : Option Instant}
    (h : readTimeOpt (a.map Instant.stamp) = .ok b) : b = a.map Instant.stamped := by
  cases a with
  | none => exact (Except.ok.inj h).symm
  | some t =>
      have hempty : (!t.stamp.isEmpty) = true := by
        rw [Bool.not_eq_true', Bool.eq_false_iff, ne_eq, String.isEmpty_iff]
        exact t.stamp_ne_empty
      simp only [readTimeOpt, readText, Option.map_some, Option.filter_some, hempty, if_true] at h
      exact map_of_mapM (fun _ _ hread => (readTime_stamp_ok hread).2) h

/-- A number that may be missing is read if it has 32 bits. -/
theorem mapM_readInt32 {column : Nat} {a : Option Int} (h : ∀ n ∈ a, IsInt32 n) :
    a.mapM (readInt32 column) = .ok a := by
  cases a with
  | none => rfl
  | some n =>
      rw [Option.mapM_some, readInt32_of_isInt32 (h n rfl)]
      rfl

/-- A number that may be missing is read as the one in the column. -/
theorem mapM_readInt32_ok {column : Nat} {a b : Option Int}
    (h : a.mapM (readInt32 column) = .ok b) : b = a := by
  rw [map_of_mapM (g := id) (fun _ _ => readInt32_ok) h, Option.map_id_apply]

/-- A kind of device is read from its name. -/
theorem readName_device (d : DeviceClass) : readName (Named.name d) = .ok d := by
  cases d <;> rfl

/-- The row of a session under a number. -/
def GameSession.rowAt (s : GameSession) (id : Int) : SessionRow :=
  { SessionRow.ofSession s with id }

/-- A session as it is read after it was stored: with these times, and empty texts missing. -/
def GameSession.readBack (s : GameSession) (startTime : Instant) (endTime : Option Instant) :
    GameSession :=
  { s with
    startTime
    endTime
    errorMessage := readText s.errorMessage
    ipAddress := readText s.ipAddress
    userAgent := readText s.userAgent
    screen := readText s.screen
    moves := readText s.moves }

/-- All that is read from the row of a session. -/
theorem SessionRow.fields_of_read {r : SessionRow} {s : GameSession} (h : r.read = .ok s) :
    ∃ startTime endTime device, readTime r.startTime = .ok startTime
      ∧ readTimeOpt r.endTime = .ok endTime ∧ readName r.device = .ok device
      ∧ s = { id := r.id, sessionId := r.sessionId, trackId := r.trackId, startTime, endTime,
              status := r.status, movesCount := r.movesCount, executionTime := r.executionTime,
              errorX := r.errorX, errorY := r.errorY, errorMessage := readText r.errorMessage,
              ipAddress := readText r.ipAddress, userAgent := readText r.userAgent,
              screen := readText r.screen, device, moves := readText r.moves,
              attempts := r.attempts, cellsVisited := r.cellsVisited,
              totalCells := r.totalCells } := by
  simp only [read] at h
  obtain ⟨startTime, hstartTime, h⟩ := ok_of_bind h
  obtain ⟨endTime, hendTime, h⟩ := ok_of_bind h
  obtain ⟨x, hx, h⟩ := ok_of_bind h
  obtain ⟨y, hy, h⟩ := ok_of_bind h
  obtain ⟨device, hdevice, h⟩ := ok_of_bind h
  obtain rfl := mapM_readInt32_ok hx
  obtain rfl := mapM_readInt32_ok hy
  exact ⟨startTime, endTime, device, hstartTime, hendTime, hdevice, (Except.ok.inj h).symm⟩

/-- The session that is read from a row has its number and its id. -/
theorem SessionRow.eq_of_read {r : SessionRow} {s : GameSession} (h : r.read = .ok s) :
    s = { s with id := r.id, sessionId := r.sessionId } := by
  obtain ⟨startTime, endTime, device, -, -, -, rfl⟩ := fields_of_read h
  rfl

/-- The row of a session, under any number, is read back as that session. -/
theorem GameSession.read_rowAt {s : GameSession} {startTime : Instant}
    {endTime : Option Instant} (hstart : readTime s.startTime.stamp = .ok startTime)
    (hend : readTimeOpt (s.endTime.map Instant.stamp) = .ok endTime)
    (hx : ∀ x ∈ s.errorX, IsInt32 x) (hy : ∀ y ∈ s.errorY, IsInt32 y) (id : Int) :
    (s.rowAt id).read = .ok { s.readBack startTime endTime with id } := by
  simp only [SessionRow.read, rowAt, SessionRow.ofSession]
  simp only [hstart, hend, mapM_readInt32 hx, mapM_readInt32 hy, readName_device]
  rfl

/-! ## Failures -/

/-- Reading fails only for a value that is not what its column holds. -/
def ReadsOrUnreadable {α : Type} (x : Read α) : Prop := ∀ e, x = .error e → ∃ v, e = .unreadable v

namespace ReadsOrUnreadable

variable {α β : Type}

/-- A value is read without failure. -/
theorem pure (a : α) : ReadsOrUnreadable (.ok a) := fun _ h => (nomatch h)

/-- One reading after another fails as unreadable, if at all. -/
theorem bind {x : Read α} {f : α → Read β} (hx : ReadsOrUnreadable x)
    (hf : ∀ a, ReadsOrUnreadable (f a)) : ReadsOrUnreadable (x >>= f) := by
  intro e h
  rcases error_of_bind h with h | ⟨a, -, h⟩
  · exact hx e h
  · exact hf a e h

/-- A column that may be missing fails as unreadable, if at all. -/
theorem mapM {a : Option α} {f : α → Read β} (hf : ∀ a, ReadsOrUnreadable (f a)) :
    ReadsOrUnreadable (a.mapM f) := by
  cases a with
  | none => exact pure none
  | some a =>
      rw [Option.mapM_some]
      intro e h
      cases hfa : f a with
      | ok b =>
          rw [hfa] at h
          cases h
      | error e' =>
          rw [hfa] at h
          injection h with h
          exact hf a e (h ▸ hfa)

/-- A time fails as unreadable, if at all. -/
theorem readTime (text : String) : ReadsOrUnreadable (readTime text) := by
  intro e h
  simp only [RobotMaze.readTime] at h
  split at h
  · cases h
  · injection h with h
    exact ⟨_, h.symm⟩

/-- A number fails as unreadable, if at all. -/
theorem readInt32 (column : Nat) (n : Int) : ReadsOrUnreadable (readInt32 column n) := by
  intro e h
  simp only [RobotMaze.readInt32] at h
  split at h
  · cases h
  · injection h with h
    exact ⟨_, h.symm⟩

/-- A name fails as unreadable, if at all. -/
theorem readName [Named α] (text : String) : ReadsOrUnreadable (readName text : Read α) := by
  intro e h
  simp only [RobotMaze.readName] at h
  split at h
  · cases h
  · injection h with h
    exact ⟨_, h.symm⟩

end ReadsOrUnreadable

/-- The row of a user fails as unreadable, if at all. -/
theorem UserRow.read_error (r : UserRow) : ReadsOrUnreadable r.read := by
  simp only [read, readTimeOpt]
  refine (ReadsOrUnreadable.readTime _).bind fun _ => ?_
  refine (ReadsOrUnreadable.mapM ReadsOrUnreadable.readTime).bind fun _ => ?_
  exact ReadsOrUnreadable.pure _

/-- The row of a session fails as unreadable, if at all. -/
theorem SessionRow.read_error (r : SessionRow) : ReadsOrUnreadable r.read := by
  simp only [read]
  refine (ReadsOrUnreadable.readTime _).bind fun _ => ?_
  refine (ReadsOrUnreadable.mapM ReadsOrUnreadable.readTime).bind fun _ => ?_
  refine (ReadsOrUnreadable.mapM (ReadsOrUnreadable.readInt32 _)).bind fun _ => ?_
  refine (ReadsOrUnreadable.mapM (ReadsOrUnreadable.readInt32 _)).bind fun _ => ?_
  refine (ReadsOrUnreadable.readName _).bind fun _ => ?_
  exact ReadsOrUnreadable.pure _

end RobotMaze
