import RobotMaze.Proofs.Login.Opening
import RobotMaze.Proofs.Session.Tracks
import RobotMaze.Proofs.Session.Updated
import RobotMaze.Proofs.Track.Recorded
import RobotMaze.Proofs.User.Recorded

/-! # Updates — what a change leaves alone

    A change names some of the fields of a track or an account.  If it succeeds, the
    one row changes that was meant, and in the fields that were named:

    * `TrackChange.onto`, `UserChange.onto` — the new values in clean form, and the
      old ones in all other fields;
    * `Tracks.Updated`, `Users.Updated` — the row is the only one of any table that
      is different, apart from the logins that end with an account, and the change
      is noted in the audit log;
    * `Tracks.update_updated`, `Users.update_updated` — so ends every update whose
      rows share no id;
    * `Store.updated_after` — what these and the updates of sessions do in every
      store that a run left behind. -/

namespace RobotMaze

open Time (Instant)

/-! ## Tracks -/

/-- A track after a change whose grid has been read.  Name and description are trimmed, a blank
    description is cleared, and the text of the grid is the canonical one. -/
def TrackChange.onto (c : TrackChange) (grid : Option Grid) (now : Instant) (t : Track) : Track :=
  { t with
    name := (c.name.map Text.trim).getD t.name
    gridConfig := (grid.map Grid.render).getD t.gridConfig
    startX := c.startX.getD t.startX
    startY := c.startY.getD t.startY
    heading := c.heading.getD t.heading
    difficulty := c.difficulty.getD t.difficulty
    description := c.description.elim t.description fun given =>
      (given.map Text.trim).filter fun text => text ≠ ""
    isActive := c.isActive.getD t.isActive
    updatedAt := now.stamped }

namespace Tracks

/-- What an update of a track that succeeds does to a store.  Without any field it does nothing;
    else it replaces the row of the track, and what is read from the new row is the changed
    track. -/
inductive Updated (id : Int) (c : TrackChange) (actor : Actor) (now : Instant) (s : Store) :
    Track → Store → Prop where
  | idle {t : Track} (nothing : c = {}) (found : (get id).answer s = .ok t) :
      Updated id c actor now s t s
  | changed {old new : TrackRow} {current : Track} {grid : Option Grid} {tracks : Table TrackRow}
      {u : Store} (something : c ≠ {}) (id_eq : old.id = id)
      (read_old : old.read = .ok current) (grid_read : c.gridConfig.mapM Grid.parse = .ok grid)
      (replaced : s.database.tracks.Replaced old new tracks)
      (read_new : new.read = .ok (c.onto grid now current))
      (noted : { s.database with tracks }.Notes ((event actor "Track updated" .update
        (c.onto grid now current)).withDetails c.toJson.render) now u.database) :
      Updated id c actor now s (c.onto grid now current) u

/-- Only a text of its own is read as one, and a cleared one is missing. -/
theorem readText_cleanDescription (given : Option String) :
    readText (Track.cleanDescription given)
      = (given.map Text.trim).filter fun text => text ≠ "" := by
  have hclean : Track.cleanDescription given = readText (given.map Text.trim) := rfl
  rw [hclean, readText_readText, readText_eq_filter]

section ChangeRow

variable {c : TrackChange} {name : Option String} {grid : Option Grid} {now : Instant}
  {row : TrackRow}

theorem isActive_ne_zero_changeRow :
    ((changeRow c name grid now row).isActive != 0) = c.isActive.getD (row.isActive != 0) := by
  simp only [changeRow]
  cases c.isActive with
  | none => rfl
  | some active => cases active <;> rfl

theorem description_changeRow : readText (changeRow c name grid now row).description
    = c.description.elim (readText row.description) fun given =>
      (given.map Text.trim).filter fun text => text ≠ "" := by
  simp only [changeRow]
  cases c.description with
  | none => rfl
  | some given => exact readText_cleanDescription given

/-- What is read from a changed row is the changed track. -/
theorem read_changeRow {current t : Track} (hcurrent : row.read = .ok current)
    (h : (changeRow c (c.name.map Text.trim) grid now row).read = .ok t) :
    t = c.onto grid now current := by
  obtain ⟨createdAt, updatedAt, hcreatedAt, hupdatedAt, rfl⟩ := TrackRow.fields_of_read hcurrent
  obtain ⟨createdAt', updatedAt', hcreatedAt', hupdatedAt', rfl⟩ := TrackRow.fields_of_read h
  obtain rfl : createdAt' = createdAt := Except.ok.inj (hcreatedAt'.symm.trans hcreatedAt)
  obtain ⟨-, rfl⟩ := readTime_stamp_ok hupdatedAt'
  simp only [TrackChange.onto, isActive_ne_zero_changeRow, description_changeRow]
  rfl

end ChangeRow

/-! ## Updates -/

variable {s : Store}

/-- An update that succeeds has replaced the row of its track, or it names nothing. -/
theorem update_updated (hs : s.database.tracks.Numbered) (id : Int) (c : TrackChange)
    (actor : Actor) (now : Instant) :
    (update id c actor now).Ends s fun r u => ∀ t, r = .ok t → Updated id c actor now s t u := by
  simp only [update]
  refine Op.Ends.reading (keeps_get id) (fun _ _ => forall_ok_of_error) fun current hcurrent => ?_
  refine Op.Ends.reading (keeps_checkChange _ _ _) (fun _ _ => forall_ok_of_error) ?_
  rintro ⟨name, grid⟩ hchecked
  obtain ⟨hname, hgrid, -, -⟩ := checkChange_parts hchecked
  obtain rfl := map_of_mapM (fun _ _ => Track.eq_trim_of_checkName) hname
  by_cases hempty : c = {}
  · simp only [if_pos hempty]
    refine Op.ends_pure fun t ht => ?_
    obtain rfl := Except.ok.inj ht
    exact .idle hempty hcurrent
  simp only [if_neg hempty]
  refine Op.Ends.changing (fun _ _ => forall_ok_of_error) fun n db hdb => ?_
  obtain ⟨tracks, hmodify, rfl⟩ := Database.modifyTrack_ok hdb
  rcases Table.modify_ok hmodify with ⟨rfl, -⟩ | ⟨row, hfind, -, -, rfl, rfl⟩
  · -- no row was changed, which is a failure of either kind
    simp only [if_true]
    split <;> exact forall_ok_of_error
  · simp only [if_neg (by decide : ¬ 1 = 0)]
    refine Op.Ends.reading (keeps_get id) (fun _ _ => forall_ok_of_error) fun updated hupdated => ?_
    refine Op.Ends.noting (Op.ends_pure fun t ht => ?_)
    obtain rfl := Except.ok.inj ht
    obtain ⟨old, hold, hread⟩ := get_ok hcurrent
    obtain rfl : old = row := Option.some.inj (hold.symm.trans hfind)
    obtain ⟨new, hnew, hreadNew⟩ := get_ok hupdated
    -- what is read after the change is the changed row, for it has kept its id
    obtain rfl : new = changeRow c (c.name.map Text.trim) grid now old :=
      Option.some.inj (hnew.symm.trans (Table.find?_changed_self (fun _ => rfl) hold))
    obtain rfl := read_changeRow hread hreadNew
    exact .changed hempty (Table.find?_eq_some hold).2 hread hgrid (hs.replaced _ hold) hreadNew
      (Store.noted_database { s with database := { s.database with tracks := _ } } _ now)

end Tracks

/-! ## Accounts -/

/-- An account after a change.  Username, address and full name are trimmed; a blank password or
    full name changes nothing, and another password is hashed. -/
def UserChange.onto (c : UserChange) (hashing : Hashing) (u : User) : User :=
  { u with
    username := (c.username.map Text.trim).getD u.username
    email := (c.email.map Text.trim).getD u.email
    passwordHash := (c.password.filter fun p => !Text.isBlankText p).elim u.passwordHash
      (PasswordHash.ofPassword hashing)
    fullName := ((c.fullName.map Text.trim).filter fun name => name ≠ "").getD u.fullName
    role := c.role.getD u.role
    isActive := c.isActive.getD u.isActive }

namespace Users

/-- What an update of an account that succeeds does to a store.  Where no field gets a new value it
    does nothing.  Else it replaces the row of the account, and what is read from the new row is the
    changed account; where it makes it inactive, it removes its logins and no others. -/
inductive Updated (id : Int) (c : UserChange) (hashing : Hashing) (actor : Actor) (now : Instant)
    (s : Store) : User → Store → Prop where
  | idle {current : User} (nothing : c.Idle) (found : (get id).answer s = .ok current) :
      Updated id c hashing actor now s current s
  | changed {old new : UserRow} {current : User} {users : Table UserRow} {logins : List LoginRow}
      {u : Store} (something : ¬c.Idle) (id_eq : old.id = id) (read_old : old.read = .ok current)
      (replaced : s.database.users.Replaced old new users)
      (read_new : new.read = .ok (c.onto hashing current))
      (ended : logins = if c.isActive = some false then
        s.database.logins.filter fun r => r.userId ≠ id else s.database.logins)
      (noted : { s.database with users, logins }.Notes ((event actor "User updated" .update
        (c.onto hashing current)).withDetails c.toJson.render) now u.database) :
      Updated id c hashing actor now s (c.onto hashing current) u

section ChangeRow

variable {c : UserChange} {hash : Option PasswordHash} {row : UserRow}

theorem isActive_ne_zero_changeRow :
    ((changeRow c hash row).isActive != 0) = c.isActive.getD (row.isActive != 0) := by
  simp only [changeRow]
  cases c.isActive with
  | none => rfl
  | some active => cases active <;> rfl

theorem fullName_changeRow : (changeRow c hash row).fullName
    = ((c.fullName.map Text.trim).filter fun name => name ≠ "").getD row.fullName := by
  simp only [changeRow, NewUser.cleanName_eq]

/-- What is read from a changed row is the changed account. -/
theorem read_changeRow (hashing : Hashing) {checked : UserChange} (hcheck : c.check = .ok checked)
    {current : User} (hcurrent : row.read = .ok current) :
    (changeRow checked (c.newPassword.map (PasswordHash.ofPassword hashing)) row).read
      = .ok (c.onto hashing current) := by
  obtain ⟨createdAt, lastLogin, hcreatedAt, hlastLogin, rfl⟩ := UserRow.fields_of_read hcurrent
  have hhash : (changeRow checked (c.newPassword.map (PasswordHash.ofPassword hashing))
      row).passwordHash
        = c.newPassword.elim row.passwordHash (PasswordHash.ofPassword hashing) := by
    show (c.newPassword.map (PasswordHash.ofPassword hashing)).getD row.passwordHash = _
    cases c.newPassword <;> rfl
  simp only [UserRow.read, isActive_ne_zero_changeRow, fullName_changeRow, hhash]
  -- the times stay in the row, so they are read as before
  show (readTime row.createdAt >>= fun _ => readTimeOpt row.lastLogin >>= _) = _
  rw [hcreatedAt, hlastLogin, UserChange.eq_of_check hcheck]
  rfl

end ChangeRow

/-! ## Updates -/

variable {s : Store}

/-- What comes after the change of a row, whether or not logins were ended first: the account is
    read back as the changed one, and this is noted. -/
theorem noteUpdated_updated (hs : s.database.users.Numbered) {id : Int} {old : UserRow}
    {current : User} {c checked : UserChange} (hold : s.database.users.find? id = some old)
    (hread : old.read = .ok current) (hcheck : c.check = .ok checked) (hsomething : ¬c.Idle)
    {logins : List LoginRow} (hlogins : logins = if c.isActive = some false then
      s.database.logins.filter fun r => r.userId ≠ id else s.database.logins)
    (hashing : Hashing) (actor : Actor) (now : Instant) :
    (do
      let updated ← get id
      AuditLog.note ((event actor "User updated" .update updated).withDetails c.toJson.render) now
      return updated : Op User).Ends
        { s with database := { s.database with
          users := s.database.users.changed id
            (changeRow checked (c.newPassword.map (PasswordHash.ofPassword hashing)))
          logins } }
        fun r u => ∀ account, r = .ok account → Updated id c hashing actor now s account u := by
  have hchanged : (s.database.users.changed id
      (changeRow checked (c.newPassword.map (PasswordHash.ofPassword hashing)))).find? id
        = some (changeRow checked (c.newPassword.map (PasswordHash.ofPassword hashing)) old) :=
    Table.find?_changed_self (fun _ => rfl) hold
  have hnew := read_changeRow hashing hcheck hread
  refine Op.Ends.reading_of_answer (keeps_get id) (get_of_find hchanged hnew) ?_
  refine Op.Ends.noting (Op.ends_pure fun account haccount => ?_)
  obtain rfl := Except.ok.inj haccount
  exact .changed hsomething (Table.find?_eq_some hold).2 hread (hs.replaced _ hold) hnew hlogins
    (Store.noted_database { s with database := { s.database with users := _, logins } } _ now)

/-- An update that succeeds has replaced the row of its account, or it gives no new value. -/
theorem update_updated (hs : s.database.users.Numbered) (id : Int) (c : UserChange)
    (hashing : Hashing) (actor : Actor) (now : Instant) :
    (update id c hashing actor now).Ends s fun r u =>
      ∀ account, r = .ok account → Updated id c hashing actor now s account u := by
  simp only [update]
  refine Op.Ends.reading (keeps_get id) (fun _ _ => forall_ok_of_error) fun current hcurrent => ?_
  refine Op.Ends.reading (keeps_checkChange _ _ _) (fun _ _ => forall_ok_of_error) ?_
  rintro ⟨checked, hash⟩ hchecked
  obtain ⟨hcheck, rfl⟩ := checkChange_answer hchecked
  by_cases heffect : (!hasEffect checked) = true
  · simp only [if_pos heffect]
    refine Op.ends_pure fun account haccount => ?_
    obtain rfl := Except.ok.inj haccount
    exact .idle (idle_of_hasEffect hcheck heffect) hcurrent
  simp only [if_neg heffect]
  have hsomething : ¬c.Idle := (hasEffect_iff hcheck).mp (by simpa using heffect)
  refine Op.Ends.changing (fun _ _ => forall_ok_of_error) fun n db hdb => ?_
  obtain ⟨users, hmodify, rfl⟩ := Database.modifyUser_ok hdb
  rcases Table.modify_ok hmodify with ⟨rfl, -⟩ | ⟨row, hfind, -, -, rfl, rfl⟩
  · -- no row was changed, which is a failure of either kind
    simp only [if_true]
    split <;> exact forall_ok_of_error
  simp only [if_neg (by decide : ¬ 1 = 0)]
  obtain ⟨old, hold, hread⟩ := get_ok hcurrent
  obtain rfl : old = row := Option.some.inj (hold.symm.trans hfind)
  by_cases hended : c.isActive = some false
  · simp only [if_pos hended]
    refine Op.Ends.changing (fun e he => by cases he) fun n db hdb => ?_
    obtain ⟨-, rfl⟩ := Prod.mk.inj (Except.ok.inj hdb)
    refine noteUpdated_updated hs hold hread hcheck hsomething ?_ hashing actor now
    rw [if_pos hended]
    exact List.filter_congr fun r _ => decide_not.symm
  · simp only [if_neg hended]
    exact noteUpdated_updated hs hold hread hcheck hsomething (if_neg hended).symm hashing actor
      now

end Users

/-! ## Every run -/

theorem Games.written_after (trail : Trail) (run : List Event) :
    ∀ r ∈ ((Store.empty trail).after run).database.sessions.rows, r.Written :=
  Store.after_invariant (P := fun s => ∀ r ∈ s.database.sessions.rows, r.Written)
    (fun e _ s hs => (next_writes s e).written hs) fun _ h => nomatch h

/-- An update of a track, an account or a session that succeeds in a store that a run left behind
    changes the fields that it names, in their clean form, and leaves everything else as it is. -/
theorem Store.updated_after (trail : Trail) (run : List Event) :
    let s := (Store.empty trail).after run
    (∀ id c actor now t, (Tracks.update id c actor now).answer s = .ok t →
      Tracks.Updated id c actor now s t ((Tracks.update id c actor now).run s).2)
    ∧ (∀ id c hashing actor now u, (Users.update id c hashing actor now).answer s = .ok u →
      Users.Updated id c hashing actor now s u ((Users.update id c hashing actor now).run s).2)
    ∧ ∀ sessionId report now game, (Games.update sessionId report now).answer s = .ok game →
      Games.Updated sessionId report now s game ((Games.update sessionId report now).run s).2 := by
  intro s
  obtain ⟨htracks, hsessions, -⟩ := onTracks_shared trail run []
  obtain ⟨husers, -⟩ := flagged_after trail run
  exact ⟨fun id c actor now => Tracks.update_updated htracks id c actor now,
    fun id c hashing actor now => Users.update_updated husers id c hashing actor now,
    fun sessionId report now =>
      Games.update_updated hsessions (Games.written_after trail run) sessionId report now⟩

/-- A track with an account and a visitor, whose browser does not say what it is. -/
def furnished : List Event :=
  [⟨⟨1772366400, 0⟩,
      .tracks (.create ⟨"Corridor", Grid.corridor.render, 0, 0, .east, none, some "long"⟩ {})⟩,
    ⟨⟨1772366400, 0⟩, .users (.create
      ⟨"ada", "ada@maze.example", "countess", some "Ada", .superAdmin, true⟩ ⟨4, [17]⟩ {})⟩,
    ⟨⟨1772366400, 0⟩, .games (.start 1 "visit" { userAgent := some "" })⟩]

/-- The track under another name and without a description. -/
def passage : Track :=
  { id := 1, name := "Passage", gridConfig := Grid.corridor.render, startX := 0, startY := 0,
    heading := .east, createdAt := ⟨1772366400, 0⟩, updatedAt := ⟨1772366460, 7000000⟩,
    createdBy := none, isActive := true, difficulty := 1, description := none }

/-- The account once it is inactive. -/
def formerMember : User :=
  { id := 1, username := "ada", passwordHash := .ofPassword ⟨4, [17]⟩ "countess",
    email := "ada@maze.example", fullName := "Ada", role := .superAdmin, isActive := false,
    createdAt := ⟨1772366400, 0⟩, lastLogin := none, createdBy := none }

/-- The session once it is won. -/
def wonVisit : GameSession :=
  { Games.opened "visit" 1 5 {} ⟨1772366400, 0⟩ with
    id := 1, status := .success, device := .desktop, endTime := some ⟨1772366460, 7000000⟩,
    executionTime := some 900 }

/-- A track gets a name without blanks and loses its text, an account keeps its name and becomes
inactive, and a session is won. -/
theorem updated_after_furnished :
    let s := (Store.empty .disabled).after furnished
    let now : Instant := ⟨1772366460, 7654321⟩
    let rename : TrackChange := { name := some " Passage ", description := some (some " ") }
    let dismiss : UserChange := { fullName := some " ", isActive := some false }
    let win : ProgressReport :=
      { status := some .success, executionTime := some 900, screen := some "", errorX := some 3 }
    ((Tracks.update 1 rename {} now).answer s = .ok passage
        ∧ Tracks.Updated 1 rename {} now s passage ((Tracks.update 1 rename {} now).run s).2)
      ∧ ((Users.update 1 dismiss ⟨4, [18]⟩ {} now).answer s = .ok formerMember
        ∧ Users.Updated 1 dismiss ⟨4, [18]⟩ {} now s formerMember
          ((Users.update 1 dismiss ⟨4, [18]⟩ {} now).run s).2)
      ∧ (Games.update "visit" win now).answer s = .ok wonVisit
        ∧ Games.Updated "visit" win now s wonVisit ((Games.update "visit" win now).run s).2 := by
  intro s now rename dismiss win
  obtain ⟨hrename, hdismiss, hwin⟩ := Store.updated_after .disabled furnished
  have hpassage : (Tracks.update 1 rename {} now).answer s = .ok passage := by decide +kernel
  have hformer : (Users.update 1 dismiss ⟨4, [18]⟩ {} now).answer s = .ok formerMember := by
    decide +kernel
  have hwon : (Games.update "visit" win now).answer s = .ok wonVisit := by decide +kernel
  exact ⟨⟨hpassage, hrename _ _ _ _ _ hpassage⟩, ⟨hformer, hdismiss _ _ _ _ _ _ hformer⟩,
    hwon, hwin _ _ _ _ hwon⟩

end RobotMaze
