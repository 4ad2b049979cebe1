import RobotMaze.Proofs.Service.Frames
import RobotMaze.Proofs.Store.Pact

/-! # What the service for users keeps to

    An operation on accounts keeps to a pact if the changes that it makes to users
    and logins do, each with what the operation knows when it makes it:

    * `checkChange_honours` — a checked change names the same role and the same
      flag as the one that was asked for;
    * `create_upholds`, `update_upholds`, … — one rule for each operation;
    * `Call.upholds` — any call, from the changes that it makes. -/

namespace RobotMaze

open Time (Instant)

/-- The users and the logins of a store. -/
def Store.accounts (s : Store) : Table UserRow × List LoginRow :=
  (s.database.users, s.database.logins)

theorem besideAudit_accounts : BesideAudit Store.accounts := ⟨fun _ _ => rfl, fun _ _ => rfl⟩

/-- A change that was checked has the role and the flag of the one that was asked for. -/
theorem UserChange.check_ok {c checked : UserChange} (h : c.check = .ok checked) :
    checked.role = c.role ∧ checked.isActive = c.isActive := by
  simp only [check] at h
  obtain ⟨username, -, h⟩ := ok_of_bind h
  obtain ⟨email, -, h⟩ := ok_of_bind h
  cases hpassword : c.newPassword with
  | none =>
      rw [hpassword] at h
      injection h with h
      rw [← h]
      exact ⟨rfl, rfl⟩
  | some password =>
      rw [hpassword] at h
      obtain ⟨u, -, h⟩ := ok_of_bind h
      injection h with h
      rw [← h]
      exact ⟨rfl, rfl⟩

namespace Users

variable {p : Pact Store}

/-- What the checks of a change leave is a change of the same role and the same flag. -/
theorem checkChange_honours (id : Int) (c : UserChange) (hashing : Hashing) (s : Store) :
    (checkChange id c hashing).Honours p s fun checked _ =>
      checked.1.role = c.role ∧ checked.1.isActive = c.isActive := by
  simp only [checkChange]
  refine (Op.honours_ofCheck c.check s).bind ?_
  rintro checked t ⟨hchecked, -⟩
  have hsame := UserChange.check_ok hchecked
  -- whatever else is asked of the store, the checked change is the one that is returned
  have hhash : ∀ t, (do
      let hash ← c.newPassword.mapM (hash hashing)
      return (checked, hash) : Op (UserChange × Option PasswordHash)).Honours p t
        fun checked _ => checked.1.role = c.role ∧ checked.1.isActive = c.isActive := by
    intro t
    have hreads : (c.newPassword.mapM (hash hashing)).Reads :=
      Op.keeps_mapM fun _ => keeps_hash hashing _
    exact (hreads.honours t).bind fun _ _ _ => Op.honours_pure hsame
  have hemail : ∀ email t, (do
      requireEmail email (some id)
      let hash ← c.newPassword.mapM (hash hashing)
      return (checked, hash) : Op (UserChange × Option PasswordHash)).Honours p t
        fun checked _ => checked.1.role = c.role ∧ checked.1.isActive = c.isActive := fun email t =>
    (Op.Reads.honours (keeps_requireEmail email (some id)) t).bind fun _ u _ => hhash u
  have husername := fun username => Op.Reads.honours (p := p)
    (keeps_requireUsername username (some id)) t
  cases checked.username with
  | none =>
      cases checked.email with
      | none => exact hhash t
      | some email => exact hemail email t
  | some username =>
      cases checked.email with
      | none => exact (husername username).bind fun _ u _ => hhash u
      | some email => exact (husername username).bind fun _ u _ => hemail email u

/-- A check leaves the role and the activity of a change. -/
theorem checkChange_ok {id : Int} {c : UserChange} {hashing : Hashing} {s : Store}
    {checked : UserChange × Option PasswordHash}
    (h : (checkChange id c hashing).answer s = .ok checked) :
    checked.1.role = c.role ∧ checked.1.isActive = c.isActive :=
  (Pact.Honoured.run (checkChange_honours (p := .always fun _ => True) id c hashing s) trivial).2.2
    checked h

section Operations

variable (hsees : p.Sees Store.accounts)
include hsees

/-- Creating an account keeps to what the new row keeps to. -/
theorem create_upholds (input : NewUser) (hashing : Hashing) (actor : Actor) (now : Instant)
    (hinsert : ∀ checked fullName hash createdBy, (Op.change (Database.insertUser
      (Database.newUserRow checked fullName hash createdBy now))).Upholds p) :
    (create input hashing actor now).Upholds p := by
  have hnote := fun e => (AuditLog.keeps_note besideAudit_accounts e now).upholds hsees
  simp only [create]
  grind

/-- The change is made under the condition that the operation attaches to it, and logins are ended
    only if the account is to be inactive. -/
theorem update_upholds (id : Int) (c : UserChange) (hashing : Hashing) (actor : Actor)
    (now : Instant)
    (hmodify : ∀ checked hash, checked.role = c.role → checked.isActive = c.isActive →
      (Op.change (Database.modifyUser id
        (fun db row => !removesAdmin c || Database.leavesAdmin db row)
        (changeRow checked hash))).Upholds p)
    (hend : c.isActive = some false → (endLogins id).Upholds p) :
    (update id c hashing actor now).Upholds p := by
  have hnote := fun e => (AuditLog.keeps_note besideAudit_accounts e now).upholds hsees
  intro s
  simp only [update]
  refine (Op.Reads.honours (keeps_get id) s).bind fun current t _ => ?_
  refine (checkChange_honours id c hashing t).bind ?_
  rintro ⟨checked, hash⟩ u ⟨hrole, hactive⟩
  by_cases heffect : (!hasEffect checked) = true
  · simp only [if_pos heffect]
    exact Op.honours_pure trivial
  · simp only [if_neg heffect]
    refine (hmodify checked hash hrole hactive u).bind fun n v _ => ?_
    have hrest : (do
        if n = 0 then
          if removesAdmin c then throw (.conflict .lastAdminRemoved)
          else throw (.notFound .user (toString id))
        if c.isActive = some false then
          let _ ← endLogins id
        let updated ← get id
        AuditLog.note
          ((event actor "User updated" .update updated).withDetails c.toJson.render) now
        return updated : Op User).Upholds p := by
      grind
    exact hrest v

/-- Deactivating an account keeps to what the guarded change keeps to. -/
theorem delete_upholds (id : Int) (actor : Actor) (now : Instant)
    (hmodify : (Op.change (Database.modifyUser id
      (fun db row => Database.userIsActive row && Database.leavesAdmin db row)
      fun r => { r with isActive := 0 })).Upholds p)
    (hend : (endLogins id).Upholds p) : (delete id actor now).Upholds p := by
  have hnote := fun e => (AuditLog.keeps_note besideAudit_accounts e now).upholds hsees
  simp only [delete]
  grind

/-- Reactivating an account keeps to what the change keeps to. -/
theorem reactivate_upholds (id : Int) (actor : Actor) (now : Instant)
    (hmodify : (Op.change (Database.modifyUser id (fun _ _ => true)
      fun r => { r with isActive := 1 })).Upholds p) : (reactivate id actor now).Upholds p := by
  have hnote := fun e => (AuditLog.keeps_note besideAudit_accounts e now).upholds hsees
  simp only [reactivate]
  grind

/-- Setting a password keeps to what a new hash in the row keeps to. -/
theorem changePassword_upholds (id : Int) (password : String) (hashing : Hashing) (actor : Actor)
    (now : Instant)
    (hmodify : ∀ hash, (Op.change (Database.modifyUser id (fun _ _ => true)
      fun r => { r with passwordHash := hash })).Upholds p) :
    (changePassword id password hashing actor now).Upholds p := by
  simp only [changePassword]
  refine Op.upholds_bind (Op.Reads.upholds (Op.keeps_ofCheck _)) fun _ => ?_
  refine Op.upholds_bind (Op.Reads.upholds (keeps_get id)) fun u => ?_
  refine Op.upholds_bind (Op.Reads.upholds (keeps_hash hashing password)) fun hash => ?_
  exact Op.upholds_bind (hmodify hash) fun _ =>
    (AuditLog.keeps_note besideAudit_accounts _ now).upholds hsees

omit hsees in
/-- Checking a password keeps to what the time of the login in the row keeps to. -/
theorem authenticate_upholds (username password : String) (now : Instant)
    (hmodify : ∀ id, (Op.change (Database.modifyUser id (fun _ _ => true)
      fun r => { r with lastLogin := some now.stamp })).Upholds p) :
    (authenticate username password now).Upholds p := by
  simp only [authenticate]
  grind

/-- Creating the first administrator keeps to what the new row keeps to. -/
theorem ensureFirstAdmin_upholds (config : FirstAdmin) (hashing : Hashing) (now : Instant)
    (hinsert : ∀ checked fullName hash createdBy, (Op.change (Database.insertUser
      (Database.newUserRow checked fullName hash createdBy now))).Upholds p) :
    (ensureFirstAdmin config hashing now).Upholds p := by
  have hcreate := fun input => create_upholds hsees input hashing .system now hinsert
  simp only [ensureFirstAdmin]
  grind

end Operations

/-! ## Calls -/

/-- The changes of users and logins that a call makes keep to a pact. -/
def Call.ChangesUphold (p : Pact Store) (now : Instant) : Call → Prop
  | .create _ _ _ | .ensureFirstAdmin _ _ => ∀ checked fullName hash createdBy,
      (Op.change (Database.insertUser
        (Database.newUserRow checked fullName hash createdBy now))).Upholds p
  | .update id c _ _ =>
      (∀ checked hash, checked.role = c.role → checked.isActive = c.isActive →
        (Op.change (Database.modifyUser id
          (fun db row => !removesAdmin c || Database.leavesAdmin db row)
          (changeRow checked hash))).Upholds p)
      ∧ (c.isActive = some false → (Users.endLogins id).Upholds p)
  | .delete id _ =>
      (Op.change (Database.modifyUser id
        (fun db row => Database.userIsActive row && Database.leavesAdmin db row)
        fun r => { r with isActive := 0 })).Upholds p
      ∧ (Users.endLogins id).Upholds p
  | .reactivate id _ =>
      (Op.change (Database.modifyUser id (fun _ _ => true)
        fun r => { r with isActive := 1 })).Upholds p
  | .changePassword id _ _ _ => ∀ hash,
      (Op.change (Database.modifyUser id (fun _ _ => true)
        fun r => { r with passwordHash := hash })).Upholds p
  | .authenticate _ _ => ∀ id,
      (Op.change (Database.modifyUser id (fun _ _ => true)
        fun r => { r with lastLogin := some now.stamp })).Upholds p
  | .endLogins id => (Users.endLogins id).Upholds p
  | _ => True

/-- A call for users keeps to a pact if its changes do. -/
theorem Call.upholds (hsees : p.Sees Store.accounts) {now : Instant} {c : Call}
    (h : c.ChangesUphold p now) : (c.op now).2.Upholds p := by
  cases c with
  | create input hashing actor => exact create_upholds hsees input hashing actor now h
  | update id c hashing actor => exact update_upholds hsees id c hashing actor now h.1 h.2
  | delete id actor => exact delete_upholds hsees id actor now h.1 h.2
  | reactivate id actor => exact reactivate_upholds hsees id actor now h
  | changePassword id password hashing actor =>
      exact changePassword_upholds hsees id password hashing actor now h
  | authenticate username password => exact authenticate_upholds username password now h
  | ensureFirstAdmin config hashing => exact ensureFirstAdmin_upholds hsees config hashing now h
  | endLogins id => exact h
  | _ => exact Op.Keeps.upholds (keeps_of_reading rfl) hsees

end Users

end RobotMaze
