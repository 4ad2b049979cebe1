import RobotMaze.Proofs.Service.Recorded
import RobotMaze.Proofs.User.Rules

/-! # Changes of accounts are recorded

    A stored account can be read, before a change and after it.  So no operation on
    accounts gets stuck between its change and the record of it:

    * `Users.Stored` — what holds of the table of users at every moment;
    * `Store.PutAccount` — an account was put into a store;
    * `modify_put` — a change of an account under a condition;
    * `create_recorded`, `update_recorded`, … — how each operation ends. -/

namespace RobotMaze

open Time (Instant)

namespace Users

/-- Two accounts share neither their username nor their address. -/
def Apart (r s : UserRow) : Prop := r.username ≠ s.username ∧ r.email ≠ s.email

instance : Std.Symm Apart := ⟨fun _ _ h => ⟨h.1.symm, h.2.symm⟩⟩

/-- What holds of the table of users at every moment. -/
structure Stored (s : Store) : Prop where
  numbered : s.database.users.Numbered
  sound : ∀ r ∈ s.database.users.rows, r.Sound
  apart : s.database.users.rows.Pairwise Apart

theorem stored_empty (trail : Trail) : Stored (Store.empty trail) :=
  ⟨Table.numbered_empty, fun _ h => (by cases h), List.Pairwise.nil⟩

/-- The table accepts no row that shares its username or its address with another one. -/
theorem apart_of_acceptable {r : UserRow} {others : List UserRow}
    (h : Database.userIsAcceptable r others = true) : ∀ s ∈ others, Apart r s := by
  intro s hs
  simp only [Database.userIsAcceptable, Bool.not_eq_true'] at h
  have hdiffer := List.any_eq_false.mp h s hs
  simp only [Bool.or_eq_true, beq_iff_eq, not_or] at hdiffer
  exact ⟨Ne.symm hdiffer.1, Ne.symm hdiffer.2⟩

/-- An account as an operation leaves it that may give it a password: without one it keeps the hash
    that it has. -/
structure Renewed (password : Option String) (old : Option UserRow) (new : UserRow) : Prop where
  sound : new.Sound
  password_given : ∀ p ∈ password, new.passwordHash.key? = some (passwordKey p)
  password_kept : password = none → ∃ r ∈ old, new.passwordHash = r.passwordHash

theorem event_tells (actor : Actor) (action : String) (kind : AuditAction) (u : User) :
    (event actor action kind u).Tells actor resource u.id :=
  ⟨rfl, rfl, rfl, rfl, rfl, rfl⟩

end Users

/-- An account was put into a store, in place of an older one or not, and logins may have been ended
    with it. -/
def Store.PutAccount (password : Option String) (s : Store) (id : Int) (u : Store) : Prop :=
  ∃ old new users logins, s.database.users.Put old new users ∧ Users.Renewed password old new
    ∧ (∀ r ∈ s.database.users.others new.id, Users.Apart new r) ∧ new.id = id
    ∧ u = { s with database := { s.database with users, logins } }

namespace Users

/-- What was put into the table obeys the rules, so all of the table still does. -/
theorem Stored.put {password : Option String} {s u : Store} {id : Int} (hs : Stored s)
    (h : s.PutAccount password id u) : Stored u := by
  obtain ⟨old, new, users, logins, hput, hrenewed, hapart, -, rfl⟩ := h
  refine ⟨hput.numbered hs.numbered, fun r hr => ?_, ?_⟩
  · rcases hput.mem hs.numbered hr with rfl | hother
    · exact hrenewed.sound
    · exact hs.sound r (Table.mem_others.mp hother).1
  · exact hput.pairwise hs.numbered (Std.Symm.symm _ _) hs.apart hapart

/-! ## Reading -/

theorem get_ok {id : Int} {s : Store} {u : User} (h : (get id).answer s = .ok u) :
    ∃ row, s.database.users.find? id = some row ∧ row.read = .ok u := by
  simp only [get] at h
  obtain ⟨found, hfound, h⟩ := Op.Reads.ok_of_bind (Op.keeps_query _) h
  injection hfound with hfound
  cases found with
  | none => cases h
  | some row =>
      rw [Op.answer_ofRead] at h
      exact ⟨row, hfound, h⟩

/-- An account that is found and can be read is what the store answers. -/
theorem get_of_find {s : Store} {id : Int} {row : UserRow} {u : User}
    (hfind : s.database.users.find? id = some row) (hread : row.read = .ok u) :
    (get id).answer s = .ok u := by
  simp only [get]
  rw [Op.Reads.answer_bind (Op.keeps_query _), Op.answer_query]
  simp only [Database.userById]
  rw [hfind]
  show (Op.ofRead row.read).answer s = _
  rw [Op.answer_ofRead, hread]

/-- What is read under an id has that id. -/
theorem id_of_get {s : Store} {id : Int} {u : User} (h : (get id).answer s = .ok u) :
    u.id = id := by
  obtain ⟨row, hfind, hread⟩ := get_ok h
  exact (congrArg User.id (UserRow.eq_of_read hread)).trans (Table.find?_eq_some hfind).2

/-! ## New accounts -/

section Operations

variable {now : Instant} (actor : Actor) {s : Store}

/-- A new account has the password that was given. -/
theorem create_recorded (hnow : now.HasFourDigitYear) (input : NewUser) (hashing : Hashing) :
    (create input hashing actor now).Ends s (Recorded (fun _ => False)
      (fun u id t => u.id = id ∧ s.PutAccount (some input.password) id t) actor resource now
      s) := by
  simp only [create]
  refine Op.Ends.reading (Op.keeps_ofCheck _) (fun f _ => .failed f) fun checked hchecked => ?_
  refine Op.Ends.reading (keeps_requireUsername _ _) (fun f _ => .failed f) fun _ _ => ?_
  refine Op.Ends.reading (keeps_requireEmail _ _) (fun f _ => .failed f) fun _ _ => ?_
  refine Op.Ends.reading (keeps_hash _ _) (fun f _ => .failed f) fun hash hhash => ?_
  refine Op.Ends.changing (fun f _ => .failed f) fun row db hdb => ?_
  have hcheck := Op.ofCheck_ok hchecked
  obtain ⟨users, hinsert, rfl⟩ := Database.insertUser_ok hdb
  obtain ⟨id, rfl, hacceptable, hput⟩ := Table.put_of_insert (fun _ => rfl) hinsert
  have hsound := newUserRow_sound hcheck hnow (checked.fullName.getD checked.username) hash
    actor.username id
  obtain ⟨u, hread⟩ := hsound.exists_read
  have hid : u.id = id := congrArg User.id (UserRow.eq_of_read hread)
  have hpassword : hash = .ofPassword hashing input.password := by
    rw [hash_ok hhash, (NewUser.check_ok hcheck).2]
  rw [hread]
  refine Op.Ends.noting (Op.ends_pure (.recorded ⟨rfl, _, _, users, _, hput, ?_, ?_, hid.symm, rfl⟩
    (event_tells actor _ _ u)))
  · refine ⟨hsound, fun p hp => ?_, fun h => by cases h⟩
    rw [← Option.some.inj hp]
    exact congrArg PasswordHash.key? hpassword
  · exact fun r hr => apart_of_acceptable hacceptable r (Table.mem_others.mp hr).1

/-- The first account is made by nobody in particular, or it is not needed. -/
theorem ensureFirstAdmin_recorded (hnow : now.HasFourDigitYear) (config : FirstAdmin)
    (hashing : Hashing) : (ensureFirstAdmin config hashing now).Ends s (Recorded
      (fun a => a = none ∧ ¬ (config.enabled = true ∧ s.database.users.rows = []))
      (fun a id t => (∃ u ∈ a, u.id = id) ∧ s.PutAccount (some config.password) id t) .system
      resource now s) := by
  simp only [ensureFirstAdmin]
  by_cases henabled : (!config.enabled) = true
  · simp only [if_pos henabled]
    exact Op.ends_pure (.idle ⟨rfl, fun h => by simp [h.1] at henabled⟩)
  simp only [if_neg henabled]
  refine Op.Ends.reading keeps_count (fun f _ => .failed f) fun n hcount => ?_
  obtain rfl : s.database.users.rows.length = n := Except.ok.inj hcount
  by_cases hn : 0 < s.database.users.rows.length
  · simp only [if_pos hn]
    exact Op.ends_pure (.idle ⟨rfl, fun h => List.length_pos_iff.mp hn h.2⟩)
  simp only [if_neg hn]
  refine (create_recorded .system hnow _ hashing).bind ?_ ?_
  · intro u t h
    cases h with
    | idle nothing => exact nothing.elim
    | recorded changed tells =>
        exact Op.ends_pure (.recorded ⟨⟨u, rfl, changed.1⟩, changed.2⟩ tells)
  · intro f t h
    obtain rfl := h.store_eq_of_error rfl
    exact .failed f

end Operations

/-! ## Changes of an account that is there -/

/-- An account that was put into a store is found there. -/
theorem find?_of_put {password : Option String} {s u : Store} {id : Int} (hs : Stored s)
    (h : s.PutAccount password id u) : ∃ row, u.database.users.find? id = some row := by
  obtain ⟨old, new, users, logins, hput, -, -, rfl, rfl⟩ := h
  exact ⟨new, hput.find? hs.numbered⟩

/-- A stored account can be read, also once a change of it was noted. -/
theorem Stored.exists_get {s : Store} (hs : Stored s) {id : Int} {row : UserRow}
    (hfind : s.database.users.find? id = some row) :
    ∃ u, ∀ t : Store, t.database.users = s.database.users → (get id).answer t = .ok u := by
  obtain ⟨u, hread⟩ := (hs.sound row (Table.find?_eq_some hfind).1).exists_read
  refine ⟨u, fun t ht => get_of_find ?_ hread⟩
  rw [ht]
  exact hfind

section Operations

variable {α : Type} {s : Store} {post : Except Failure α → Store → Prop}
  {password : Option String} {id : Int}

/-- Once an account was put into the store its logins may be ended. -/
theorem endLogins_put {u : Store} {k : Nat → Op α} (hput : s.PutAccount password id u)
    (h : ∀ n v, s.PutAccount password id v → (k n).Ends v post) :
    (endLogins id >>= k).Ends u post := by
  refine Op.Ends.changing (fun e he => by cases he) fun n db hdb => h n _ ?_
  obtain ⟨old, new, users, logins, htable, hrenewed, hapart, hid, rfl⟩ := hput
  injection hdb with hdb
  injection hdb with hn hdb
  rw [← hdb]
  exact ⟨old, new, users, _, htable, hrenewed, hapart, hid, rfl⟩

variable (hs : Stored s)
include hs

/-- A change under a condition: it is refused, or nothing satisfies the condition, or the account
    was put into the store. -/
theorem modify_put (password : Option String) {condition : Database → UserRow → Bool}
    {f : UserRow → UserRow} (hid : ∀ r, Row.id (f r) = Row.id r)
    (hrenewed : ∀ r, r.Sound → Renewed password (some r) (f r)) {k : Nat → Op α}
    (hrefused : ∀ e, post (.error e) s)
    (hnone : (∀ r, s.database.users.find? id = some r → condition s.database r = false) →
      (k 0).Ends s post)
    (hput : ∀ u, s.PutAccount password id u → (k 1).Ends u post) :
    (Op.change (Database.modifyUser id condition f) >>= k).Ends s post := by
  refine Op.Ends.changing (fun e _ => hrefused e) fun n db hdb => ?_
  obtain ⟨users, hmodify, rfl⟩ := Database.modifyUser_ok hdb
  rcases Table.put_of_modify hid hmodify with
    ⟨rfl, rfl, hfalse⟩ | ⟨r, hfind, -, hacceptable, rfl, htable⟩
  · exact hnone hfalse
  · obtain ⟨hr, hrid⟩ := Table.find?_eq_some hfind
    have hnew : (f r).id = id := (hid r).trans hrid
    rw [← hnew] at hacceptable
    exact hput _ ⟨_, _, users, s.database.logins, htable, hrenewed r (hs.sound r hr),
      apart_of_acceptable hacceptable, hnew, rfl⟩

variable {now : Instant} (actor : Actor)

/-- Nothing is left out: a change that gives a field a new value is made. -/
theorem update_recorded (id : Int) (c : UserChange) (hashing : Hashing) :
    (update id c hashing actor now).Ends s (Recorded (fun _ => c.Idle)
      (fun _ i t => i = id ∧ s.PutAccount c.newPassword i t) actor resource now s) := by
  simp only [update]
  refine Op.Ends.reading (keeps_get id) (fun f _ => .failed f) fun current _ => ?_
  refine Op.Ends.reading (keeps_checkChange _ _ _) (fun f _ => .failed f) ?_
  rintro ⟨checked, hash⟩ hchecked
  obtain ⟨hcheck, rfl⟩ := checkChange_answer hchecked
  by_cases heffect : (!hasEffect checked) = true
  · simp only [if_pos heffect]
    exact Op.ends_pure (.idle (idle_of_hasEffect hcheck heffect))
  simp only [if_neg heffect]
  refine modify_put hs c.newPassword ?_ ?_ (fun f => .failed f) ?_ fun u hput => ?_
  · exact fun _ => rfl
  · intro r hr
    refine ⟨changeRow_sound hcheck hr _, fun p hp => ?_, fun hnone => ⟨r, rfl, ?_⟩⟩
    · simp only [changeRow]
      rw [Option.mem_def.mp hp]
      rfl
    · simp only [changeRow]
      rw [hnone]
      rfl
  · intro _
    simp only [if_true]
    split <;> exact .failed _
  · simp only [if_neg (by decide : ¬ 1 = 0)]
    -- what comes after the change is the same whether or not logins are ended first
    have hrest : ∀ v, s.PutAccount c.newPassword id v → (do
        let updated ← get id
        AuditLog.note
          ((event actor "User updated" .update updated).withDetails c.toJson.render) now
        return updated : Op User).Ends v (Recorded (fun _ => c.Idle)
          (fun _ i t => i = id ∧ s.PutAccount c.newPassword i t) actor resource now s) := by
      intro v hv
      obtain ⟨row, hfind⟩ := find?_of_put hs hv
      obtain ⟨updated, hget⟩ := (hs.put hv).exists_get hfind
      refine Op.Ends.reading_of_answer (keeps_get id) (hget v rfl) (Op.Ends.noting ?_)
      have htells := (event_tells actor "User updated" .update updated).withDetails c.toJson.render
      rw [id_of_get (hget v rfl)] at htells
      exact Op.ends_pure (.recorded ⟨rfl, hv⟩ htells)
    by_cases hended : c.isActive = some false
    · simp only [if_pos hended]
      exact endLogins_put hput fun _ v hv => hrest v hv
    · simp only [if_neg hended]
      exact hrest u hput

/-- Only an account that is inactive already is left as it is. -/
theorem delete_recorded (id : Int) :
    (delete id actor now).Ends s
      (Recorded (fun _ => ∃ u, (get id).answer s = .ok u ∧ u.isActive = false)
        (fun _ => s.PutAccount none) actor resource now s) := by
  simp only [delete]
  refine Op.Ends.reading (keeps_get id) (fun f _ => .failed f) fun u hu => ?_
  obtain rfl : u.id = id := id_of_get hu
  by_cases hown : actor.username = some u.username
  · simp only [if_pos hown]
    exact Op.ends_throw (.failed _)
  simp only [if_neg hown]
  by_cases hactive : (!u.isActive) = true
  · simp only [if_pos hactive]
    exact Op.ends_pure (.idle ⟨u, hu, by simpa using hactive⟩)
  simp only [if_neg hactive]
  refine modify_put hs none ?_ ?_ (fun f => .failed f) ?_ fun v hput => ?_
  · exact fun _ => rfl
  · exact fun r hr => ⟨sound_of_flag hr false, (fun p hp => by cases hp), fun _ => ⟨r, rfl, rfl⟩⟩
  · -- no row satisfied the condition; the account that is read again is active as before
    intro _
    simp only [if_true]
    refine Op.Ends.reading_of_answer (keeps_get u.id) hu ?_
    rw [if_pos (by simpa using hactive)]
    exact Op.ends_throw (.failed _)
  · simp only [if_neg (by decide : ¬ 1 = 0)]
    exact endLogins_put hput fun _ w hw =>
      Op.Ends.noted (.recorded hw (event_tells actor _ _ u))

/-- Only an account that is active already is left as it is. -/
theorem reactivate_recorded (id : Int) :
    (reactivate id actor now).Ends s
      (Recorded (fun _ => ∃ u, (get id).answer s = .ok u ∧ u.isActive = true)
        (fun _ => s.PutAccount none) actor resource now s) := by
  simp only [reactivate]
  refine Op.Ends.reading (keeps_get id) (fun f _ => .failed f) fun u hu => ?_
  obtain rfl : u.id = id := id_of_get hu
  by_cases hactive : u.isActive = true
  · rw [if_pos hactive]
    exact Op.ends_pure (.idle ⟨u, hu, hactive⟩)
  rw [if_neg hactive]
  refine modify_put hs none ?_ ?_ (fun f => .failed f) ?_ fun v hput => ?_
  · exact fun _ => rfl
  · exact fun r hr => ⟨sound_of_flag hr true, (fun p hp => by cases hp), fun _ => ⟨r, rfl, rfl⟩⟩
  · -- the account is there, and the change asks for nothing else
    intro hfalse
    obtain ⟨row, hfind, -⟩ := get_ok hu
    cases hfalse row hfind
  · obtain ⟨row, hfind⟩ := find?_of_put hs hput
    obtain ⟨updated, hget⟩ := (hs.put hput).exists_get hfind
    refine Op.Ends.noting (Op.Reads.ends (keeps_get u.id) (hget _ Store.noted_users) ?_)
    exact .recorded hput (event_tells actor _ _ u)

theorem changePassword_recorded (id : Int) (password : String) (hashing : Hashing) :
    (changePassword id password hashing actor now).Ends s (Recorded (fun _ => False)
      (fun _ i t => i = id ∧ s.PutAccount (some password) i t) actor resource now s) := by
  simp only [changePassword]
  refine Op.Ends.reading (Op.keeps_ofCheck _) (fun f _ => .failed f) fun _ _ => ?_
  refine Op.Ends.reading (keeps_get id) (fun f _ => .failed f) fun u hu => ?_
  obtain rfl : u.id = id := id_of_get hu
  refine Op.Ends.reading (keeps_hash _ _) (fun f _ => .failed f) fun hash hhash => ?_
  refine modify_put hs (some password) ?_ ?_ (fun f => .failed f) ?_ fun v hput => ?_
  · exact fun _ => rfl
  · refine fun r hr => ⟨sound_of_hash hr hash, fun p hp => ?_, fun h => by cases h⟩
    rw [← Option.some.inj hp]
    exact congrArg PasswordHash.key? (hash_ok hhash)
  · intro hfalse
    obtain ⟨row, hfind, -⟩ := get_ok hu
    cases hfalse row hfind
  · exact Op.Ends.noted (.recorded ⟨rfl, hput⟩ (event_tells actor _ _ u))

end Operations

end Users

end RobotMaze
