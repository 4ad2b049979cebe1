import Mathlib.Data.List.Pairwise
import RobotMaze.Proofs.Service.Traffic
import RobotMaze.Proofs.Store.Put
import RobotMaze.Proofs.Text.Pattern
import RobotMaze.Proofs.User.Rules

/-! # Addresses of accounts

    Whether an address is free is asked by the case of all Unicode for the new
    one and by the case of ASCII for the stored ones, and the table itself
    compares to the letter.  The three agree on addresses whose capitals are
    ASCII letters.

    * `IsPlainAddress` — such addresses, with all of ASCII among them;
    * `Table.Addressed` — what the test leaves behind in the table of users;
    * `Event.addressed` — every call keeps that up;
    * `addresses_after` — no two plain addresses are the same in lower case, and
      who asks for one that is taken is told so;
    * `create_accented` — with other capitals it is not so. -/

namespace RobotMaze

open Time (Instant)

/-- The capitals of an address are ASCII letters, as far as it has any. -/
def IsPlainAddress (email : String) : Prop := Text.lower email = Text.asciiLower email

instance (email : String) : Decidable (IsPlainAddress email) :=
  inferInstanceAs (Decidable (_ = _))

/-- In an address of one-byte characters both ways to lower letters agree. -/
theorem isPlainAddress_of_ascii {email : String} (h : ∀ c ∈ email.toList, c.toNat < 128) :
    IsPlainAddress email :=
  Text.isPlain_of_ascii h

/-- The search for either of two addresses would not have found the other one. -/
def AddressesApart (r s : UserRow) : Prop :=
  Text.asciiLower r.email ≠ Text.lower s.email ∨ Text.asciiLower s.email ≠ Text.lower r.email

instance : Std.Symm AddressesApart := ⟨fun _ _ h => h.symm⟩

/-- Plain addresses that were told apart are different in any case. -/
theorem AddressesApart.lower_ne {r s : UserRow} (h : AddressesApart r s)
    (hr : IsPlainAddress r.email) (hs : IsPlainAddress s.email) :
    Text.lower r.email ≠ Text.lower s.email := by
  rcases h with h | h
  · rwa [← hr] at h
  · rw [← hs] at h
    exact h.symm

/-- What the test of addresses leaves behind in the table of users. -/
structure Table.Addressed (users : Table UserRow) : Prop where
  numbered : users.Numbered
  counting : 0 ≤ users.lastId
  positive : ∀ r ∈ users.rows, 0 < r.id
  apart : users.rows.Pairwise AddressesApart

theorem Table.addressed_empty : ({} : Table UserRow).Addressed :=
  ⟨Table.numbered_empty, Int.le_refl 0, fun _ h => (by cases h), List.Pairwise.nil⟩

/-- A row was put into the table whose address is told apart from those of all others. -/
theorem Table.Addressed.put {users users' : Table UserRow} {old : Option UserRow} {new : UserRow}
    (h : users.Addressed) (hput : users.Put old new users')
    (hapart : ∀ r ∈ users.others new.id, AddressesApart new r) : users'.Addressed where
  numbered := hput.numbered h.numbered
  counting := by
    cases hput with
    | added hnext => exact Int.le_trans h.counting (Int.le_of_lt (Table.lastId_lt_of_nextId? hnext))
    | replaced => exact h.counting
  positive := by
    intro r hr
    rcases hput.mem h.numbered hr with rfl | hother
    · cases hput with
      | added hnext => exact Int.lt_of_le_of_lt h.counting (Table.lastId_lt_of_nextId? hnext)
      | replaced hfound hchange =>
          rw [show UserRow.id _ = _ from hchange _]
          exact h.positive _ (Table.find?_eq_some hfound).1
    · exact h.positive r (Table.mem_others.mp hother).1
  apart := hput.pairwise h.numbered (Std.Symm.symm _ _) h.apart hapart

/-- The addresses of two accounts are told apart. -/
theorem Table.Addressed.apart_of_ne {users : Table UserRow} (h : users.Addressed) {r s : UserRow}
    (hr : r ∈ users.rows) (hs : s ∈ users.rows) (hid : r.id ≠ s.id) : AddressesApart r s :=
  h.apart.forall hr hs fun hsame => hid (congrArg UserRow.id hsame)

/-! ## The checks of a name and an address -/

/-- An address that passes its check has no blanks around it. -/
theorem User.checkEmail_ok {email checked : String} (h : checkEmail email = .ok checked) :
    Text.trim checked = checked := by
  rw [eq_trim_of_checkEmail h]
  exact Text.trim_trim email

theorem NewUser.email_of_check {input checked : NewUser} (h : input.check = .ok checked) :
    Text.trim checked.email = checked.email := by
  simp only [check] at h
  obtain ⟨username, -, h⟩ := ok_of_bind h
  obtain ⟨email, hemail, h⟩ := ok_of_bind h
  obtain ⟨u, -, h⟩ := ok_of_bind h
  rw [← Except.ok.inj h]
  exact User.checkEmail_ok hemail

theorem UserChange.email_of_check {c checked : UserChange} (h : c.check = .ok checked) :
    ∀ e ∈ checked.email, Text.trim e = e := by
  intro e he
  rw [eq_of_check h] at he
  obtain ⟨source, -, rfl⟩ := Option.map_eq_some_iff.mp he
  exact Text.trim_trim source

/-- A username is free if no other user has it. -/
theorem Database.countUsername_eq_zero {db : Database} {username : String} {except : Int}
    (htrimmed : Text.trim username = username) : db.countUsername username except = 0
      ↔ ∀ r ∈ db.users.rows, r.id ≠ except → r.username ≠ username := by
  simp only [countUsername]
  rw [List.countP_eq_zero, htrimmed]
  refine forall₂_congr fun r _ => ?_
  simp only [Bool.and_eq_true, beq_iff_eq, bne_iff_ne, not_and]
  exact imp_not_comm

/-- An address is free if no other one is stored that lowers to it. -/
theorem Database.countEmail_eq_zero {db : Database} {email : String} {except : Int}
    (htrimmed : Text.trim email = email) : db.countEmail email except = 0
      ↔ ∀ r ∈ db.users.rows, r.id ≠ except → Text.asciiLower r.email ≠ Text.lower email := by
  simp only [countEmail]
  rw [List.countP_eq_zero, htrimmed]
  refine forall₂_congr fun r _ => ?_
  simp only [Bool.and_eq_true, beq_iff_eq, bne_iff_ne, not_and]
  exact imp_not_comm

namespace Users

section Tests

variable {s : Store} (except : Option Int)

/-- A username that no other account has is free. -/
theorem requireUsername_answer {username : String} (htrimmed : Text.trim username = username)
    (hfree : ∀ r ∈ s.database.users.rows, r.id ≠ except.getD (-1) → r.username ≠ username) :
    (requireUsername username except).answer s = .ok () := by
  have havailable : (isUsernameAvailable username except).answer s = .ok true := by
    simp only [isUsernameAvailable]
    rw [Op.Reads.answer_bind (Op.keeps_query _), Op.answer_query]
    simp only [(Database.countUsername_eq_zero htrimmed).mpr hfree]
    rfl
  simp only [requireUsername]
  rw [Op.Reads.answer_bind (keeps_isUsernameAvailable _ _), havailable]
  rfl

/-- An address that is taken is refused. -/
theorem requireEmail_answer (email : String) : (requireEmail email except).answer s
    = if s.database.countEmail email (except.getD (-1)) = 0 then .ok ()
      else .error (.conflict .emailTaken) := by
  have havailable : (isEmailAvailable email except).answer s
      = .ok (s.database.countEmail email (except.getD (-1)) == 0) := by
    simp only [isEmailAvailable]
    rw [Op.Reads.answer_bind (Op.keeps_query _), Op.answer_query]
    rfl
  simp only [requireEmail]
  rw [Op.Reads.answer_bind (keeps_isEmailAvailable _ _), havailable]
  by_cases hcount : s.database.countEmail email (except.getD (-1)) = 0
  · rw [if_pos hcount, hcount]
    rfl
  · rw [if_neg hcount, beq_eq_false_iff_ne.mpr hcount]
    rfl

/-- An address that was found to be free no other account has in the case that the test goes
    by. -/
theorem requireEmail_ok {email : String} (htrimmed : Text.trim email = email)
    (h : (requireEmail email except).answer s = .ok ()) : ∀ r ∈ s.database.users.rows,
      r.id ≠ except.getD (-1) → Text.asciiLower r.email ≠ Text.lower email := by
  rw [requireEmail_answer] at h
  by_cases hcount : s.database.countEmail email (except.getD (-1)) = 0
  · exact (Database.countEmail_eq_zero htrimmed).mp hcount
  · rw [if_neg hcount] at h
    cases h

/-- An address that another account has in that case is taken. -/
theorem requireEmail_taken {email : String} (htrimmed : Text.trim email = email) {r : UserRow}
    (hr : r ∈ s.database.users.rows) (hid : r.id ≠ except.getD (-1))
    (hsame : Text.asciiLower r.email = Text.lower email) :
    (requireEmail email except).answer s = .error (.conflict .emailTaken) := by
  rw [requireEmail_answer, if_neg fun hcount => ?_]
  exact (Database.countEmail_eq_zero htrimmed).mp hcount r hr hid hsame

/-- A change whose checks have succeeded obeys the rules, and its address is free. -/
theorem checkChange_available {id : Int} {c checked : UserChange} {hashing : Hashing}
    {hash : Option PasswordHash} (h : (checkChange id c hashing).answer s = .ok (checked, hash)) :
    ∀ e ∈ checked.email, ∀ r ∈ s.database.users.rows,
      r.id ≠ id → Text.asciiLower r.email ≠ Text.lower e := by
  obtain ⟨hcheck, -⟩ := checkChange_answer h
  intro e he
  refine requireEmail_ok (some id) (UserChange.email_of_check hcheck e he) ?_
  simp only [checkChange] at h
  obtain ⟨made, hmade, h⟩ := Op.Reads.ok_of_bind (Op.keeps_ofCheck _) h
  obtain rfl : made = checked := Except.ok.inj ((Op.ofCheck_ok hmade).symm.trans hcheck)
  rw [Option.mem_def.mp he] at h
  cases husername : made.username with
  | none =>
      simp only [husername] at h
      obtain ⟨u, hu, -⟩ := Op.Reads.ok_of_bind (keeps_requireEmail _ _) h
      exact hu
  | some username =>
      simp only [husername] at h
      obtain ⟨-, -, h⟩ := Op.Reads.ok_of_bind (keeps_requireUsername _ _) h
      obtain ⟨u, hu, -⟩ := Op.Reads.ok_of_bind (keeps_requireEmail _ _) h
      exact hu

end Tests

/-! ## Every call -/

/-- The test of addresses at every moment. -/
def addressed : Pact Store := .always fun s => s.database.users.Addressed

theorem addressed_sees : addressed.Sees fun s => s.database.users :=
  Pact.always_sees (Q := Table.Addressed)

/-- A change of accounts that leaves addresses as they are. -/
theorem modifyUser_addressed {id : Int} {condition : Database → UserRow → Bool}
    {f : UserRow → UserRow} (hid : ∀ r, Row.id (f r) = Row.id r)
    (hemail : ∀ r, (f r).email = r.email) :
    (Op.change (Database.modifyUser id condition f)).Upholds addressed := by
  refine fun s => Op.honours_change fun t _ hholds n db hchange => ⟨?_, trivial⟩
  obtain ⟨users, hmodify, rfl⟩ := Database.modifyUser_ok hchange
  have ht : t.database.users.Addressed := hholds
  rcases Table.put_of_modify hid hmodify with ⟨-, rfl, -⟩ | ⟨r, hfind, -, -, -, hput⟩
  · exact ht
  refine ht.put hput fun s hs => ?_
  obtain ⟨hs, hother⟩ := Table.mem_others.mp hs
  have hne : r.id ≠ s.id := fun hsame => hother (hsame.symm.trans (hid r).symm)
  have hapart := ht.apart_of_ne (Table.find?_eq_some hfind).1 hs hne
  simp only [AddressesApart, hemail]
  exact hapart

section Operations

variable {s : Store} (hs : s.database.users.Addressed) (hashing : Hashing) (actor : Actor)
  (now : Instant)
include hs

/-- What is still to come leaves accounts alone. -/
theorem ends_addressed {α : Type} {op : Op α} (h : op.Keeps fun s => s.database.users) :
    op.Ends s fun _ t => t.database.users.Addressed :=
  Op.Ends.keeping h fun _ t ht => by
    have hsame : t.database.users = s.database.users := ht
    rw [hsame]
    exact hs

/-- Creating an account leaves addresses apart. -/
theorem create_addressed (input : NewUser) : (create input hashing actor now).Ends s fun _ t =>
    t.database.users.Addressed := by
  simp only [create]
  refine Op.Ends.reading (Op.keeps_ofCheck _) (fun _ _ => hs) fun checked hchecked => ?_
  refine Op.Ends.reading (keeps_requireUsername _ _) (fun _ _ => hs) fun _ _ => ?_
  refine Op.Ends.reading (keeps_requireEmail _ _) (fun _ _ => hs) fun _ hfree => ?_
  refine Op.Ends.reading (keeps_hash _ _) (fun _ _ => hs) fun hash _ => ?_
  refine Op.Ends.changing (fun _ _ => hs) fun row db hdb => ?_
  have htrimmed := NewUser.email_of_check (Op.ofCheck_ok hchecked)
  obtain ⟨users, hinsert, rfl⟩ := Database.insertUser_ok hdb
  obtain ⟨id, rfl, -, hput⟩ := Table.put_of_insert (fun _ => rfl) hinsert
  refine ends_addressed (hs.put hput fun r hr => Or.inr ?_) ?_
  · -- the test leaves out one id, and no account has that one
    have hr := (Table.mem_others.mp hr).1
    refine requireEmail_ok none htrimmed hfree r hr ?_
    have hpositive := hs.positive r hr
    show r.id ≠ -1
    omega
  · have haudit : BesideAudit fun s : Store => s.database.users := ⟨fun _ _ => rfl, fun _ _ => rfl⟩
    grind

theorem ensureFirstAdmin_addressed (config : FirstAdmin) :
    (ensureFirstAdmin config hashing now).Ends s
    fun _ t => t.database.users.Addressed := by
  simp only [ensureFirstAdmin]
  by_cases henabled : (!config.enabled) = true
  · simp only [if_pos henabled]
    exact hs
  simp only [if_neg henabled]
  refine Op.Ends.reading keeps_count (fun _ _ => hs) fun n _ => ?_
  by_cases hn : 0 < n
  · simp only [if_pos hn]
    exact hs
  simp only [if_neg hn]
  exact (create_addressed hs hashing .system now _).bind (fun _ _ h => Op.ends_pure h)
    fun _ _ h => h

/-- Updating an account leaves addresses apart. -/
theorem update_addressed (id : Int) (c : UserChange) : (update id c hashing actor now).Ends s
    fun _ t => t.database.users.Addressed := by
  simp only [update]
  refine Op.Ends.reading (keeps_get id) (fun _ _ => hs) fun current _ => ?_
  refine Op.Ends.reading (keeps_checkChange _ _ _) (fun _ _ => hs) ?_
  rintro ⟨checked, hash⟩ hchecked
  by_cases heffect : (!hasEffect checked) = true
  · simp only [if_pos heffect]
    exact hs
  simp only [if_neg heffect]
  refine Op.Ends.changing (fun _ _ => hs) fun n db hdb => ?_
  obtain ⟨users, hmodify, rfl⟩ := Database.modifyUser_ok hdb
  have hid : ∀ r, Row.id (changeRow checked hash r) = Row.id r := fun _ => rfl
  have husers : users.Addressed := by
    rcases Table.put_of_modify hid hmodify with ⟨-, rfl, -⟩ | ⟨r, hfind, -, -, -, hput⟩
    · exact hs
    obtain ⟨hr, hrid⟩ := Table.find?_eq_some hfind
    refine hs.put hput fun t ht => ?_
    obtain ⟨ht, hother⟩ := Table.mem_others.mp ht
    cases hemail : checked.email with
    | none =>
        simp only [AddressesApart, changeRow, hemail]
        exact hs.apart_of_ne hr ht fun hsame => hother hsame.symm
    | some e =>
        refine Or.inr ?_
        simp only [changeRow, hemail]
        exact checkChange_available hchecked e hemail t ht fun hsame => hother (hsame.trans hrid.symm)
  have haudit : BesideAudit fun s : Store => s.database.users := ⟨fun _ _ => rfl, fun _ _ => rfl⟩
  have hlogins : BesideLogins fun s : Store => s.database.users := fun _ _ => rfl
  exact ends_addressed husers (by grind)

end Operations

section Calls

variable {now : Instant} {s : Store} (hs : s.database.users.Addressed)
include hs

/-- A change of accounts that leaves addresses as they are may be part of a call. -/
theorem ends_of_upholds {α : Type} {op : Op α} (h : op.Upholds addressed) :
    op.Ends s fun _ t => t.database.users.Addressed :=
  ((h s).run hs).1

/-- Only three calls give addresses to accounts, and they test them first. -/
theorem Call.addressed (c : Call) : (c.op now).2.Ends s fun _ t => t.database.users.Addressed := by
  have hsees : Users.addressed.Sees Store.accounts := Pact.Sees.of_part Prod.fst addressed_sees
  have hbeside : BesideLogins fun s => s.database.users := fun _ _ => rfl
  have hend := fun id => (keeps_endLogins hbeside id).upholds addressed_sees
  cases c with
  | create input hashing actor => exact create_addressed hs hashing actor now input
  | update id c hashing actor => exact update_addressed hs hashing actor now id c
  | ensureFirstAdmin config hashing => exact ensureFirstAdmin_addressed hs hashing now config
  | delete id actor =>
      exact ends_of_upholds hs (delete_upholds hsees id actor now
        (modifyUser_addressed (fun _ => rfl) fun _ => rfl) (hend id))
  | reactivate id actor =>
      exact ends_of_upholds hs (reactivate_upholds hsees id actor now
        (modifyUser_addressed (fun _ => rfl) fun _ => rfl))
  | changePassword id password hashing actor =>
      exact ends_of_upholds hs (changePassword_upholds hsees id password hashing actor now
        fun _ => modifyUser_addressed (fun _ => rfl) fun _ => rfl)
  | authenticate username password =>
      exact ends_of_upholds hs (authenticate_upholds username password now
        fun _ => modifyUser_addressed (fun _ => rfl) fun _ => rfl)
  | endLogins id => exact ends_of_upholds hs (hend id)
  | _ => exact ends_addressed hs (Call.keeps_of_reading rfl)

end Calls

/-- Every call leaves addresses told apart. -/
theorem addressed_next {s : Store} (hs : s.database.users.Addressed) (e : Event) :
    (s.next e).database.users.Addressed := by
  have haudit : BesideAudit fun s : Store => s.database.users := ⟨fun _ _ => rfl, fun _ _ => rfl⟩
  obtain ⟨now, c⟩ := e
  cases c with
  | users c => exact c.addressed hs
  | logins c =>
      have hchanges : c.ChangesUphold addressed now := c.changesUphold_of_sees addressed_sees
        fun _ => modifyUser_addressed (fun _ => rfl) fun _ => rfl
      exact ends_of_upholds hs
        (Logins.Call.upholds (Pact.Sees.of_part Prod.fst addressed_sees) hchanges)
  | tracks c => exact ends_addressed hs (c.keeps (fun _ _ => rfl) haudit)
  | audit c => exact ends_addressed hs (c.keeps haudit)
  | games c => exact ends_addressed hs (c.keeps fun _ _ => rfl)
  | reports c => exact ends_addressed hs c.keeps

/-- After every run all addresses are apart as they are stored. -/
theorem addressed_after (trail : Trail) (run : List Event) :
    ((Store.empty trail).after run).database.users.Addressed :=
  Store.after_invariant (P := fun s => s.database.users.Addressed)
    (fun e _ _ hs => addressed_next hs e) Table.addressed_empty

/-! ## Addresses that are taken -/

section Taken

variable {s : Store} {r : UserRow} (hr : r ∈ s.database.users.rows)
include hr

/-- Who creates an account, and is wrong in nothing but the address, is told that it is taken. -/
theorem create_taken {input checked : NewUser} (hcheck : input.check = .ok checked)
    (hname : ∀ t ∈ s.database.users.rows, t.username ≠ checked.username) (hid : r.id ≠ -1)
    (hsame : Text.asciiLower r.email = Text.lower checked.email) (hashing : Hashing) (actor : Actor)
    (now : Instant) :
    (create input hashing actor now).answer s = .error (.conflict .emailTaken) := by
  have hfree := requireUsername_answer none (NewUser.check_ok hcheck).1
    fun t ht _ => hname t ht
  have htaken := requireEmail_taken none (NewUser.email_of_check hcheck) hr hid hsame
  simp only [create]
  rw [Op.Reads.answer_bind (Op.keeps_ofCheck _), Op.answer_ofCheck, hcheck]
  simp only [Except.mapError]
  rw [Op.Reads.answer_bind (keeps_requireUsername _ _), hfree]
  simp only []
  rw [Op.answer_error_bind htaken]

/-- Who changes an account, and is wrong in nothing but the address, is told that it is taken. -/
theorem update_taken {id : Int} {current : User} (hget : (get id).answer s = .ok current)
    {c checked : UserChange} (hcheck : c.check = .ok checked)
    (hname : ∀ n ∈ checked.username, ∀ t ∈ s.database.users.rows, t.id ≠ id → t.username ≠ n)
    (hid : r.id ≠ id) {e : String} (he : e ∈ checked.email)
    (hsame : Text.asciiLower r.email = Text.lower e) (hashing : Hashing) (actor : Actor)
    (now : Instant) : (update id c hashing actor now).answer s = .error (.conflict .emailTaken) := by
  have htaken := requireEmail_taken (some id) (UserChange.email_of_check hcheck e he) hr
    hid hsame
  have hchecked : (checkChange id c hashing).answer s = .error (.conflict .emailTaken) := by
    simp only [checkChange]
    rw [Op.Reads.answer_bind (Op.keeps_ofCheck _), Op.answer_ofCheck, hcheck]
    simp only [Except.mapError, Option.mem_def.mp he]
    cases husername : checked.username with
    | none => exact Op.answer_error_bind htaken
    | some n =>
        have hfree := requireUsername_answer (some id)
          (UserChange.username_of_check hcheck n husername) (hname n husername)
        simp only []
        rw [Op.Reads.answer_bind (keeps_requireUsername _ _), hfree]
        exact Op.answer_error_bind htaken
  simp only [update]
  rw [Op.Reads.answer_bind (keeps_get id), hget]
  exact Op.answer_error_bind hchecked

end Taken

/-- After every run, no two plain addresses are the same in lower case; and an account or a change
    of one that would break this, with everything else about it in order, is refused as a conflict
    about the address.  The new address need not be plain for that. -/
theorem plainAddresses_after (trail : Trail) (run : List Event) :
    let s := (Store.empty trail).after run
    s.database.users.rows.Pairwise (fun r t => IsPlainAddress r.email → IsPlainAddress t.email →
      Text.lower r.email ≠ Text.lower t.email)
    ∧ (∀ r ∈ s.database.users.rows, IsPlainAddress r.email →
      ∀ (input checked : NewUser) (hashing : Hashing) (actor : Actor) (now : Instant),
        input.check = .ok checked →
        (∀ t ∈ s.database.users.rows, t.username ≠ checked.username) →
        Text.lower checked.email = Text.lower r.email →
        (create input hashing actor now).answer s = .error (.conflict .emailTaken))
    ∧ ∀ r ∈ s.database.users.rows, IsPlainAddress r.email →
      ∀ (id : Int) (c checked : UserChange) (hashing : Hashing) (actor : Actor) (now : Instant),
        (∃ current, (get id).answer s = .ok current) → r.id ≠ id → c.check = .ok checked →
        (∀ n ∈ checked.username, ∀ t ∈ s.database.users.rows, t.id ≠ id → t.username ≠ n) →
        ∀ e ∈ checked.email, Text.lower e = Text.lower r.email →
        (update id c hashing actor now).answer s = .error (.conflict .emailTaken) := by
  intro s
  have hs : s.database.users.Addressed := addressed_after trail run
  refine ⟨hs.apart.imp fun h hr ht => h.lower_ne hr ht, ?_, ?_⟩
  · intro r hr hplain input checked hashing actor now hcheck hname hsame
    have hpositive := hs.positive r hr
    have hid : r.id ≠ -1 := by omega
    exact create_taken hr hcheck hname hid (hplain.symm.trans hsame.symm) hashing actor now
  · intro r hr hplain id c checked hashing actor now hget hid hcheck hname e he hsame
    obtain ⟨current, hget⟩ := hget
    exact update_taken hr hget hcheck hname hid he (hplain.symm.trans hsame.symm) hashing actor now

/-- The input for an account with an address. -/
def member (username email : String) : NewUser :=
  { username, email, password := "countess", fullName := none, role := .admin, isActive := true }

/-- Somebody joins. -/
def enrols (username email : String) : Event :=
  ⟨⟨1772366400, 0⟩, .users (.create (member username email) ⟨4, [17]⟩ .system)⟩

/-- Two members with addresses in ASCII. -/
def twoMembers : List Event :=
  [enrols "ada" "Ada@maze.example", enrols "grace" "grace@maze.example"]

/-- Two members, and the address of the first one is refused in other capitals. -/
theorem plainAddresses_after_members :
    let s := (Store.empty .disabled).after twoMembers
    let checked : NewUser := { member "emmy" "ADA@maze.example" with fullName := some "emmy" }
    let change : UserChange := { email := some "aDA@maze.example" }
    ∃ r ∈ s.database.users.rows, IsPlainAddress r.email
      ∧ (member "emmy" "ADA@maze.example").check = .ok checked
      ∧ (∀ t ∈ s.database.users.rows, t.username ≠ checked.username)
      ∧ Text.lower checked.email = Text.lower r.email
      ∧ (create (member "emmy" "ADA@maze.example") ⟨4, [17]⟩ .system ⟨1772366400, 0⟩).answer s
        = .error (.conflict .emailTaken)
      ∧ (∃ current, (get 2).answer s = .ok current) ∧ r.id ≠ 2 ∧ change.check = .ok change
      ∧ (∀ n ∈ change.username, ∀ t ∈ s.database.users.rows, t.id ≠ 2 → t.username ≠ n)
      ∧ (update 2 change ⟨4, [17]⟩ .system ⟨1772366400, 0⟩).answer s
        = .error (.conflict .emailTaken) := by
  intro s checked change
  obtain ⟨-, hcreate, hupdate⟩ := plainAddresses_after .disabled twoMembers
  have hfound : ∃ r, s.database.users.rows.head? = some r ∧ IsPlainAddress r.email ∧ r.id ≠ 2
      ∧ Text.lower checked.email = Text.lower r.email
      ∧ Text.lower "aDA@maze.example" = Text.lower r.email := by
    refine ⟨_, rfl, ?_⟩
    decide +kernel
  obtain ⟨r, hhead, hplain, hid, hnew, hchanged⟩ := hfound
  have hr : r ∈ s.database.users.rows := List.mem_of_mem_head? hhead
  have hcheck : (member "emmy" "ADA@maze.example").check = .ok checked := by decide +kernel
  have hname : ∀ t ∈ s.database.users.rows, t.username ≠ checked.username := by decide +kernel
  have hget : ∃ current, (get 2).answer s = .ok current := ⟨_, rfl⟩
  have hchange : change.check = .ok change := by decide +kernel
  have hkept : ∀ n ∈ change.username, ∀ t ∈ s.database.users.rows, t.id ≠ 2 → t.username ≠ n :=
    fun _ h => nomatch h
  exact ⟨r, hr, hplain, hcheck, hname, hnew,
    hcreate r hr hplain _ checked ⟨4, [17]⟩ .system _ hcheck hname hnew, hget, hid, hchange, hkept,
    hupdate r hr hplain 2 change change ⟨4, [17]⟩ .system _ hget hid hchange hkept _ rfl hchanged⟩

/-- With a capital outside ASCII neither is so: the same address again is refused by the table
    itself, and in small letters it is taken for another one. -/
theorem create_accented :
    let s := (Store.empty .disabled).after [enrols "ada" "É@maze.example"]
    (create (member "grace" "É@maze.example") ⟨4, [17]⟩ .system ⟨1772366400, 0⟩).answer s
        = .error .refused
      ∧ ((s.next (enrols "grace" "é@maze.example")).database.users.rows.map UserRow.email)
        = ["É@maze.example", "é@maze.example"]
      ∧ Text.lower "É@maze.example" = Text.lower "é@maze.example" := by
  refine ⟨?_, ?_, ?_⟩
  · decide +kernel
  · decide +kernel
  · decide +kernel

end Users

end RobotMaze
