import RobotMaze.Proofs.Service.Traffic

/-! # Administrators — one is always left

    Whether an administrator may go is asked of the table at the moment of the
    change, and not of what a call has read before.  So calls that overtake each
    other cannot take the last one away together:

    * `modifyUser_upholds` — what a change of an account has to be like;
    * `upholds_adminStays` — every change that a call makes is;
    * `shared_countActiveRole_pos` — any calls, in any order of their steps. -/

namespace RobotMaze

open Database (isActiveAdmin)
open Time (Instant)

/-- No two accounts share an id, and an active administrator is there. -/
def adminStays : Pact Store :=
  .always fun s => s.database.users.Numbered ∧ ∃ r ∈ s.database.users.rows, isActiveAdmin r = true

theorem Database.countActiveRole_admin_pos {db : Database} :
    0 < db.countActiveRole .admin ↔ ∃ r ∈ db.users.rows, isActiveAdmin r = true :=
  List.countP_pos_iff

theorem adminStays_sees : adminStays.Sees fun s => s.database.users :=
  Pact.always_sees (Q := fun users : Table UserRow =>
    users.Numbered ∧ ∃ r ∈ users.rows, isActiveAdmin r = true)

namespace Users

/-- A new account takes nobody away. -/
theorem insertUser_upholds {make : Int → UserRow} (hmake : ∀ id, Row.id (make id) = id) :
    (Op.change (Database.insertUser make)).Upholds adminStays := by
  refine fun s => Op.honours_change fun t _ hholds row db hchange => ⟨?_, trivial⟩
  obtain ⟨hnumbered, r, hr, hadmin⟩ := hholds
  obtain ⟨users, hinsert, rfl⟩ := Database.insertUser_ok hchange
  refine ⟨hnumbered.insert hmake hinsert, r, ?_, hadmin⟩
  obtain ⟨id, -, -, -, rfl⟩ := Table.insert_ok hinsert
  exact List.mem_append_left _ hr

/-- A change of an account leaves an administrator, if under its condition an administrator either
    stays one or is not the only one. -/
theorem modifyUser_upholds {id : Int} {condition : Database → UserRow → Bool}
    {f : UserRow → UserRow} (hid : ∀ r, Row.id (f r) = Row.id r)
    (hleaves : ∀ db r, condition db r = true → isActiveAdmin r = true →
      isActiveAdmin (f r) = true ∨ (db.users.others r.id).any isActiveAdmin = true) :
    (Op.change (Database.modifyUser id condition f)).Upholds adminStays := by
  refine fun s => Op.honours_change fun t _ hholds n db hchange => ⟨?_, trivial⟩
  obtain ⟨hnumbered, hadmin⟩ := hholds
  obtain ⟨users, hmodify, rfl⟩ := Database.modifyUser_ok hchange
  refine ⟨hnumbered.modify hid hmodify, ?_⟩
  rcases Table.modify_ok hmodify with ⟨-, rfl⟩ | ⟨u, hfind, hcondition, -, -, rfl⟩
  · exact hadmin
  refine hnumbered.exists_changed hfind hadmin fun huadmin => ?_
  -- the administrator who is changed stays one, or another one is left
  have huid : u.id = id := (Table.find?_eq_some hfind).2
  have hother := hleaves t.database u hcondition huadmin
  rw [List.any_eq_true, huid] at hother
  exact hother

/-- Where an active administrator may go, another one is there. -/
theorem any_isActiveAdmin_of_leavesAdmin {db : Database} {r : UserRow}
    (hleaves : db.leavesAdmin r = true) (hadmin : isActiveAdmin r = true) :
    (db.users.others r.id).any isActiveAdmin = true := by
  simp only [isActiveAdmin, Database.userIsActive, Bool.and_eq_true, beq_iff_eq] at hadmin
  obtain ⟨hactive, hrole⟩ := hadmin
  simpa [Database.leavesAdmin, hactive, hrole] using hleaves

/-- An update that does not ask for another administrator makes nobody less than that. -/
theorem isActiveAdmin_changeRow {c checked : UserChange} {r : UserRow} {hash : Option PasswordHash}
    (hkeeps : removesAdmin c = false) (hrole : checked.role = c.role)
    (hactive : checked.isActive = c.isActive) (hadmin : isActiveAdmin r = true) :
    isActiveAdmin (changeRow checked hash r) = true := by
  simp only [isActiveAdmin, Database.userIsActive, Bool.and_eq_true, beq_iff_eq] at hadmin
  simp only [removesAdmin, Bool.or_eq_false_iff, beq_eq_false_iff_ne] at hkeeps
  simp only [isActiveAdmin, Database.userIsActive, changeRow, Bool.and_eq_true, beq_iff_eq]
  rw [hrole, hactive]
  refine ⟨?_, ?_⟩
  · cases hflag : c.isActive with
    | none => exact hadmin.1
    | some active =>
        cases active with
        | true => rfl
        | false => exact absurd hflag hkeeps.1
  · cases hwanted : c.role with
    | none => exact hadmin.2
    | some role =>
        rw [hwanted] at hkeeps
        simpa using hkeeps.2

/-- Deactivating an account under its condition leaves an administrator. -/
theorem deactivate_upholds (id : Int) : (Op.change (Database.modifyUser id
    (fun db row => Database.userIsActive row && Database.leavesAdmin db row)
    fun r => { r with isActive := 0 })).Upholds adminStays := by
  refine modifyUser_upholds (fun _ => rfl) fun db r hcondition hadmin => Or.inr ?_
  exact any_isActiveAdmin_of_leavesAdmin (Bool.and_eq_true_iff.mp hcondition).2 hadmin

/-- Every change of accounts that a call makes leaves an administrator. -/
theorem Call.changesUphold_adminStays (c : Call) (now : Instant) :
    c.ChangesUphold adminStays now := by
  have hbeside : BesideLogins fun s => s.database.users := fun _ _ => rfl
  have hend := fun id => (keeps_endLogins hbeside id).upholds adminStays_sees
  cases c with
  | create | ensureFirstAdmin => exact fun _ _ _ _ => insertUser_upholds fun _ => rfl
  | update id c =>
      refine ⟨fun checked hash hrole hactive => ?_, fun _ => hend id⟩
      refine modifyUser_upholds (fun _ => rfl) fun db r hcondition hadmin => ?_
      cases hremoves : removesAdmin c with
      | false => exact Or.inl (isActiveAdmin_changeRow hremoves hrole hactive hadmin)
      | true =>
          simp only [hremoves, Bool.not_true, Bool.false_or] at hcondition
          exact Or.inr (any_isActiveAdmin_of_leavesAdmin hcondition hadmin)
  | delete id => exact ⟨deactivate_upholds id, hend id⟩
  | reactivate id =>
      refine modifyUser_upholds (fun _ => rfl) fun db r _ hadmin => Or.inl ?_
      exact Bool.and_eq_true_iff.mpr ⟨rfl, (Bool.and_eq_true_iff.mp hadmin).2⟩
  | changePassword | authenticate =>
      exact fun _ => modifyUser_upholds (fun _ => rfl) fun _ _ _ hadmin => Or.inl hadmin
  | endLogins id => exact hend id
  | _ => trivial

/-- Every call leaves an administrator. -/
theorem upholds_adminStays (e : Event) : (e.call.op e.now).2.Upholds adminStays :=
  e.upholds_of_sees adminStays_sees fun c => c.changesUphold_adminStays e.now

/-- As long as there has been an active administrator once, there is one at every moment, whatever
    calls are under way and in whatever order they take their steps. -/
theorem shared_countActiveRole_pos {s : Store} (hnumbered : s.database.users.Numbered)
    (hadmin : 0 < s.database.countActiveRole .admin) (schedule : List Turn) :
    0 < (s.shared schedule).database.countActiveRole .admin := by
  have hholds : adminStays.holds s :=
    ⟨hnumbered, Database.countActiveRole_admin_pos.mp hadmin⟩
  obtain ⟨⟨-, hstays⟩, -⟩ := Store.shared_upholds hholds fun e _ => upholds_adminStays e
  exact Database.countActiveRole_admin_pos.mpr hstays

/-- An administrator is created. -/
def administrator (username : String) : Event :=
  ⟨⟨1772366400, 0⟩, .users (.create
    ⟨username, username ++ "@maze.example", "countess", none, .admin, true⟩ ⟨4, [17]⟩ .system)⟩

/-- Two administrators are created. -/
def twoAdmins : List Event := [administrator "ada", administrator "grace"]

/-- Each of them takes the other one away, one by a role and one by deletion, and neither sees what
    the other is about to do. -/
def duel : List Turn :=
  [.arrive ⟨⟨1772366400, 0⟩, .users (.update 2 { role := some .superAdmin } ⟨4, [17]⟩
      (.user "ada"))⟩,
    .arrive ⟨⟨1772366400, 0⟩, .users (.delete 1 ⟨"grace", none, none⟩)⟩,
    .step 0, .step 1, .step 1, .step 0, .step 1, .step 0]

/-- One of the two administrators is left. -/
theorem shared_countActiveRole_duel :
    let s := (Store.empty .disabled).after twoAdmins
    s.database.users.Numbered ∧ 0 < s.database.countActiveRole .admin
      ∧ 0 < (s.shared duel).database.countActiveRole .admin
      ∧ (s.shared duel).database.countActiveRole .admin = 1 := by
  have hnumbered : ((Store.empty .disabled).after twoAdmins).database.users.Numbered :=
    ⟨by decide +kernel, by decide +kernel⟩
  have hadmin : 0 < ((Store.empty .disabled).after twoAdmins).database.countActiveRole .admin := by
    decide +kernel
  exact ⟨hnumbered, hadmin, shared_countActiveRole_pos hnumbered hadmin duel, by decide +kernel⟩

end Users

end RobotMaze
