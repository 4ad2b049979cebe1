import RobotMaze.Proofs.User.Life

/-! # Passwords over a run

    Whoever knows the password of an account is let in as long as the account is
    active, whatever else has happened since it was set.  Of a password only its
    key counts, so a password that goes on after 72 bytes is not the only one:

    * `takeWhile_passwordKey` — the key of a plain password is all of it;
    * `password_after` — an account keeps its password until it is given another
      one;
    * `authenticate_after` — who is let in after a run. -/

namespace RobotMaze

open Time (Instant)

/-! ## Keys -/

/-- A password of at most 72 bytes, none of them NUL. -/
def IsPlainPassword (password : String) : Prop :=
  password.toUTF8.toList.length ≤ passwordKeyLength ∧ 0 ∉ password.toUTF8.toList

instance (password : String) : Decidable (IsPlainPassword password) :=
  inferInstanceAs (Decidable (_ ∧ _))

/-- Reading the bytes of an array from a place on. -/
theorem toList_loop (bytes : ByteArray) (i : Nat) (read : List UInt8) :
    ByteArray.toList.loop bytes i read = read.reverse ++ bytes.data.toList.drop i := by
  fun_induction ByteArray.toList.loop bytes i read with
  | case1 i read hsize ih =>
      have hbyte : bytes.data.toList.drop i = bytes.get! i :: bytes.data.toList.drop (i + 1) := by
        rw [List.drop_eq_getElem_cons (show i < bytes.data.toList.length from hsize)]
        simp only [ByteArray.get!, Array.getElem_toList]
        rw [getElem!_pos bytes.data i hsize]
      rw [ih, hbyte, List.reverse_cons, List.append_assoc, List.singleton_append]
  | case2 i read hsize =>
      have hend : bytes.data.toList.length ≤ i := Nat.le_of_not_lt hsize
      rw [List.drop_eq_nil_of_le hend, List.append_nil]

/-- Texts of the same bytes are the same. -/
theorem eq_of_utf8 {p q : String} (h : p.toUTF8.toList = q.toUTF8.toList) : p = q := by
  have hlist : ∀ bytes : ByteArray, bytes.toList = bytes.data.toList := fun bytes => by
    rw [ByteArray.toList, toList_loop]
    rfl
  rw [hlist, hlist] at h
  exact String.toByteArray_inj.mp (ByteArray.ext (Array.toList_inj.mp h))

/-- The bytes of a plain password are those of its key up to the first NUL. -/
theorem takeWhile_passwordKey {password : String} (h : IsPlainPassword password) :
    (passwordKey password).takeWhile (· ≠ 0) = password.toUTF8.toList := by
  obtain ⟨hlength, hnul⟩ := h
  simp only [passwordKey, repeated]
  generalize password.toUTF8.toList = bytes at hlength hnul
  have hkey : ((List.replicate passwordKeyLength (bytes ++ [0])).flatten).take passwordKeyLength
      = bytes ++ (0 :: (List.replicate 71 (bytes ++ [0])).flatten).take
        (passwordKeyLength - bytes.length) := by
    show ((List.replicate (71 + 1) (bytes ++ [0])).flatten).take passwordKeyLength = _
    rw [List.replicate_succ, List.flatten_cons, List.append_assoc, List.take_append,
      List.take_of_length_le hlength]
    rfl
  have hnonzero : ∀ b ∈ bytes, decide (b ≠ 0) = true := fun b hb =>
    decide_eq_true fun hzero => hnul (hzero ▸ hb)
  rw [hkey, List.takeWhile_append_of_pos hnonzero]
  -- what follows the password is a NUL, unless the key is full
  cases passwordKeyLength - bytes.length with
  | zero => exact List.append_nil _
  | succ n => exact List.append_nil _

/-- Plain passwords of the same key are the same. -/
theorem passwordKey_inj {p q : String} (hp : IsPlainPassword p) (hq : IsPlainPassword q) :
    passwordKey q = passwordKey p ↔ q = p := by
  refine ⟨fun h => eq_of_utf8 ?_, fun h => congrArg passwordKey h⟩
  rw [← takeWhile_passwordKey hp, ← takeWhile_passwordKey hq, h]

/-! ## Runs -/

/-- No call of a run gives an account a password. -/
def Store.KeepsPassword (s : Store) (id : Int) : List Event → Prop
  | [] => True
  | e :: rest => (∀ p, ¬ e.SetsPassword s id p) ∧ (s.next e).KeepsPassword id rest

namespace Users

variable {s : Store} {id : Int} {gives : Int → String → Prop} {users : Table UserRow}

theorem Step.password_given (h : Step gives s users) (hs : Stored s) {p : String}
    (hp : gives id p) : ∃ row, users.find? id = some row
      ∧ row.passwordHash.key? = some (passwordKey p) := by
  cases h with
  | same hnone => exact (hnone id p hp).elim
  | put hput honly =>
      obtain ⟨rfl, rfl⟩ := (honly id p).mp hp
      obtain ⟨old, new, users, logins, htable, hrenewed, -, rfl, rfl⟩ := hput
      exact ⟨new, htable.find? hs.numbered, hrenewed.password_given p rfl⟩

theorem Step.password_kept (h : Step gives s users) (hs : Stored s) (hnone : ∀ p, ¬ gives id p)
    {row : UserRow} (hrow : s.database.users.find? id = some row) :
    ∃ row', users.find? id = some row' ∧ row'.passwordHash = row.passwordHash := by
  cases h with
  | same => exact ⟨row, hrow, rfl⟩
  | @put password changed u hput honly =>
      obtain ⟨old, new, users, logins, htable, hrenewed, -, rfl, rfl⟩ := hput
      by_cases hid : id = new.id
      · subst hid
        have hpassword : password = none := by
          cases password with
          | none => rfl
          | some p => exact (hnone p ((honly _ p).mpr ⟨rfl, rfl⟩)).elim
        obtain ⟨r, rfl, hhash⟩ := hrenewed.password_kept hpassword
        obtain rfl : r = row := Option.some.inj (htable.find?_old.symm.trans hrow)
        exact ⟨new, htable.find? hs.numbered, hhash⟩
      · exact ⟨row, (htable.find?_other hid).trans hrow, rfl⟩

/-- An account keeps its password until it is given another one. -/
theorem password_after (hs : Stored s) {p : String} {run : List Event}
    (hclock : ∀ e ∈ run, e.now.HasFourDigitYear) (hkeeps : s.KeepsPassword id run)
    (hrow : ∃ row, s.database.users.find? id = some row
      ∧ row.passwordHash.key? = some (passwordKey p)) :
    ∃ row, (s.after run).database.users.find? id = some row
      ∧ row.passwordHash.key? = some (passwordKey p) := by
  induction run generalizing s with
  | nil => exact hrow
  | cons e rest ih =>
      have he := hclock e List.mem_cons_self
      obtain ⟨row, hfind, hhash⟩ := hrow
      obtain ⟨row', hfind', hhash'⟩ := (Event.users_step hs he).password_kept hs hkeeps.1 hfind
      exact ih (hs.next he) (fun f hf => hclock f (List.mem_cons_of_mem e hf)) hkeeps.2
        ⟨row', hfind', (congrArg PasswordHash.key? hhash').trans hhash⟩

/-- An account is found under its own username. -/
theorem Stored.userByName (hs : Stored s) {row : UserRow}
    (hfind : s.database.users.find? id = some row) :
    s.database.userByName row.username = some row := by
  have hrow := (Table.find?_eq_some hfind).1
  have htrim := (hs.sound row hrow).username_trimmed
  cases hfound : s.database.userByName row.username with
  | none =>
      have hother := List.find?_eq_none.mp hfound row hrow
      exact absurd (beq_iff_eq.mpr htrim.symm) hother
  | some other =>
      have hname : other.username = row.username := by
        have htest := List.find?_some hfound
        rw [← htrim]
        exact beq_iff_eq.mp htest
      by_contra hdifferent
      have hne : other ≠ row := fun h => hdifferent (congrArg some h)
      exact (hs.apart.forall (List.mem_of_find?_eq_some hfound) hrow hne).1 hname

/-- An account lets in whoever it admits, and nobody else. -/
theorem authenticate_answer (hs : Stored s) {row : UserRow}
    (hfind : s.database.users.find? id = some row) (password : String) (now : Instant) :
    (∃ u, (authenticate row.username password now).answer s = .ok u) ↔ row.Admits password := by
  have hentry := authenticate_entry hs row.username password now
  have hrow := hs.userByName hfind
  simp only [Op.Ends] at hentry
  generalize (authenticate row.username password now).answer s = r at hentry
  generalize ((authenticate row.username password now).run s).2 = t at hentry
  cases hentry with
  | refused wrong => exact ⟨fun h => (by cases h.choose_spec), fun h => (wrong row hrow h).elim⟩
  | admitted found admits =>
      obtain rfl := Option.some.inj (hrow.symm.trans found)
      exact ⟨fun _ => admits, fun _ => ⟨_, rfl⟩⟩

/-- Once an account was given a password, and until it is given another one, it lets in exactly
    those who know the key of that password, while it is active.  A plain password is told from all
    other ones that are plain. -/
theorem authenticate_after (trail : Trail) {before later : List Event} {e : Event} {p : String}
    (hclock : ∀ f ∈ before ++ e :: later, f.now.HasFourDigitYear)
    (hset : e.SetsPassword ((Store.empty trail).after before) id p)
    (hkept : (((Store.empty trail).after before).next e).KeepsPassword id later) :
    let s := (Store.empty trail).after (before ++ e :: later)
    ∃ row, s.database.users.find? id = some row ∧ ∀ q now,
      ((∃ u, (authenticate row.username q now).answer s = .ok u)
          ↔ row.isActive = 1 ∧ passwordKey q = passwordKey p)
        ∧ (IsPlainPassword p → IsPlainPassword q →
          ((∃ u, (authenticate row.username q now).answer s = .ok u)
            ↔ row.isActive = 1 ∧ q = p)) := by
  have hbefore := stored_after trail fun f hf => hclock f (List.mem_append_left _ hf)
  have he := hclock e (List.mem_append_right _ List.mem_cons_self)
  have hlater : ∀ f ∈ later, f.now.HasFourDigitYear := fun f hf =>
    hclock f (List.mem_append_right _ (List.mem_cons_of_mem e hf))
  have hgiven := (Event.users_step hbefore he).password_given hbefore hset
  obtain ⟨row, hfind, hhash⟩ := password_after (hbefore.next he) hlater hkept hgiven
  have hstored := (hbefore.next he).after hlater
  intro s
  have hs : s = (((Store.empty trail).after before).next e).after later :=
    Store.after_append _ before (e :: later)
  rw [hs]
  refine ⟨row, hfind, fun q now => ?_⟩
  have hanswer : (∃ u, (authenticate row.username q now).answer
      ((((Store.empty trail).after before).next e).after later) = .ok u)
        ↔ row.isActive = 1 ∧ passwordKey q = passwordKey p := by
    rw [authenticate_answer hstored hfind]
    simp only [UserRow.Admits, hhash, Option.some.injEq]
    exact and_congr_right fun _ => eq_comm
  exact ⟨hanswer, fun hp hq => hanswer.trans (and_congr_right fun _ => passwordKey_inj hp hq)⟩

/-- An account with a password. -/
def joins (password : String) : Event :=
  ⟨⟨1772366400, 0⟩, .users (.create
    ⟨"grace", "grace@maze.example", password, none, .admin, true⟩ ⟨4, [17]⟩ .system)⟩

/-- She is given another password. -/
def changes : Event :=
  ⟨⟨1772366460, 0⟩, .users (.changePassword 1 "debugging" ⟨4, [18]⟩ (.user "grace"))⟩

/-- She changes her name, somebody tries to get in, and a blank password changes nothing. -/
def afterwards : List Event :=
  [⟨⟨1772366520, 0⟩, .users (.update 1 { fullName := some "Grace" } ⟨4, [19]⟩ (.user "grace"))⟩,
    ⟨⟨1772366580, 0⟩, .users (.authenticate "grace" "compiling")⟩,
    ⟨⟨1772366640, 0⟩, .users (.update 1 { password := some "  " } ⟨4, [20]⟩ (.user "grace"))⟩]

/-- Only the password that she was given lets her in. -/
theorem authenticate_after_change :
    let s := (Store.empty .disabled).after ([joins "compiling"] ++ changes :: afterwards)
    (∀ f ∈ [joins "compiling"] ++ changes :: afterwards, f.now.HasFourDigitYear)
      ∧ changes.SetsPassword ((Store.empty .disabled).after [joins "compiling"]) 1 "debugging"
      ∧ (((Store.empty .disabled).after [joins "compiling"]).next changes).KeepsPassword 1
        afterwards
      ∧ IsPlainPassword "debugging"
      ∧ ∃ row, s.database.users.find? 1 = some row ∧ ∀ q now,
        ((∃ u, (authenticate row.username q now).answer s = .ok u)
            ↔ row.isActive = 1 ∧ passwordKey q = passwordKey "debugging")
          ∧ (IsPlainPassword "debugging" → IsPlainPassword q →
            ((∃ u, (authenticate row.username q now).answer s = .ok u)
              ↔ row.isActive = 1 ∧ q = "debugging")) := by
  have hclock : ∀ f ∈ [joins "compiling"] ++ changes :: afterwards, f.now.HasFourDigitYear := by
    decide
  have hset : changes.SetsPassword ((Store.empty .disabled).after [joins "compiling"]) 1
      "debugging" := by
    refine ⟨?_, rfl, rfl⟩
    decide +kernel
  have hkept : (((Store.empty .disabled).after [joins "compiling"]).next changes).KeepsPassword 1
      afterwards := by
    refine ⟨?_, fun _ h => h, ?_, trivial⟩
    · rintro p ⟨u, -, -, hp⟩
      cases hp
    · rintro p ⟨u, -, -, hp⟩
      have hblank : ({ password := some "  " } : UserChange).newPassword = none := by decide
      cases hblank.symm.trans hp
  exact ⟨hclock, hset, hkept, by decide +kernel, authenticate_after .disabled hclock hset hkept⟩

/-- A password that is longer than a key. -/
def longPassword (ending : String) : String :=
  "The first bug was a moth, and it is taped into the logbook of the Mark I" ++ ending

/-- The account with a long password. -/
def grace : User :=
  { id := 1, username := "grace", passwordHash := .ofPassword ⟨4, [17]⟩ (longPassword "I"),
    email := "grace@maze.example", fullName := "grace", role := .admin, isActive := true,
    createdAt := ⟨1772366400, 0⟩, lastLogin := none, createdBy := none }

/-- Of a long password the end does not count. -/
theorem authenticate_other_ending :
    let s := (Store.empty .disabled).after [joins (longPassword "I")]
    (joins (longPassword "I")).SetsPassword (Store.empty .disabled) 1 (longPassword "I")
      ∧ longPassword "V" ≠ longPassword "I"
      ∧ (authenticate "grace" (longPassword "V") ⟨1772366460, 0⟩).answer s
        = .ok { grace with lastLogin := some ⟨1772366460, 0⟩ } := by
  refine ⟨⟨grace, ?_, rfl, rfl⟩, by decide, ?_⟩
  · decide +kernel
  · decide +kernel

end Users

end RobotMaze
