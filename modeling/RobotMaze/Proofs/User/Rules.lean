import RobotMaze.Proofs.Service.Frames
import RobotMaze.Proofs.Text.Split

/-! # Rules of stored accounts

    A stored account has a trimmed username, is active or not, and can be read
    (`UserRow.Sound`).  The operations on accounts write no other rows:

    * `User.checkEmail_answer` — which texts are addresses;
    * `Users.hasEffect_iff` — which changes change nothing;
    * `newUserRow_sound` — a new account that passed the rules;
    * `changeRow_sound` — a change that passed its checks;
    * `hash_ok`, `checkChange_answer` — the hash that is stored is that of the
      password that was given. -/

namespace RobotMaze

open Time (Instant)

/-- What holds of every stored account. -/
structure UserRow.Sound (r : UserRow) : Prop where
  username_trimmed : Text.trim r.username = r.username
  isActive : r.isActive = 0 ∨ r.isActive = 1
  createdAt : ∃ t, readTime r.createdAt = .ok t
  lastLogin : ∃ t, readTimeOpt r.lastLogin = .ok t

/-! ## Reading a row -/

/-- A sound row can be read. -/
theorem UserRow.Sound.exists_read {r : UserRow} (h : r.Sound) : ∃ u, r.read = .ok u :=
  exists_read_iff.mpr ⟨h.createdAt, h.lastLogin⟩

/-! ## The rules of the fields -/

/-- The username that is kept is the given one without the blanks around it. -/
theorem User.eq_trim_of_checkUsername {username checked : String}
    (h : checkUsername username = .ok checked) : checked = Text.trim username := by
  simp only [checkUsername] at h
  split at h
  · cases h
  · split at h
    · cases h
    · exact (Except.ok.inj h).symm

/-- So is the address. -/
theorem User.eq_trim_of_checkEmail {email checked : String} (h : checkEmail email = .ok checked) :
    checked = Text.trim email := by
  simp only [checkEmail] at h
  split at h
  · cases h
  · split at h
    · exact (Except.ok.inj h).symm
    · cases h

theorem User.checkUsername_ok {username checked : String}
    (h : checkUsername username = .ok checked) : Text.trim checked = checked := by
  rw [eq_trim_of_checkUsername h]
  exact Text.trim_trim username

/-- A new user who passes the check has a trimmed name, and the password as it was given. -/
theorem NewUser.check_ok {input checked : NewUser} (h : input.check = .ok checked) :
    Text.trim checked.username = checked.username ∧ checked.password = input.password := by
  simp only [check] at h
  obtain ⟨username, husername, h⟩ := ok_of_bind h
  obtain ⟨email, -, h⟩ := ok_of_bind h
  obtain ⟨u, -, h⟩ := ok_of_bind h
  injection h with h
  rw [← h]
  exact ⟨User.checkUsername_ok husername, rfl⟩

/-- A change that was checked is the one that was asked for, with username and address trimmed. -/
theorem UserChange.eq_of_check {c checked : UserChange} (h : c.check = .ok checked) :
    checked = { c with username := c.username.map Text.trim, email := c.email.map Text.trim } := by
  simp only [check] at h
  obtain ⟨username, husername, h⟩ := ok_of_bind h
  obtain ⟨email, hemail, h⟩ := ok_of_bind h
  rw [← map_of_mapM (fun _ _ => User.eq_trim_of_checkUsername) husername,
    ← map_of_mapM (fun _ _ => User.eq_trim_of_checkEmail) hemail]
  split at h
  · obtain ⟨u, -, h⟩ := ok_of_bind h
    exact (Except.ok.inj h).symm
  · exact (Except.ok.inj h).symm

theorem UserChange.username_of_check {c checked : UserChange} (h : c.check = .ok checked) :
    ∀ n ∈ checked.username, Text.trim n = n := by
  intro n hn
  rw [eq_of_check h] at hn
  obtain ⟨source, -, rfl⟩ := Option.map_eq_some_iff.mp hn
  exact Text.trim_trim source

/-! ## Changes without effect -/

/-- A change that gives no field a new value. -/
structure UserChange.Idle (c : UserChange) : Prop where
  username : c.username = none
  email : c.email = none
  password : ∀ p ∈ c.password, Text.isBlankText p = true
  fullName : ∀ name ∈ c.fullName, Text.trim name = ""
  role : c.role = none
  isActive : c.isActive = none

/-- The full name that is kept is the trimmed one, if there is anything left of it. -/
theorem NewUser.cleanName_eq (name : Option String) :
    cleanName name = (name.map Text.trim).filter fun text => text ≠ "" :=
  readText_eq_filter (name.map Text.trim)

/-- It gives no new password either. -/
theorem UserChange.Idle.newPassword {c : UserChange} (h : c.Idle) : c.newPassword = none :=
  Option.filter_eq_none_iff.mpr fun p hp => by simp [h.password p hp]

/-- A change has an effect unless it gives no field a new value. -/
theorem Users.hasEffect_iff {c checked : UserChange} (hcheck : c.check = .ok checked) :
    hasEffect checked = true ↔ ¬c.Idle := by
  have hnone : ∀ {α : Type} {a : Option α}, ¬a.isSome = true ↔ a = none := by
    intro α a
    simp
  rw [← not_iff_not, not_not, UserChange.eq_of_check hcheck]
  simp only [hasEffect, Bool.or_eq_true, not_or, hnone, Option.map_eq_none_iff,
    UserChange.newPassword, NewUser.cleanName, Option.filter_eq_none_iff]
  constructor
  · rintro ⟨⟨⟨⟨⟨husername, hemail⟩, hpassword⟩, hfullName⟩, hrole⟩, hactive⟩
    refine ⟨husername, hemail, ?_, ?_, hrole, hactive⟩
    · simpa using hpassword
    · simpa using hfullName
  · rintro ⟨husername, hemail, hpassword, hfullName, hrole, hactive⟩
    refine ⟨⟨⟨⟨⟨husername, hemail⟩, ?_⟩, ?_⟩, hrole⟩, hactive⟩
    · simpa using hpassword
    · simpa using hfullName

/-- A change that is found to have no effect gives no field a new value. -/
theorem Users.idle_of_hasEffect {c checked : UserChange} (hcheck : c.check = .ok checked)
    (h : (!hasEffect checked) = true) : c.Idle := by
  by_contra hsomething
  rw [(hasEffect_iff hcheck).mpr hsomething] at h
  cases h

/-! ## The form of an address -/

namespace User

/-- A domain neither begins nor ends with a point. -/
def HasNoOuterPoint (domain : List Char) : Prop :=
  domain.head? ≠ some '.' ∧ domain.getLast? ≠ some '.'

/-- No label of a domain is empty. -/
def HasNoEmptyLabel (domain : List Char) : Prop := [] ∉ Text.splitChars '.' domain

/-- The parts of an address: something in front of the only `@`, a domain of two labels at least
    behind it, and no white space.  What else its domain is like is told apart. -/
structure IsAddressOf (Proper : List Char → Prop) (email user domain : List Char) : Prop where
  chars_eq : email = user ++ '@' :: domain
  user_ne_nil : user ≠ []
  at_not_mem_user : '@' ∉ user
  at_not_mem_domain : '@' ∉ domain
  not_isBlank : ∀ c ∈ email, Text.isBlank c = false
  two_labels : 2 ≤ (Text.splitChars '.' domain).length
  proper : Proper domain

/-- A domain with a point, but not at its ends, has two labels that are not empty. -/
theorem two_le_length_filter {domain : List Char} (h : HasNoOuterPoint domain)
    (hlabels : 2 ≤ (Text.splitChars '.' domain).length) :
    2 ≤ ((Text.splitChars '.' domain).filter fun label => !label.isEmpty).length := by
  obtain ⟨hhead, hlast⟩ := h
  -- the first point has something in front of it, and something other than points behind it
  have hpoint : '.' ∈ domain := by
    rw [Text.splitChars_length] at hlabels
    exact List.count_pos_iff.mp (by omega)
  obtain ⟨first, rest, rfl, hfirst⟩ := List.eq_append_cons_of_mem hpoint
  have hfirst_ne : first ≠ [] := by
    rintro rfl
    exact hhead rfl
  obtain ⟨d, hd, hne⟩ : ∃ d ∈ rest, d ≠ '.' := by
    cases hrest : rest.getLast? with
    | none =>
        rw [List.getLast?_eq_none_iff.mp hrest] at hlast
        exact absurd (List.getLast?_concat ..) hlast
    | some d =>
        refine ⟨d, List.mem_of_getLast? hrest, ?_⟩
        rintro rfl
        exact hlast (by simp [List.getLast?_append, List.getLast?_cons, hrest])
  obtain ⟨label, hlabel, hmem⟩ := Text.exists_mem_splitChars hd hne
  have hpos : 0 < ((Text.splitChars '.' rest).filter fun label => !label.isEmpty).length := by
    refine List.length_filter_pos_iff.mpr ⟨label, hlabel, ?_⟩
    simpa using List.ne_nil_of_mem hmem
  rw [Text.splitChars_append hfirst, List.filter_cons_of_pos (by simpa using hfirst_ne)]
  exact Nat.succ_le_succ hpos

/-- A domain has a point in it, and none at either end. -/
theorem isDomain_iff {domain : List Char} :
    isDomain domain = true
      ↔ 2 ≤ (Text.splitChars '.' domain).length ∧ HasNoOuterPoint domain := by
  simp only [isDomain, Bool.and_eq_true, decide_eq_true_eq, bne_iff_ne]
  constructor
  · rintro ⟨⟨hlabels, hhead⟩, hlast⟩
    exact ⟨hlabels.trans (List.length_filter_le _ _), hhead, hlast⟩
  · rintro ⟨hlabels, houter⟩
    exact ⟨⟨two_le_length_filter houter hlabels, houter.1⟩, houter.2⟩

/-- A text has the form of an address exactly if it has the parts of one. -/
theorem isEmail_iff {email : List Char} :
    isEmail email = true ↔ ∃ user domain, IsAddressOf HasNoOuterPoint email user domain := by
  constructor
  · intro h
    have hsplit : email.takeWhile (· ≠ '@') ++ email.dropWhile (· ≠ '@') = email :=
      List.takeWhile_append_dropWhile
    have huser : ∀ c ∈ email.takeWhile (· ≠ '@'), c ≠ '@' := fun c hc =>
      of_decide_eq_true (List.all_eq_true.mp List.all_takeWhile c hc)
    have hfirst := List.head?_dropWhile_not (· ≠ '@') email
    rw [isEmail] at h
    generalize email.takeWhile (· ≠ '@') = user at h hsplit huser
    generalize email.dropWhile (· ≠ '@') = rest at h hsplit hfirst
    cases rest with
    | nil => cases h
    | cons c domain =>
        obtain rfl : c = '@' := by simpa using hfirst
        simp only [Bool.and_eq_true, Bool.not_eq_true', List.isEmpty_eq_false_iff,
          List.any_eq_false, Bool.not_eq_true, List.contains_eq_mem, decide_eq_false_iff_not] at h
        obtain ⟨⟨⟨huser_ne, hdomain⟩, hblank⟩, hlabels⟩ := h
        obtain ⟨htwo, houter⟩ := isDomain_iff.mp hlabels
        exact ⟨user, domain, hsplit.symm, huser_ne, fun hmem => huser _ hmem rfl, hdomain, hblank,
          htwo, houter⟩
  · rintro ⟨user, domain, h⟩
    have huser : ∀ c ∈ user, decide (c ≠ '@') = true := fun c hc =>
      decide_eq_true fun hat => h.at_not_mem_user (hat ▸ hc)
    have htake : email.takeWhile (· ≠ '@') = user := by
      rw [h.chars_eq, List.takeWhile_append_of_pos huser]
      exact List.append_nil user
    have hdrop : email.dropWhile (· ≠ '@') = '@' :: domain := by
      rw [h.chars_eq, List.dropWhile_append_of_pos huser]
      rfl
    simp only [isEmail, htake, hdrop, Bool.and_eq_true, Bool.not_eq_true',
      List.isEmpty_eq_false_iff, List.any_eq_false, Bool.not_eq_true, List.contains_eq_mem,
      decide_eq_false_iff_not]
    exact ⟨⟨⟨h.user_ne_nil, h.at_not_mem_domain⟩, h.not_isBlank⟩,
      isDomain_iff.mpr ⟨h.two_labels, h.proper⟩⟩

/-- No label is empty if the domain has no point at its ends and no two points in a row. -/
theorem hasNoEmptyLabel_iff {domain : List Char}
    (hlabels : 2 ≤ (Text.splitChars '.' domain).length) :
    HasNoEmptyLabel domain ↔ HasNoOuterPoint domain ∧ ¬ ['.', '.'] <:+: domain := by
  have hne : domain ≠ [] := by
    rintro rfl
    exact absurd hlabels (by decide)
  rw [HasNoEmptyLabel, HasNoOuterPoint, Text.nil_mem_splitChars_iff hne, not_or, not_or, and_assoc]

/-- The stricter addresses are those without two points in a row in the domain. -/
theorem isAddressOf_hasNoEmptyLabel_iff {email user domain : List Char} :
    IsAddressOf HasNoEmptyLabel email user domain
      ↔ IsAddressOf HasNoOuterPoint email user domain ∧ ¬ ['.', '.'] <:+: domain := by
  constructor
  · intro h
    obtain ⟨houter, hpoints⟩ := (hasNoEmptyLabel_iff h.two_labels).mp h.proper
    exact ⟨{ h with proper := houter }, hpoints⟩
  · rintro ⟨h, hpoints⟩
    exact { h with proper := (hasNoEmptyLabel_iff h.two_labels).mpr ⟨h.proper, hpoints⟩ }

/-- A text is an address, if the white space around it does not count. -/
def IsAddress (Proper : List Char → Prop) (email : String) : Prop :=
  ∃ user domain, IsAddressOf Proper (Text.trim email).toList user domain

theorem IsAddress.trim_ne_empty {Proper : List Char → Prop} {email : String}
    (h : IsAddress Proper email) : Text.trim email ≠ "" := by
  intro hempty
  obtain ⟨user, domain, hparts⟩ := h
  have hnil : user ++ '@' :: domain = [] := by
    rw [← hparts.chars_eq, hempty]
    rfl
  exact List.cons_ne_nil _ _ (List.append_eq_nil_iff.mp hnil).2

/-- A text that is missing, one that is kept and one that is malformed. -/
theorem checkEmail_cases (email : String) :
    (Text.trim email = "" ∧ checkEmail email = .error .emailMissing)
    ∨ (IsAddress HasNoOuterPoint email ∧ checkEmail email = .ok (Text.trim email))
    ∨ (Text.trim email ≠ "" ∧ ¬ IsAddress HasNoOuterPoint email
      ∧ checkEmail email = .error .emailMalformed) := by
  by_cases hempty : Text.trim email = ""
  · exact .inl ⟨hempty, if_pos (String.isEmpty_iff.mpr hempty)⟩
  have hcheck : checkEmail email
      = if isEmail (Text.trim email).toList then .ok (Text.trim email)
        else .error .emailMalformed :=
    if_neg fun h => hempty (String.isEmpty_iff.mp h)
  by_cases hform : isEmail (Text.trim email).toList = true
  · rw [if_pos hform] at hcheck
    exact .inr (.inl ⟨isEmail_iff.mp hform, hcheck⟩)
  · rw [if_neg hform] at hcheck
    exact .inr (.inr ⟨hempty, fun hparts => hform (isEmail_iff.mpr hparts), hcheck⟩)

/-- For every text: it is kept, without the white space around it, exactly if it has the parts of an
    address and a domain without a point at its ends; white space alone is a missing address, and
    everything else a malformed one.  What has a domain without empty labels is kept, and of what
    else is kept the domain has two points in a row. -/
theorem checkEmail_answer (email : String) :
    (∀ kept, checkEmail email = .ok kept
      ↔ kept = Text.trim email ∧ IsAddress HasNoOuterPoint email)
    ∧ (checkEmail email = .error .emailMissing ↔ Text.trim email = "")
    ∧ (checkEmail email = .error .emailMalformed
      ↔ Text.trim email ≠ "" ∧ ¬ IsAddress HasNoOuterPoint email)
    ∧ (∀ user domain, IsAddressOf HasNoEmptyLabel (Text.trim email).toList user domain
      ↔ IsAddressOf HasNoOuterPoint (Text.trim email).toList user domain
        ∧ ¬ ['.', '.'] <:+: domain)
    ∧ Violation.emailMissing.message = "Email is required"
    ∧ Violation.emailMalformed.message = "Email must be a valid address" := by
  refine ⟨?_, ?_, ?_, fun _ _ => isAddressOf_hasNoEmptyLabel_iff, rfl, rfl⟩
  -- each of the three answers is given in one of three cases, and in no other
  all_goals
    rcases checkEmail_cases email with ⟨hempty, hcheck⟩ | ⟨hform, hcheck⟩ | ⟨hne, hno, hcheck⟩
  · intro kept
    rw [hcheck]
    exact iff_of_false (fun h => nomatch h) fun h => h.2.trim_ne_empty hempty
  · intro kept
    rw [hcheck, Except.ok.injEq, eq_comm]
    exact (and_iff_left hform).symm
  · intro kept
    rw [hcheck]
    exact iff_of_false (fun h => nomatch h) fun h => hno h.2
  · exact iff_of_true hcheck hempty
  · rw [hcheck]
    exact iff_of_false (fun h => nomatch h) hform.trim_ne_empty
  · rw [hcheck]
    exact iff_of_false (fun h => nomatch h) hne
  · rw [hcheck]
    exact iff_of_false (fun h => nomatch h) fun h => h.1 hempty
  · rw [hcheck]
    exact iff_of_false (fun h => nomatch h) fun h => h.2 hform
  · exact iff_of_true hcheck ⟨hne, hno⟩

/-- A label between two points in a row is empty, and the address is kept all the same. -/
theorem checkEmail_emptyLabel :
    checkEmail "user@example..com" = .ok "user@example..com"
    ∧ ¬ IsAddress HasNoEmptyLabel "user@example..com" := by
  refine ⟨by decide +kernel, ?_⟩
  rintro ⟨user, domain, h⟩
  have htrim : (Text.trim "user@example..com").toList = "user@example..com".toList := by
    decide +kernel
  rw [htrim] at h
  have hsplit := Text.splitOnceChars?_eq_some.mpr ⟨h.chars_eq, h.at_not_mem_user⟩
  have hdomain : domain = "example..com".toList := by
    have hknown : Text.splitOnceChars? '@' "user@example..com".toList
        = some ("user".toList, "example..com".toList) := by decide +kernel
    rw [hknown] at hsplit
    exact (congrArg Prod.snd (Option.some.inj hsplit)).symm
  rw [hdomain] at h
  exact h.proper (by decide +kernel)

end User

/-! ## Rows that are written -/

/-- A user who passes the check is stored as a sound row. -/
theorem newUserRow_sound {input checked : NewUser} (h : input.check = .ok checked)
    {now : Instant} (hnow : now.HasFourDigitYear) (fullName : String) (hash : PasswordHash)
    (createdBy : Option String) (id : Int) :
    (Database.newUserRow checked fullName hash createdBy now id).Sound where
  username_trimmed := (NewUser.check_ok h).1
  isActive := flag_eq_zero_or_one checked.isActive
  createdAt := ⟨_, readTime_stamp hnow⟩
  lastLogin := ⟨none, rfl⟩

namespace Users

/-- A change that passes the check leaves a row sound. -/
theorem changeRow_sound {c checked : UserChange} (h : c.check = .ok checked) {r : UserRow}
    (hr : r.Sound) (hash : Option PasswordHash) : (changeRow checked hash r).Sound where
  username_trimmed := by
    show Text.trim (checked.username.getD r.username) = checked.username.getD r.username
    cases husername : checked.username with
    | none => exact hr.username_trimmed
    | some n => exact UserChange.username_of_check h n husername
  isActive := by
    simp only [changeRow]
    cases checked.isActive with
    | none => exact hr.isActive
    | some active => exact flag_eq_zero_or_one active
  createdAt := hr.createdAt
  lastLogin := hr.lastLogin

theorem sound_of_flag {r : UserRow} (hr : r.Sound) (active : Bool) :
    { r with isActive := flag active }.Sound :=
  ⟨hr.username_trimmed, flag_eq_zero_or_one active, hr.createdAt, hr.lastLogin⟩

theorem sound_of_hash {r : UserRow} (hr : r.Sound) (hash : PasswordHash) :
    { r with passwordHash := hash }.Sound :=
  ⟨hr.username_trimmed, hr.isActive, hr.createdAt, hr.lastLogin⟩

/-- A login leaves the row of its user sound. -/
theorem sound_of_lastLogin {r : UserRow} (hr : r.Sound) {now : Instant}
    (hnow : now.HasFourDigitYear) : { r with lastLogin := some now.stamp }.Sound :=
  ⟨hr.username_trimmed, hr.isActive, hr.createdAt, _, readTimeOpt_some (readTime_stamp hnow)⟩

/-! ## What was hashed and checked -/

variable {s : Store}

theorem hash_ok {hashing : Hashing} {password : String} {h : PasswordHash}
    (hanswer : (hash hashing password).answer s = .ok h) : h = .ofPassword hashing password := by
  simp only [hash] at hanswer
  cases hmake : PasswordHash.make hashing password with
  | none =>
      rw [hmake] at hanswer
      cases hanswer
  | some made =>
      rw [hmake] at hanswer
      obtain rfl : made = h := Except.ok.inj hanswer
      exact PasswordHash.make_ok hmake

/-- The checks of a change have shown that it obeys the rules, and the hash is that of the new
    password, if there is one. -/
theorem checkChange_answer {id : Int} {c checked : UserChange} {hashing : Hashing}
    {hash : Option PasswordHash} (h : (checkChange id c hashing).answer s = .ok (checked, hash)) :
    c.check = .ok checked ∧ hash = c.newPassword.map (PasswordHash.ofPassword hashing) := by
  -- whether or not the username and the address have to be free, the same hash is returned
  have hrest : ∃ made, c.check = .ok made
      ∧ (do
          let hash ← c.newPassword.mapM (Users.hash hashing)
          return (made, hash) : Op (UserChange × Option PasswordHash)).answer s
        = .ok (checked, hash) := by
    simp only [checkChange] at h
    obtain ⟨made, hmade, h⟩ := Op.Reads.ok_of_bind (Op.keeps_ofCheck _) h
    refine ⟨made, Op.ofCheck_ok hmade, ?_⟩
    cases husername : made.username <;> cases hemail : made.email <;>
      simp only [husername, hemail] at h
    · exact h
    · obtain ⟨u, -, h⟩ := Op.Reads.ok_of_bind (keeps_requireEmail _ _) h
      exact h
    · obtain ⟨u, -, h⟩ := Op.Reads.ok_of_bind (keeps_requireUsername _ _) h
      exact h
    · obtain ⟨u, -, h⟩ := Op.Reads.ok_of_bind (keeps_requireUsername _ _) h
      obtain ⟨v, -, h⟩ := Op.Reads.ok_of_bind (keeps_requireEmail _ _) h
      exact h
  obtain ⟨made, hmade, hrest⟩ := hrest
  have hreads : (c.newPassword.mapM (Users.hash hashing)).Reads :=
    Op.keeps_mapM fun password => keeps_hash hashing password
  obtain ⟨made', hhash, hrest⟩ := Op.Reads.ok_of_bind hreads hrest
  injection hrest with hrest
  injection hrest with hchecked hsame
  subst hchecked hsame
  refine ⟨hmade, ?_⟩
  cases hpassword : c.newPassword with
  | none =>
      rw [hpassword] at hhash
      exact (Except.ok.inj hhash).symm
  | some password =>
      rw [hpassword, Option.mapM_some, Op.answer_map] at hhash
      cases hanswer : (Users.hash hashing password).answer s with
      | error e =>
          rw [hanswer] at hhash
          cases hhash
      | ok h =>
          rw [hanswer] at hhash
          rw [← Except.ok.inj hhash, hash_ok hanswer]
          rfl

end Users

end RobotMaze
