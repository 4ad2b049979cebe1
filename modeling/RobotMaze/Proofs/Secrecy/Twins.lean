import RobotMaze.Proofs.Service.Traffic
import RobotMaze.Proofs.Store.Listing
import RobotMaze.Store.Users

/-! # Twins — computations that nobody can tell apart

    Everything in a store but the password hashes of its accounts can be seen from
    outside.  Leaving them out goes together with all that is done to the table of users:

    * `Database.withoutHashes`, `Store.withoutHashes` — what is left;
    * `Database.userById_withoutHashes`, … — what the questions about users say
      without hashes.

    Two stores that differ in password hashes only look the same.  Two
    computations are twins when they do the same to such stores, step by step,
    and have answers that look the same:

    * `Steps.Twins` — computations that take equal steps, from a first one that
      may be taken under a condition only;
    * `Twins` — the same of operations and handlers, which may fail;
    * `Blind` — what is its own twin, since it looks at no hash. -/

namespace RobotMaze

/-! ## Accounts without hashes -/

/-- A row without its hash. -/
def UserRow.withoutHash (r : UserRow) : UserRow := { r with passwordHash := .empty }

theorem UserRow.id_withoutHash (r : UserRow) : Row.id r.withoutHash = Row.id r := rfl

/-- An account without its hash. -/
def User.withoutHash (u : User) : User := { u with passwordHash := .empty }

/-- Accounts that look the same differ in the hash only. -/
theorem User.exists_of_withoutHash_eq {u v : User} (h : u.withoutHash = v.withoutHash) :
    ∃ passwordHash, v = { u with passwordHash } := by
  obtain ⟨id, username, passwordHash, email, fullName, role, isActive, createdAt, lastLogin,
    createdBy⟩ := u
  obtain ⟨rfl, rfl, -, rfl, rfl, rfl, rfl, rfl, rfl, rfl⟩ := User.mk.inj h
  exact ⟨v.passwordHash, rfl⟩

/-- A database without the hashes of its accounts. -/
def Database.withoutHashes (db : Database) : Database :=
  { db with users := db.users.mapRows UserRow.withoutHash }

/-- A store without the hashes of its accounts. -/
def Store.withoutHashes (s : Store) : Store := { s with database := s.database.withoutHashes }

/-- Stores look the same if their databases do and their trails are equal. -/
theorem Store.withoutHashes_eq_iff {s t : Store} : s.withoutHashes = t.withoutHashes
    ↔ s.database.withoutHashes = t.database.withoutHashes ∧ s.trail = t.trail := by
  simp only [withoutHashes, Store.mk.injEq]

/-- Reading a row hands its hash on and looks at everything else. -/
theorem UserRow.read_withoutHash (r : UserRow) :
    r.withoutHash.read = r.read.map User.withoutHash := by
  simp only [read]
  exact bind_eq_map_bind fun _ => bind_eq_map_bind fun _ => rfl

/-- Reading rows hands their hashes on and looks at everything else. -/
theorem UserRow.mapM_read_withoutHash (rows : List UserRow) :
    (rows.map withoutHash).mapM read = (rows.mapM read).map (List.map User.withoutHash) := by
  induction rows with
  | nil => rfl
  | cons r rest ih =>
      rw [List.map_cons, List.mapM_cons, List.mapM_cons, read_withoutHash, ih]
      cases r.read with
      | error e => rfl
      | ok u => cases rest.mapM read <;> rfl

namespace Database

variable (db : Database)

/-- An account is found under its id without its hash. -/
theorem userById_withoutHashes (id : Int) :
    db.withoutHashes.userById id = (db.userById id).map UserRow.withoutHash :=
  db.users.find?_mapRows UserRow.id_withoutHash id

/-- An account is found under its name without its hash. -/
theorem userByName_withoutHashes (username : String) :
    db.withoutHashes.userByName username = (db.userByName username).map UserRow.withoutHash :=
  List.find?_map ..

/-- A search finds the same accounts, without their hashes. -/
theorem searchUsers_withoutHashes (term : String) :
    db.withoutHashes.searchUsers term = (db.searchUsers term).map UserRow.withoutHash := by
  refine Eq.trans ?_ (sortedBy_map UserRow.id_withoutHash (fun _ => rfl) .ascending _)
  exact congrArg _ (List.filter_map ..)

/-- A filter accepts the same accounts, without their hashes. -/
theorem usersAccepted_withoutHashes (f : UserFilter) :
    db.withoutHashes.usersAccepted f = (db.usersAccepted f).map UserRow.withoutHash :=
  List.filter_map ..

/-- No listing is sorted by a hash. -/
theorem userSortKey_withoutHash (sortBy : String) (r : UserRow) :
    userSortKey sortBy r.withoutHash = userSortKey sortBy r := rfl

/-- A page holds the same accounts, without their hashes. -/
theorem pageOfUsers_withoutHashes (f : UserFilter) (p : PageRequest) :
    db.withoutHashes.pageOfUsers f p
      = (db.pageOfUsers f p).map (List.map UserRow.withoutHash) := by
  simp only [pageOfUsers, usersAccepted_withoutHashes,
    sortedBy_map UserRow.id_withoutHash (userSortKey_withoutHash p.sortBy), pageOf_map]

theorem countUsers_withoutHashes : db.withoutHashes.countUsers = db.countUsers :=
  List.length_map ..

theorem countActiveUsers_withoutHashes :
    db.withoutHashes.countActiveUsers = db.countActiveUsers := List.countP_map ..

/-- A username is taken as often without the hashes. -/
theorem countUsername_withoutHashes (username : String) (except : Int) :
    db.withoutHashes.countUsername username except = db.countUsername username except :=
  List.countP_map ..

/-- An address is taken as often without the hashes. -/
theorem countEmail_withoutHashes (email : String) (except : Int) :
    db.withoutHashes.countEmail email except = db.countEmail email except := by
  simp only [countEmail, withoutHashes, Table.mapRows, List.countP_map, Function.comp_def,
    UserRow.withoutHash]

/-- Whether an administrator remains is told by roles and activity. -/
theorem leavesAdmin_withoutHashes (r : UserRow) :
    db.withoutHashes.leavesAdmin r.withoutHash = db.leavesAdmin r := by
  have hothers : db.withoutHashes.users.others r.id
      = (db.users.others r.id).map UserRow.withoutHash :=
    db.users.others_mapRows UserRow.id_withoutHash r.id
  show (_ || _ || (db.withoutHashes.users.others r.id).any isActiveAdmin) = _
  rw [hothers, List.any_map]
  rfl

/-- The constraints of the table say nothing of hashes. -/
theorem userIsAcceptable_withoutHash (r : UserRow) (others : List UserRow) :
    userIsAcceptable r.withoutHash (others.map UserRow.withoutHash)
      = userIsAcceptable r others := by
  simp only [userIsAcceptable, List.any_map]
  rfl

/-- Whom a token belongs to is told without the hashes. -/
theorem principalOf_withoutHashes (token : String) :
    db.withoutHashes.principalOf token = db.principalOf token := by
  have hlogins : db.withoutHashes.logins = db.logins := rfl
  have husers : ∀ id, db.withoutHashes.users.find? id
      = (db.users.find? id).map UserRow.withoutHash := db.userById_withoutHashes
  simp only [principalOf, hlogins, husers]
  cases db.logins.find? fun r => r.token == token with
  | none => rfl
  | some login =>
      dsimp only
      cases db.users.find? login.userId <;> rfl

/-- A login is inserted the same beside accounts without hashes. -/
theorem insertLogin_withoutHashes (session : LoginSession) :
    db.withoutHashes.insertLogin session
      = (db.insertLogin session).map (Prod.map id withoutHashes) := by
  have hfind : (db.withoutHashes.users.find? session.userId).isNone
      = (db.users.find? session.userId).isNone :=
    (congrArg Option.isNone (db.userById_withoutHashes session.userId)).trans Option.isNone_map
  simp only [insertLogin, hfind]
  show (if ((db.logins.any fun r => r.token == session.token) || _) = true then _ else _) = _
  split <;> rfl

/-- An account is inserted, or refused, the same without its hash. -/
theorem insertUser_withoutHashes (make : Int → UserRow) :
    db.withoutHashes.insertUser (fun id => (make id).withoutHash)
      = (db.insertUser make).map (Prod.map UserRow.withoutHash withoutHashes) := by
  have hinsert := db.users.insert_mapRows UserRow.id_withoutHash make userIsAcceptable_withoutHash
  show (db.users.mapRows UserRow.withoutHash).insert _ _ >>= _ = _
  rw [hinsert, insertUser]
  cases db.users.insert make userIsAcceptable <;> rfl

/-- An account is changed, or left, the same without its hash, where the condition looks at no hash
and the change takes accounts that look the same to such accounts. -/
theorem modifyUser_withoutHashes (target : Int) {condition : Database → UserRow → Bool}
    {change change' : UserRow → UserRow}
    (hcondition : ∀ r, condition db.withoutHashes r.withoutHash = condition db r)
    (hchange : ∀ r, change' r.withoutHash = (change r).withoutHash) :
    db.withoutHashes.modifyUser target condition change'
      = (db.modifyUser target condition change).map (Prod.map id withoutHashes) := by
  have hmodify := db.users.modify_mapRows UserRow.id_withoutHash target hcondition hchange
    userIsAcceptable_withoutHash
  show (db.users.mapRows UserRow.withoutHash).modify _ _ _ _ >>= _ = _
  rw [hmodify, modifyUser]
  cases db.users.modify target (condition db) change userIsAcceptable <;> rfl

end Database

/-! ## Outcomes that look the same -/

/-- Two outcomes look the same when they are one failure, or successes that look the same. -/
theorem map_eq_map_iff {ε α β : Type} {look : α → β} {x y : Except ε α} :
    x.map look = y.map look ↔ (∃ e, x = .error e ∧ y = .error e)
      ∨ ∃ a b, x = .ok a ∧ y = .ok b ∧ look a = look b := by
  cases x <;> cases y <;> simp [Except.map, eq_comm]

/-- Two options look the same when both are empty, or hold what looks the same. -/
theorem option_map_eq_map_iff {α β : Type} {look : α → β} {x y : Option α} :
    x.map look = y.map look ↔ (x = none ∧ y = none)
      ∨ ∃ a b, x = some a ∧ y = some b ∧ look a = look b := by
  cases x <;> cases y <;> simp

/-! ## Steps -/

namespace Steps

variable {σ α β γ : Type} {view : σ → γ} {R : α → α → Prop} {guard : σ → σ → Prop}

/-- Two computations take the same steps, as far as can be seen, and have answers in a relation.
    The first step need be the same under a condition only. -/
inductive Twins (view : σ → γ) (R : α → α → Prop) :
    (σ → σ → Prop) → Steps σ α → Steps σ α → Prop where
  | done {guard : σ → σ → Prop} {a b : α} (answers : R a b) : Twins view R guard (.done a) (.done b)
  | step {guard : σ → σ → Prop} {change change' : σ → σ} {next next' : σ → Steps σ α}
      (now : ∀ s t, view s = view t → guard s t → view (change s) = view (change' t))
      (later : ∀ s t, view s = view t → guard s t →
        Twins view R (fun _ _ => True) (next s) (next' t)) :
      Twins view R guard (.step change next) (.step change' next')

/-- What needs no condition may have one. -/
theorem Twins.when {x y : Steps σ α} (h : Twins view R (fun _ _ => True) x y) :
    Twins view R guard x y := by
  cases h with
  | done answers => exact .done answers
  | step now later =>
      exact .step (fun s t hview _ => now s t hview trivial) fun s t hview _ =>
        later s t hview trivial

/-- Twins go on as twins. -/
theorem Twins.bind {R' : β → β → Prop} {x y : Steps σ α} {f g : α → Steps σ β}
    (hx : Twins view R guard x y)
    (hf : ∀ a b, R a b → Twins view R' (fun _ _ => True) (f a) (g b)) :
    Twins view R' guard (x.bind f) (y.bind g) := by
  induction hx with
  -- the condition is for the first step of `x` and `y`; what follows them must do without it
  | done answers => exact (hf _ _ answers).when
  | step now later ih => exact .step now ih

/-- The next steps of twins lead to states that look the same and leave twins behind. -/
theorem Twins.advance {x y : Steps σ α} (h : Twins view R guard x y) {s t : σ}
    (hview : view s = view t) (hguard : guard s t) :
    view (x.advance s).2 = view (y.advance t).2
      ∧ Twins view R (fun _ _ => True) (x.advance s).1 (y.advance t).1 := by
  cases h with
  | done answers => exact ⟨hview, .done answers⟩
  | step now later => exact ⟨now s t hview hguard, later s t hview hguard⟩

end Steps

/-! ## What may fail -/

/-- A kind of state of which everything but password hashes can be seen. -/
class Visible (σ : Type) where
  withoutHashes : σ → σ

instance : Visible Store := ⟨Store.withoutHashes⟩

section Failing

variable {σ ε α β γ δ : Type} [Visible σ] {look : α → γ} {look' : β → δ}

/-- Two computations take the same steps on states that look the same, and either fail for one
    reason, or both succeed with answers that look the same. -/
def TwinsWhen (guard : σ → σ → Prop) (look : α → γ) (x y : ExceptT ε (Steps σ) α) : Prop :=
  Steps.Twins Visible.withoutHashes (fun a b => a.map look = b.map look) guard (ExceptT.run x)
    (ExceptT.run y)

/-- Computations that are twins on whatever states they meet. -/
def Twins (look : α → γ) (x y : ExceptT ε (Steps σ) α) : Prop :=
  TwinsWhen (fun _ _ => True) look x y

/-- A computation to which it makes no difference which hashes there are. -/
def Blind (x : ExceptT ε (Steps σ) α) : Prop := Twins id x x

theorem map_id_eq {a b : Except ε α} : a.map id = b.map id ↔ a = b := by
  rw [Except.map_id, id, id]

/-- Answers that look the same are twins. -/
theorem twins_pure {a b : α} (h : look a = look b) :
    Twins look (pure a : ExceptT ε (Steps σ) α) (pure b) := .done (congrArg Except.ok h)

/-- The same failure is its own twin. -/
theorem twins_throw (e : ε) : Twins look (throw e : ExceptT ε (Steps σ) α) (throw e) :=
  .done rfl

/-- Single steps are twins when their answers look the same and they lead to states that look the
    same. -/
theorem twins_atomic {f g : σ → Except ε α × σ}
    (h : ∀ s t, Visible.withoutHashes s = Visible.withoutHashes t →
      (f s).1.map look = (g t).1.map look
        ∧ Visible.withoutHashes (f s).2 = Visible.withoutHashes (g t).2) :
    Twins look (ExceptT.mk (Steps.atomic f)) (ExceptT.mk (Steps.atomic g)) :=
  .step (fun s t hview _ => (h s t hview).2) fun s t hview _ => .done (h s t hview).1

/-- Twins under a condition on the first step go on as twins, without any. -/
theorem TwinsWhen.bind {guard : σ → σ → Prop} {x y : ExceptT ε (Steps σ) α}
    {f g : α → ExceptT ε (Steps σ) β} (hx : TwinsWhen guard look x y)
    (hf : ∀ a b, look a = look b → Twins look' (f a) (g b)) :
    TwinsWhen guard look' (x >>= f) (y >>= g) := by
  refine Steps.Twins.bind hx fun a b hab => ?_
  rcases map_eq_map_iff.mp hab with ⟨e, rfl, rfl⟩ | ⟨a, b, rfl, rfl, hlook⟩
  · exact .done rfl
  · exact hf a b hlook

theorem Twins.bind {x y : ExceptT ε (Steps σ) α} {f g : α → ExceptT ε (Steps σ) β}
    (hx : Twins look x y) (hf : ∀ a b, look a = look b → Twins look' (f a) (g b)) :
    Twins look' (x >>= f) (y >>= g) := TwinsWhen.bind hx hf

/-- What answers at once looks at nothing. -/
@[grind ←]
theorem blind_pure (a : α) : Blind (pure a : ExceptT ε (Steps σ) α) := twins_pure rfl

/-- What fails at once looks at nothing. -/
@[grind ←]
theorem blind_throw (e : ε) : Blind (throw e : ExceptT ε (Steps σ) α) := twins_throw e

/-- What follows one blind computation on both sides meets one answer. -/
theorem Blind.bind {x : ExceptT ε (Steps σ) α} {f g : α → ExceptT ε (Steps σ) β}
    (hx : Blind x) (hf : ∀ a, Twins look' (f a) (g a)) : Twins look' (x >>= f) (x >>= g) :=
  Twins.bind hx fun a b hab => by
    obtain rfl : a = b := hab
    exact hf a

/-- Two choices by one condition are twins when they are so on either side. -/
theorem twins_ite {p : Prop} [Decidable p] {x x' y y' : ExceptT ε (Steps σ) α}
    (h : Twins look x y) (h' : Twins look x' y') :
    Twins look (if p then x else x') (if p then y else y') := by
  split
  · exact h
  · exact h'

/-- What comes after a condition that must not hold. -/
theorem twins_unless {p : Prop} [Decidable p] {x y : ExceptT ε (Steps σ) α} {e : ε}
    (h : Twins look x y) :
    Twins look (if p then throw e >>= fun _ : PUnit => x else x)
      (if p then throw e >>= fun _ : PUnit => y else y) :=
  twins_ite ((blind_throw e).bind fun _ => h) h

/-- Two blind computations one after the other are blind. -/
@[grind ←]
theorem blind_bind {x : ExceptT ε (Steps σ) α} {f : α → ExceptT ε (Steps σ) β}
    (hx : Blind x) (hf : ∀ a, Blind (f a)) : Blind (x >>= f) := hx.bind hf

@[grind ←]
theorem blind_map {x : ExceptT ε (Steps σ) α} (f : α → β) (hx : Blind x) : Blind (f <$> x) := by
  refine Steps.Twins.bind hx fun a b hab => ?_
  obtain rfl := map_id_eq.mp hab
  cases a <;> exact .done rfl

end Failing

namespace Op

variable {α γ : Type} {look : α → γ}

/-- A question is its own twin when its answer comes to the same, hashes left out before or
    after. -/
theorem twins_query {f : Database → α} {common : Database → γ}
    (h : ∀ db, common db.withoutHashes = look (f db)) : Twins look (query f) (query f) := by
  refine .step (fun _ _ hview _ => hview) fun s t hview _ => .done (congrArg Except.ok ?_)
  show look (f s.database) = look (f t.database)
  rw [← h, ← h, (Store.withoutHashes_eq_iff.mp hview).1]

/-- A question with the same answer without the hashes is blind. -/
theorem blind_query {f : Database → α} (h : ∀ db, f db.withoutHashes = f db) :
    Blind (query f) := twins_query h

/-- Questions whose answers look the same are twins, unreadable rows included. -/
theorem twins_queryRead {f : Database → Read α} {common : Database → Read γ}
    (h : ∀ db, common db.withoutHashes = (f db).map look) :
    Twins look (queryRead f) (queryRead f) := by
  refine twins_atomic fun s t hview => ⟨?_, hview⟩
  rw [← h, ← h, (Store.withoutHashes_eq_iff.mp hview).1]

/-- A question that may meet an unreadable row is blind if its answer is the same without the
hashes. -/
theorem blind_queryRead {f : Database → Read α} (h : ∀ db, f db.withoutHashes = f db) :
    Blind (queryRead f) :=
  twins_queryRead fun db => (h db).trans (congrFun Except.map_id _).symm

/-- Changes are twins when, hashes left out before or after, both come to one change of what is
    left. -/
theorem twins_change {f g : Database → Except Failure (α × Database)}
    {common : Database → Except Failure (γ × Database)}
    (hf : ∀ db, common db.withoutHashes = (f db).map (Prod.map look Database.withoutHashes))
    (hg : ∀ db, common db.withoutHashes = (g db).map (Prod.map look Database.withoutHashes)) :
    Twins look (change f) (change g) := by
  refine twins_atomic fun s t hview => ?_
  obtain ⟨hdb, htrail⟩ := Store.withoutHashes_eq_iff.mp hview
  -- what either change comes to without hashes is what the common one makes of what can be seen
  have hboth : (f s.database).map (Prod.map look Database.withoutHashes)
      = (g t.database).map (Prod.map look Database.withoutHashes) := by
    rw [← hf, ← hg, hdb]
  rcases map_eq_map_iff.mp hboth with ⟨e, hfails, hgfails⟩ | ⟨a, b, hfmakes, hgmakes, hsame⟩
  · rw [hfails, hgfails]
    exact ⟨rfl, hview⟩
  · rw [hfmakes, hgmakes]
    injection hsame with hanswer hdb
    exact ⟨congrArg Except.ok hanswer, Store.withoutHashes_eq_iff.mpr ⟨hdb, htrail⟩⟩

/-- A change is blind if it does the same to what is left without the hashes. -/
theorem blind_change {f : Database → Except Failure (α × Database)}
    (h : ∀ db, f db.withoutHashes = (f db).map (Prod.map id Database.withoutHashes)) :
    Blind (change f) := twins_change h h

/-- Checks whose results look the same are twins. -/
theorem twins_ofCheck {x y : Except Violation α} (h : x.map look = y.map look) :
    Twins look (ofCheck x) (ofCheck y) := by
  rcases map_eq_map_iff.mp h with ⟨v, rfl, rfl⟩ | ⟨a, b, rfl, rfl, hlook⟩
  · exact twins_throw _
  · exact twins_pure hlook

@[grind ←]
theorem blind_ofCheck (x : Except Violation α) : Blind (ofCheck x) := twins_ofCheck rfl

/-- Rows whose readings look the same are twins. -/
theorem twins_ofRead {x y : Read α} (h : x.map look = y.map look) :
    Twins look (ofRead x) (ofRead y) := by
  rcases map_eq_map_iff.mp h with ⟨e, rfl, rfl⟩ | ⟨a, b, rfl, rfl, hlook⟩
  · exact twins_throw _
  · exact twins_pure hlook

@[grind ←]
theorem blind_ofRead (x : Read α) : Blind (ofRead x) := twins_ofRead rfl

/-- The outcomes of attempts look the same. -/
theorem twinsWhen_attempt {guard : Store → Store → Prop} {x y : Op α}
    (h : TwinsWhen guard look x y) : TwinsWhen guard (Except.map look) x.attempt y.attempt :=
  Steps.Twins.bind h fun _ _ hab => .done (congrArg Except.ok hab)

/-- What is done in place of a failed computation sees the failure only. -/
@[grind ←]
theorem blind_attempt {x : Op α} (h : Blind x) : Blind x.attempt :=
  Steps.Twins.bind h fun _ _ hab => .done (congrArg Except.ok (map_id_eq.mp hab))

/-- A line is added to the trail, which holds no hash. -/
@[grind ←]
theorem blind_addToTrail (e : AuditEntry) : Blind (addToTrail e) := by
  refine .step (fun s t hview _ => ?_) fun _ _ _ _ => .done rfl
  obtain ⟨hdb, htrail⟩ := Store.withoutHashes_eq_iff.mp hview
  exact Store.withoutHashes_eq_iff.mpr ⟨hdb, congrArg (·.append e) htrail⟩

end Op

end RobotMaze
