import RobotMaze.Console.Work
import RobotMaze.Proofs.Secrecy.Requests

/-! # Commands that are given passwords

    A command works on a store and a disk.  Two commands are alike when they are
    the same but for a password whose checks have the same outcome, and then they
    show the same and leave the same behind, as far as can be seen:

    * `Disk.withoutHashes`, `Bench.withoutHashes` — what can be seen of what a
      command works on;
    * `Work.twins_onStore` — how twins carry over from operations to work;
    * `Command.work` — all that a command does, `Command.Alike` — commands that differ
      in a password only;
    * `Command.Alike.twins_work` — they do the same. -/

namespace RobotMaze.Console

open Time (Instant)

/-! ## What commands work on -/

/-- A disk whose stores have no hashes in them. -/
def Disk.withoutHashes (d : Disk) : Disk :=
  { d with stores := d.stores.map fun (path, db) => (path, db.withoutHashes) }

/-- A store and a disk without hashes. -/
def Bench.withoutHashes (b : Bench) : Bench := ⟨b.store.withoutHashes, b.disk.withoutHashes⟩

/-- What a command works on looks the same if its store and its disk do. -/
theorem Bench.withoutHashes_eq_iff {b b' : Bench} : b.withoutHashes = b'.withoutHashes
    ↔ b.store.withoutHashes = b'.store.withoutHashes
      ∧ b.disk.withoutHashes = b'.disk.withoutHashes := by
  simp only [withoutHashes, mk.injEq]

namespace Disk

variable (d : Disk)

/-- Files hold no hashes. -/
theorem read?_withoutHashes (path : String) : d.withoutHashes.read? path = d.read? path := rfl

/-- Folders are those of the files. -/
theorem hasFolder_withoutHashes (path : String) :
    d.withoutHashes.hasFolder path = d.hasFolder path := by
  simp only [hasFolder, withoutHashes, List.map_map]
  rfl

/-- A file is put beside stores without their hashes. -/
theorem put_withoutHashes (path text : String) :
    d.withoutHashes.put path text = (d.put path text).withoutHashes := by
  simp only [put, withoutHashes, List.filter_map]
  rfl

/-- A file is written beside stores without their hashes. -/
theorem write?_withoutHashes (path text : String) :
    d.withoutHashes.write? path text = (d.write? path text).map withoutHashes := by
  simp only [write?, hasFolder_withoutHashes, put_withoutHashes]
  split <;> rfl

end Disk

instance : Visible Bench := ⟨Bench.withoutHashes⟩

/-! ## Work -/

namespace Work

variable {α β γ : Type} {look : α → γ}

/-- Steps on the store of a bench are seen as those on the store. -/
theorem twins_stepsOnStore {R : α → α → Prop} {guard : Store → Store → Prop}
    {x y : Steps Store α} (h : Steps.Twins Store.withoutHashes R guard x y) :
    Steps.Twins Bench.withoutHashes R (fun b b' => guard b.store b'.store) (stepsOnStore x)
      (stepsOnStore y) := by
  induction h with
  | done answers => exact .done answers
  | step now later ih =>
      refine .step (fun b b' hview hguard => ?_) fun b b' hview hguard => ?_
      · obtain ⟨hstore, hdisk⟩ := Bench.withoutHashes_eq_iff.mp hview
        exact Bench.withoutHashes_eq_iff.mpr ⟨now _ _ hstore hguard, hdisk⟩
      · exact ih _ _ (Bench.withoutHashes_eq_iff.mp hview).1 hguard

/-- Operations that are twins are so as work. -/
theorem twins_onStore {x y : Op α} (h : Twins look x y) (fault : Failure → Fault) :
    Twins look (onStore x fault) (onStore y fault) := by
  refine Steps.Twins.bind (twins_stepsOnStore h) fun a b hab => ?_
  rcases map_eq_map_iff.mp hab with ⟨e, rfl, rfl⟩ | ⟨a, b, rfl, rfl, hlook⟩
  · exact .done rfl
  · exact .done (congrArg Except.ok hlook)

/-- Commands that perform twins are twins. -/
theorem twins_perform {x y : Op α} (h : Twins look x y) : Twins look (perform x) (perform y) :=
  twins_onStore h .store

@[grind ←]
theorem blind_perform {x : Op α} (h : Blind x) : Blind (perform x) := twins_perform h

/-- A demand on what is given looks at no store. -/
@[grind ←]
theorem blind_require {ε : Type} (x : Except ε α) (fault : ε → Fault) :
    Blind (require x fault) := by
  cases x with
  | ok a => exact blind_pure a
  | error e => exact blind_throw (fault e)

/-- What is shown or written does not depend on the stores of the disk. -/
@[grind ←]
theorem blind_writeOrShow (file : Option String) (text : String) :
    Blind (writeOrShow file text) := by
  cases file with
  | none => exact blind_pure _
  | some path =>
      simp only [writeOrShow]
      refine twins_atomic fun b b' hview => ?_
      obtain ⟨hstore, hdisk⟩ := Bench.withoutHashes_eq_iff.mp hview
      have hwritten : (b.disk.write? path text).map Disk.withoutHashes
          = (b'.disk.write? path text).map Disk.withoutHashes := by
        rw [← Disk.write?_withoutHashes, hdisk, Disk.write?_withoutHashes]
      rcases option_map_eq_map_iff.mp hwritten with ⟨hb, hb'⟩ | ⟨disk, disk', hb, hb', hafter⟩
      · rw [hb, hb']
        exact ⟨rfl, hview⟩
      · rw [hb, hb']
        exact ⟨rfl, Bench.withoutHashes_eq_iff.mpr ⟨hstore, hafter⟩⟩

@[grind ←]
theorem blind_readFile (path : String) : Blind (readFile path) := by
  simp only [readFile]
  refine twins_atomic fun b b' hview => ?_
  have hread : b.disk.read? path = b'.disk.read? path := by
    rw [← Disk.read?_withoutHashes, (Bench.withoutHashes_eq_iff.mp hview).2,
      Disk.read?_withoutHashes]
  rw [hread]
  cases b'.disk.read? path with
  | none => exact ⟨rfl, hview⟩
  | some text => exact ⟨rfl, hview⟩

end Work

/-! ## Commands -/

/-- What a command does: it makes sure that there is an administrator, and goes on from there. -/
def Command.work (settings : Settings) (format : OutputFormat) (salts : Salts) (now : Instant)
    (command : Command) : Work String := do
  prepare settings salts now
  command.perform settings format salts now

/-- An invocation does the work of its command on the store that the settings name. -/
theorem Invocation.run_eq_withStore {i : Invocation} {s : Surroundings} {settings : Settings}
    (h : i.settings s.withVariables = .ok settings) (now : Instant) :
    i.run now s =
      let (result, disk) := withStore settings
        (i.command.work settings i.options.format s.withVariables.salts now) s.withVariables.disk
      (result, { s.withVariables with disk }) := by
  simp only [run, h]
  rfl

/-- Two commands are the same, or they are so but for a password that is supplied, and the checks of
    the two passwords have one outcome. -/
inductive Command.Alike : Command → Command → Prop where
  | same (command : Command) : Alike command command
  | createUser {password password' : String}
      (check : User.checkPassword password = User.checkPassword password')
      (username email : String) (fullName : Option String) (role : String) :
      Alike (.createUser username email password fullName role)
        (.createUser username email password' fullName role)
  | setPassword {password password' : String}
      (check : User.checkPassword password = User.checkPassword password') (username : String) :
      Alike (.setPassword username password) (.setPassword username password')

section Carrying

variable {settings : Settings} {password : String} {format : OutputFormat} {salts : Salts}
  {now : Instant}

/-- Whether a password for the first account is long enough is all that shows of it. -/
theorem twins_prepare
    (h : User.checkPassword password = User.checkPassword settings.auth.firstAdmin.password) :
    Twins id (prepare settings salts now)
      (prepare (settings.withFirstPassword password) salts now) := by
  have hshown : settings.auth.firstAdmin.shown
      = (settings.withFirstPassword password).auth.firstAdmin.shown := Prod.ext rfl h.symm
  simp only [prepare]
  exact (Work.twins_onStore (Users.twins_ensureFirstAdmin hshown _ now) _).bind fun _ _ _ =>
    (Work.blind_perform (Logins.blind_purge now)).bind fun _ => twins_pure rfl

@[grind ←]
theorem blind_roleOf (word : String) : Blind (roleOf word) := Work.blind_require _ _

/-- Documents are imported the same, up to the first that is refused. -/
@[grind ←]
theorem blind_importAll (docs : List TrackDocument) : Blind (importAll now docs) := by
  induction docs with
  | nil => exact blind_pure []
  | cons doc rest ih =>
      have himport := Work.twins_onStore (Tracks.blind_importOne doc .system now)
        (.importing doc.name)
      exact blind_bind himport fun t => blind_bind ih fun ts => blind_pure (t :: ts)

@[grind ←]
theorem AuditChoice.blind_filter (c : AuditChoice) : Blind c.filter := by
  have hkind : Blind (c.action.mapM fun word =>
      (Work.require (choice "action" word) .choice : Work AuditAction)) := by
    cases c.action with
    | none => exact blind_pure none
    | some word => exact (Work.blind_require _ _).bind fun _ => twins_pure rfl
  simp only [filter]
  grind

/-- Users that differ in the password only are created the same. -/
theorem Command.twins_createUser {password' : String}
    (h : User.checkPassword password = User.checkPassword password')
    (username email : String) (fullName : Option String) (role first : String) :
    Twins id
      ((Command.createUser username email password fullName role).perform settings format salts
        now)
      ((Command.createUser username email password' fullName role).perform
        (settings.withFirstPassword first) format salts now) := by
  simp only [perform]
  refine (blind_roleOf role).bind fun role => ?_
  refine (Work.twins_perform (Users.twins_create ?_ _ _ _)).bind fun u u' hu => twins_pure ?_
  · exact Prod.ext rfl h
  · rw [User.toJson_congr hu]

/-- Passwords that pass or fail the rule alike are set the same. -/
theorem Command.twins_setPassword {password' : String}
    (h : User.checkPassword password = User.checkPassword password') (username first : String) :
    Twins id ((Command.setPassword username password).perform settings format salts now)
      ((Command.setPassword username password').perform (settings.withFirstPassword first) format
        salts now) := by
  simp only [perform]
  refine (Work.twins_perform (Users.twins_find username)).bind fun u u' hu => ?_
  rcases option_map_eq_map_iff.mp hu with ⟨rfl, rfl⟩ | ⟨u, u', rfl, rfl, hsame⟩
  · exact twins_throw _
  obtain ⟨passwordHash, rfl⟩ := User.exists_of_withoutHash_eq hsame
  exact (Work.twins_perform (Users.twins_changePassword u.id h _ _ now)).bind fun _ _ _ =>
    twins_pure rfl

/-- Users are listed without their hashes. -/
theorem Command.twins_listUsers (search role : Option String) (page : UInt32)
    (size : Option UInt32) :
    Blind ((listUsers search role page size).perform settings format salts now) := by
  have hrole : Blind (role.mapM roleOf) := by
    cases role with
    | none => exact blind_pure none
    | some word => exact (blind_roleOf word).bind fun _ => twins_pure rfl
  simp only [perform]
  refine hrole.bind fun role =>
    (Work.twins_perform (Users.twins_page _ _)).bind fun page page' hpage => ?_
  rw [Page.toJson_congr hpage]
  exact twins_pure rfl

/-- Commands that are alike show the same. -/
theorem Command.Alike.twins_perform {command command' : Command} (h : command.Alike command')
    (first : String) :
    Twins id (command.perform settings format salts now)
      (command'.perform (settings.withFirstPassword first) format salts now) := by
  cases h with
  | createUser check username email fullName role => exact twins_createUser check _ _ _ _ _
  | setPassword check username => exact twins_setPassword check _ _
  | same command =>
      cases command with
      | createUser username email password fullName role => exact twins_createUser rfl _ _ _ _ _
      | setPassword username password => exact twins_setPassword rfl _ _
      | listUsers search role page size => exact twins_listUsers _ _ _ _
      | _ =>
          show Blind _
          simp only [perform]
          grind

/-- Commands that are alike do the same. -/
theorem Command.Alike.twins_work {command command' : Command} (h : command.Alike command')
    {first : String}
    (hfirst : User.checkPassword first = User.checkPassword settings.auth.firstAdmin.password) :
    Twins id (command.work settings format salts now)
      (command'.work (settings.withFirstPassword first) format salts now) :=
  (twins_prepare hfirst).bind fun _ _ _ => h.twins_perform first

end Carrying

end RobotMaze.Console
