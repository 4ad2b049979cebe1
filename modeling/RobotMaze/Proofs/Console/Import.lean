import RobotMaze.Proofs.Secrecy.Commands
import RobotMaze.Proofs.Track.Import
import RobotMaze.Proofs.Track.Recorded
import RobotMaze.Proofs.User.Recorded

/-! # Imports of a file

    The tracks of a file are taken in one after the other, and the first one that is
    refused ends the command.  What was taken in before stays.

    * `Work.run`, `Work.Ends` — work that nobody interrupts, and how it ends;
    * `Tracks.TakesIn` — what the import of one document does to the tables;
    * `Console.TakenIn` — what the import of several does, one by one;
    * `Console.Prepared` — what is in the tables when a command begins;
    * `Console.ImportOutcome` — how a command ends that imports a file;
    * `Invocation.import_outcome` — so it does, in any folder. -/

namespace RobotMaze

open Time (Instant)

/-! ## One document -/

/-- A store takes in a document as a track: a row is added that is made from the document, under
    the next id and the first name that is free, and this is noted in the log.  No other table is
    different. -/
inductive Tracks.TakesIn (now : Instant) (doc : TrackDocument) (t : Track) (s u : Store) :
    Prop where
  | added {base : String} {checked : CheckedTrack} {row : TrackRow}
      (version : doc.checkVersion = .ok ()) (name : Track.checkName doc.name = .ok base)
      (rules : { doc.toNewTrack with
        name := freeName (s.database.activeTracks.map TrackRow.name) base }.check = .ok checked)
      (next : s.database.tracks.nextId? = some row.id)
      (made : row = Database.newTrackRow checked Actor.system.username now row.id)
      (read : row.read = .ok t)
      (noted : Database.Notes (event .system "Track imported" .imported t) now
        { s.database with tracks := s.database.tracks.append row } u.database)

namespace Tracks

variable {now : Instant} {s : Store}

/-- The names of the active tracks are read as they are stored. -/
theorem names_of_active {tracks : List Track} (h : active.answer s = .ok tracks) :
    tracks.map Track.name = s.database.activeTracks.map TrackRow.name := by
  rw [active_answer] at h
  simp only [readAll] at h
  rw [Op.answer_ofRead] at h
  exact names_of_reads (mapM_ok_iff.mp h)

/-- An import takes its document in, or nothing is different after it. -/
theorem importOne_takesIn (hnow : now.HasFourDigitYear) (doc : TrackDocument) :
    (importOne doc .system now).Ends s fun r u => (∃ f, r = .error f ∧ u = s)
      ∨ ∃ t, r = .ok t ∧ TakesIn now doc t s u := by
  simp only [importOne]
  refine Op.Ends.reading (Op.keeps_ofCheck _) (fun f _ => .inl ⟨f, rfl, rfl⟩) fun _ hversion => ?_
  refine Op.Ends.reading (Op.keeps_ofCheck _) (fun f _ => .inl ⟨f, rfl, rfl⟩) fun base hbase => ?_
  refine Op.Ends.reading keeps_active (fun f _ => .inl ⟨f, rfl, rfl⟩) fun tracks htracks => ?_
  refine Op.Ends.reading (Op.keeps_ofCheck _) (fun f _ => .inl ⟨f, rfl, rfl⟩) fun t ht => ?_
  have hcheck := Op.ofCheck_ok ht
  rw [names_of_active htracks] at hcheck
  refine (store_adds hnow .system hcheck).bind ?_ ?_
  · rintro track u (⟨f, hf, -⟩ | ⟨_, id, hok, hnext, hread, hstore⟩)
    · cases hf
    · obtain rfl := Except.ok.inj hok
      have hnoted := u.noted_database (event .system "Track imported" .imported track) now
      subst hstore
      exact Op.Ends.noting (Op.ends_pure (.inr ⟨track, rfl, .added (Op.ofCheck_ok hversion)
        (Op.ofCheck_ok hbase) hcheck hnext rfl hread hnoted⟩))
  · rintro f u (⟨_, -, rfl⟩ | ⟨_, _, hok, -⟩)
    · exact .inl ⟨f, rfl, rfl⟩
    · cases hok

end Tracks

namespace Console

open Tracks (TakesIn)

/-! ## Work that nobody interrupts -/

namespace Work

variable {α β : Type} {b : Bench} {post : Except Fault α → Bench → Prop}

/-- The outcome of work, taken all at once, and the bench after it. -/
def run (w : Work α) (b : Bench) : Except Fault α × Bench := Steps.run (ExceptT.run w) b

/-- A condition on the outcome of work and on the bench after it. -/
def Ends (w : Work α) (b : Bench) (post : Except Fault α → Bench → Prop) : Prop :=
  post (w.run b).1 (w.run b).2

theorem ends_pure {a : α} (h : post (.ok a) b) : (pure a : Work α).Ends b post := h

theorem Ends.bind {x : Work β} {f : β → Work α} {mid : Except Fault β → Bench → Prop}
    (hx : x.Ends b mid) (hok : ∀ a c, mid (.ok a) c → (f a).Ends c post)
    (herror : ∀ e c, mid (.error e) c → post (.error e) c) : (x >>= f).Ends b post := by
  simp only [Ends, run] at hx ⊢
  rw [Steps.run_bind_except]
  cases hresult : (Steps.run (ExceptT.run x) b).1 with
  | ok a =>
      rw [hresult] at hx
      exact hok a _ hx
  | error e =>
      rw [hresult] at hx
      exact herror e _ hx

theorem run_stepsOnStore (x : Steps Store α) (b : Bench) :
    (stepsOnStore x).run b = ((x.run b.store).1, { b with store := (x.run b.store).2 }) := by
  induction x generalizing b with
  | done a => rfl
  | step change next ih => exact ih b.store { b with store := change b.store }

/-- An operation ends on the store of a bench as it ends on the store alone. -/
theorem ends_onStore {op : Op α} {fault : Failure → Fault} {mid : Except Failure α → Store → Prop}
    (h : op.Ends b.store mid) (hok : ∀ a u, mid (.ok a) u → post (.ok a) { b with store := u })
    (herror : ∀ f u, mid (.error f) u → post (.error (fault f)) { b with store := u }) :
    (onStore op fault).Ends b post := by
  have hrun : (onStore op fault).run b
      = ((op.answer b.store).mapError fault, { b with store := (op.run b.store).2 }) := by
    refine (Steps.run_bind (stepsOnStore (ExceptT.run op)) _ b).trans ?_
    rw [run_stepsOnStore]
    simp only [Op.answer, Op.run]
    cases (Steps.run (ExceptT.run op) b.store).1 <;> rfl
  simp only [Ends]
  rw [hrun]
  simp only [Op.Ends] at h
  cases hanswer : op.answer b.store with
  | ok a =>
      rw [hanswer] at h
      exact hok a _ h
  | error f =>
      rw [hanswer] at h
      exact herror f _ h

theorem readFile_ends (path : String) (b : Bench) : (readFile path).Ends b fun r c => c = b
    ∧ ((r = .error (.reading path) ∧ b.disk.read? path = none)
      ∨ ∃ text, r = .ok text ∧ b.disk.read? path = some text) := by
  simp only [Ends]
  cases hread : b.disk.read? path with
  | none =>
      have hrun : (readFile path).run b = (.error (.reading path), b) := by
        show (Steps.atomic _).run b = _
        simp only [Steps.run_atomic, hread]
      rw [hrun]
      exact ⟨rfl, .inl ⟨rfl, rfl⟩⟩
  | some text =>
      have hrun : (readFile path).run b = (.ok text, b) := by
        show (Steps.atomic _).run b = _
        simp only [Steps.run_atomic, hread]
      rw [hrun]
      exact ⟨rfl, .inr ⟨text, rfl, rfl⟩⟩

end Work

/-! ## Several documents -/

/-- Documents are taken in as tracks, one after the other. -/
inductive TakenIn (now : Instant) : List TrackDocument → List Track → Store → Store → Prop where
  | nil (s : Store) : TakenIn now [] [] s s
  | cons {doc : TrackDocument} {docs : List TrackDocument} {t : Track} {tracks : List Track}
      {s v u : Store} (first : TakesIn now doc t s v) (rest : TakenIn now docs tracks v u) :
      TakenIn now (doc :: docs) (t :: tracks) s u

/-- How an import of documents ends: all of them were taken in, or all before one that is
    refused. -/
inductive ImportStops (now : Instant) (docs : List TrackDocument) (s : Store) :
    Except Fault (List Track) → Store → Prop where
  | atEnd {tracks : List Track} {u : Store} (taken : TakenIn now docs tracks s u) :
      ImportStops now docs s (.ok tracks) u
  | atRefusal {done rest : List TrackDocument} {refused : TrackDocument} {tracks : List Track}
      {f : Failure} {u : Store} (split : docs = done ++ refused :: rest)
      (taken : TakenIn now done tracks s u)
      (refusal : (Tracks.importOne refused .system now).answer u = .error f) :
      ImportStops now docs s (.error (.importing refused.name f)) u

variable {settings : Settings} {now : Instant}

/-- One more document was taken in before. -/
theorem ImportStops.cons {doc : TrackDocument} {docs : List TrackDocument} {t : Track}
    {s v u : Store} {r : Except Fault (List Track)} (h : ImportStops now docs v r u)
    (first : TakesIn now doc t s v) : ImportStops now (doc :: docs) s (r.map (t :: ·)) u := by
  cases h with
  | atEnd taken => exact .atEnd (.cons first taken)
  | atRefusal split taken refusal =>
      exact .atRefusal (congrArg (doc :: ·) split) (.cons first taken) refusal

/-- A document is taken in, or it is refused and the bench is the same as before. -/
theorem import_ends (hnow : now.HasFourDigitYear) (doc : TrackDocument) (b : Bench) :
    (Work.onStore (Tracks.importOne doc .system now) (.importing doc.name)).Ends b fun r c =>
      (∃ f, r = .error (.importing doc.name f) ∧ c = b
        ∧ (Tracks.importOne doc .system now).answer b.store = .error f)
      ∨ ∃ t, r = .ok t ∧ c.disk = b.disk ∧ TakesIn now doc t b.store c.store := by
  have hends : (Tracks.importOne doc .system now).Ends b.store fun r u =>
      (Tracks.importOne doc .system now).answer b.store = r
        ∧ ((∃ f, r = .error f ∧ u = b.store) ∨ ∃ t, r = .ok t ∧ TakesIn now doc t b.store u) :=
    ⟨rfl, Tracks.importOne_takesIn hnow doc⟩
  refine Work.ends_onStore hends ?_ ?_
  · rintro t u ⟨-, ⟨f, hf, -⟩ | ⟨_, ht, htaken⟩⟩
    · cases hf
    · obtain rfl := Except.ok.inj ht
      exact .inr ⟨t, rfl, rfl, htaken⟩
  · rintro f u ⟨hanswer, ⟨f', -, rfl⟩ | ⟨t, ht, -⟩⟩
    · exact .inl ⟨f, rfl, rfl, hanswer⟩
    · cases ht

/-- All documents are taken in, or all before the first one that is refused. -/
theorem importAll_ends (hnow : now.HasFourDigitYear) (docs : List TrackDocument) (b : Bench) :
    (importAll now docs).Ends b fun r c =>
      c.disk = b.disk ∧ ImportStops now docs b.store r c.store := by
  -- on the documents, each of which meets the store that the ones before it left
  induction docs generalizing b with
  | nil => exact Work.ends_pure ⟨rfl, .atEnd (.nil b.store)⟩
  | cons doc rest ih =>
      simp only [importAll]
      refine (import_ends hnow doc b).bind ?_ ?_
      · rintro t c (⟨f, hf, -⟩ | ⟨_, ht, hdisk, htaken⟩)
        · cases hf
        obtain rfl := Except.ok.inj ht
        refine (ih c).bind ?_ ?_
        · rintro ts d ⟨hd, hstops⟩
          exact Work.ends_pure ⟨hd.trans hdisk, hstops.cons htaken⟩
        · rintro e d ⟨hd, hstops⟩
          exact ⟨hd.trans hdisk, hstops.cons htaken⟩
      · rintro e c (⟨f, hf, rfl, hrefusal⟩ | ⟨_, hok, -⟩)
        · obtain rfl := Except.error.inj hf
          exact ⟨rfl, .atRefusal (List.nil_append _).symm (.nil _) hrefusal⟩
        · cases hok

/-! ## The command -/

/-- What stands in the tables of tracks and of the log when a command begins: what stood there
    before and, if there was no account at all, the record of the first one. -/
inductive Prepared (now : Instant) (s u : Store) : Prop where
  | same (tracks : u.database.tracks = s.database.tracks)
      (audit : u.database.audit = s.database.audit) : Prepared now s u
  | firstAdmin {e : AuditEvent} {id : Int} (nobody : s.database.users.rows = [])
      (tracks : u.database.tracks = s.database.tracks) (tells : e.Tells .system Users.resource id)
      (noted : AuditLog.Noted e now s.database.audit u.database.audit) : Prepared now s u

/-- How a command ends that imports a file, and what it leaves in the store. -/
inductive ImportOutcome (d : Disk) (file : String) (format : OutputFormat) (now : Instant)
    (s : Store) : Except Fault String → Store → Prop where
  /-- The first account cannot be made. -/
  | unprepared (f : Failure) : ImportOutcome d file format now s (.error (.firstAdmin f)) s
  | unreadable {u : Store} (prepared : Prepared now s u) (read : d.read? file = none) :
      ImportOutcome d file format now s (.error (.reading file)) u
  /-- The file is no JSON, or it holds something other than tracks. -/
  | unusable {u : Store} {text : String} {fault : Fault} (prepared : Prepared now s u)
      (read : d.read? file = some text) (parsed : tracksOf text = .error fault) :
      ImportOutcome d file format now s (.error fault) u
  | refused {u v : Store} {text : String} {docs : List TrackDocument} {fault : Fault}
      (prepared : Prepared now s u) (read : d.read? file = some text)
      (parsed : tracksOf text = .ok docs) (stops : ImportStops now docs u (.error fault) v) :
      ImportOutcome d file format now s (.error fault) v
  | imported {u v : Store} {text : String} {docs : List TrackDocument} {tracks : List Track}
      (prepared : Prepared now s u) (read : d.read? file = some text)
      (parsed : tracksOf text = .ok docs) (taken : TakenIn now docs tracks u v) :
      ImportOutcome d file format now s (.ok (shown format (.list Track.toJson tracks))) v

theorem Prepared.of_eq {s u v : Store} (h : Prepared now s u)
    (htracks : v.database.tracks = u.database.tracks)
    (haudit : v.database.audit = u.database.audit) : Prepared now s v := by
  cases h with
  | same tracks audit => exact .same (htracks.trans tracks) (haudit.trans audit)
  | firstAdmin nobody tracks tells noted =>
      exact .firstAdmin nobody (htracks.trans tracks) tells (haudit ▸ noted)

/-- The first account is made only where there is none. -/
theorem ensureFirstAdmin_prepared (hnow : now.HasFourDigitYear) (config : FirstAdmin)
    (hashing : Hashing) (s : Store) : (Users.ensureFirstAdmin config hashing now).Ends s fun r u =>
      (∃ f, r = .error f ∧ u = s) ∨ ∃ a, r = .ok a ∧ Prepared now s u := by
  by_cases hnobody : s.database.users.rows = []
  · refine (Users.ensureFirstAdmin_recorded hnow config hashing).imp fun r u h => ?_
    cases h with
    | failed f => exact .inl ⟨f, rfl, rfl⟩
    | idle => exact .inr ⟨_, rfl, .same rfl rfl⟩
    | @recorded a id v e changed tells =>
        have hnoted := v.noted_audit e now
        obtain ⟨-, old, new, users, logins, -, -, -, -, rfl⟩ := changed
        exact .inr ⟨a, rfl, .firstAdmin hnobody Store.noted_tracks tells hnoted⟩
  · have hcount : Users.count.answer s = .ok s.database.users.rows.length := rfl
    have hsome : 0 < s.database.users.rows.length := List.length_pos_iff.mpr hnobody
    simp only [Users.ensureFirstAdmin]
    split
    · exact Op.ends_pure (.inr ⟨_, rfl, .same rfl rfl⟩)
    · refine Op.Ends.reading_of_answer Users.keeps_count hcount ?_
      rw [if_pos hsome]
      exact Op.ends_pure (.inr ⟨_, rfl, .same rfl rfl⟩)

theorem prepare_ends (hnow : now.HasFourDigitYear) (settings : Settings) (salts : Salts)
    (b : Bench) : (prepare settings salts now).Ends b fun r c =>
      (∃ f, r = .error (.firstAdmin f) ∧ c = b)
        ∨ c.disk = b.disk ∧ Prepared now b.store c.store ∧ ∃ a, r = .ok a := by
  have hadmin : (Work.onStore (Users.ensureFirstAdmin settings.auth.firstAdmin
      (settings.auth.hashing salts.firstAdmin) now) .firstAdmin).Ends b fun r c =>
        (∃ f, r = .error (.firstAdmin f) ∧ c = b)
          ∨ c.disk = b.disk ∧ Prepared now b.store c.store ∧ ∃ a, r = .ok a := by
    refine Work.ends_onStore (ensureFirstAdmin_prepared hnow _ _ b.store) ?_ ?_
    · rintro a u (⟨f, hf, -⟩ | ⟨_, -, hprepared⟩)
      · cases hf
      · exact .inr ⟨rfl, hprepared, a, rfl⟩
    · rintro f u (⟨f, -, rfl⟩ | ⟨_, ha, -⟩)
      · exact .inl ⟨_, rfl, rfl⟩
      · cases ha
  simp only [prepare]
  refine hadmin.bind ?_ ?_
  · rintro a c (⟨f, hf, -⟩ | ⟨hdisk, hprepared, -⟩)
    · cases hf
    · -- forgetting logins has no part in either table
      exact .inr ⟨hdisk, hprepared.of_eq rfl rfl, (), rfl⟩
  · rintro e c (⟨f, hf, rfl⟩ | ⟨-, -, a, ha⟩)
    · obtain rfl := Except.error.inj hf
      exact .inl ⟨f, rfl, rfl⟩
    · cases ha

/-- The work of the command, once its store is open. -/
theorem import_work_ends (hnow : now.HasFourDigitYear) (settings : Settings) (format : OutputFormat)
    (salts : Salts) (file : String) (b : Bench) :
    (Command.work settings format salts now (.importTracks file)).Ends b fun r c =>
      c.disk = b.disk ∧ ImportOutcome b.disk file format now b.store r c.store := by
  simp only [Command.work]
  refine (prepare_ends hnow settings salts b).bind ?_ ?_
  · rintro _ c (⟨f, hf, -⟩ | ⟨hdisk, hprepared, -⟩)
    · cases hf
    simp only [Command.perform]
    refine (Work.readFile_ends file c).bind ?_ ?_
    · rintro text d ⟨rfl, ⟨hr, -⟩ | ⟨_, hr, hread⟩⟩
      · cases hr
      obtain rfl := Except.ok.inj hr
      rw [hdisk] at hread
      cases hparsed : tracksOf text with
      | error fault => exact ⟨hdisk, .unusable hprepared hread hparsed⟩
      | ok docs =>
          refine (importAll_ends hnow docs d).bind ?_ ?_
          · rintro tracks e ⟨he, hstops⟩
            cases hstops with
            | atEnd taken =>
                exact Work.ends_pure ⟨he.trans hdisk, .imported hprepared hread hparsed taken⟩
          · rintro fault e ⟨he, hstops⟩
            exact ⟨he.trans hdisk, .refused hprepared hread hparsed hstops⟩
    · rintro e d ⟨rfl, ⟨hr, hread⟩ | ⟨_, hr, -⟩⟩
      · obtain rfl := Except.error.inj hr
        exact ⟨hdisk, .unreadable hprepared (hdisk ▸ hread)⟩
      · cases hr
  · rintro e c (⟨f, hf, rfl⟩ | ⟨-, -, a, ha⟩)
    · obtain rfl := Except.error.inj hf
      exact ⟨rfl, .unprepared f⟩
    · cases ha

/-- The disk is not what a file of variables adds to. -/
theorem Surroundings.disk_withVariables (s : Surroundings) : s.withVariables.disk = s.disk := by
  simp only [withVariables]
  split <;> rfl

/-- Work on a store that could be opened. -/
theorem withStore_of_open {settings : Settings} {d disk : Disk} {s : Store}
    (hopen : openStore settings d = .ok (s, disk)) (work : Work String) :
    withStore settings work d = ((work.run ⟨s, disk⟩).1,
      keepStore settings (work.run ⟨s, disk⟩).2.store (work.run ⟨s, disk⟩).2.disk) := by
  simp only [withStore, hopen]
  rfl

namespace Invocation

/-- A command that imports a file takes in its documents up to the first one that is refused.  What
    was taken in stays, and nothing else is put into the tables of tracks and of the log, but for
    the record of the first account. -/
theorem import_outcome {s : Surroundings} {settings : Settings} {file : String}
    {options : CommonOptions} {before : Store} {disk : Disk}
    (hsettings : (Invocation.mk (.importTracks file) options).settings s.withVariables
      = .ok settings)
    (hopen : openStore settings s.disk = .ok (before, disk)) (hnow : now.HasFourDigitYear) :
    ∃ result after, run ⟨.importTracks file, options⟩ now s
        = (result, { s.withVariables with disk := keepStore settings after disk })
      ∧ ImportOutcome disk file options.format now before result after := by
  obtain ⟨hdisk, houtcome⟩ :=
    import_work_ends hnow settings options.format s.withVariables.salts file ⟨before, disk⟩
  refine ⟨_, _, ?_, houtcome⟩
  rw [run_eq_withStore hsettings now, s.disk_withVariables]
  simp only [withStore_of_open hopen, hdisk]

/-- A folder with a file of two tracks, of which the second one has no cells. -/
def twoTracks : Surroundings where
  disk := { files := [("two.json",
    "[\x7b\"name\":\"Lobby\",\"gridConfig\":\"[[1,1,1,1,1],[0,0,0,0,0],[0,0,0,0,0],[0,0,0,0,0]]\","
      ++ "\"startX\":0,\"startY\":0,\"startDirection\":\"EAST\"\x7d,"
      ++ "\x7b\"name\":\"Stairs\",\"gridConfig\":\"[]\","
      ++ "\"startX\":0,\"startY\":0,\"startDirection\":\"EAST\"\x7d]")] }
  environment := []
  configHome := ""
  salts := ⟨[17], [18]⟩

/-- The command that imports this file. -/
def importTwo : Invocation := ⟨.importTracks "two.json", ⟨.json, false, false, none⟩⟩

/-- The first track is taken in, and the second one is refused for its grid. -/
theorem import_outcome_twoTracks :
    let now : Instant := ⟨1772366400, 0⟩
    ∃ before disk, importTwo.settings twoTracks.withVariables = .ok {}
      ∧ openStore {} twoTracks.disk = .ok (before, disk) ∧ now.HasFourDigitYear
      ∧ ∃ result after, importTwo.run now twoTracks
          = (result, { twoTracks.withVariables with disk := keepStore {} after disk })
        ∧ ImportOutcome disk "two.json" .json now before result after := by
  intro now
  have hsettings : (importTwo.settings twoTracks.withVariables).toOption = some {} := by
    decide +kernel
  obtain ⟨⟨before, disk⟩, hopen⟩ :=
    exists_ok (show (openStore {} twoTracks.disk).isOk = true by decide +kernel)
  have hnow : now.HasFourDigitYear := by decide
  exact ⟨before, disk, ok_of_toOption hsettings, hopen, hnow,
    import_outcome (ok_of_toOption hsettings) hopen hnow⟩

/-- The names of the tracks of a store on a disk, and the number of entries of its log. -/
def storedIn (d : Disk) (path : String) : Option (List String × Nat) :=
  (d.openStore path).toOption.map fun (db, _) =>
    (db.tracks.rows.map TrackRow.name, db.audit.rows.length)

/-- A command that reports an error has imported a track nevertheless. -/
theorem import_keeps_first_of_two :
    storedIn twoTracks.disk ".gfd/gfd.db" = some ([], 0)
      ∧ (let (result, s) := importTwo.run ⟨1772366400, 0⟩ twoTracks
        (result.isOk, storedIn s.disk ".gfd/gfd.db")) = (false, some (["Lobby"], 2)) := by
  decide +kernel

end Invocation

end Console

end RobotMaze
