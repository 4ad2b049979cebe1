import RobotMaze.Proofs.Audit.Trail
import RobotMaze.Proofs.Service.Calls
import RobotMaze.Proofs.Service.Recorded
import RobotMaze.Proofs.Store.Listing

/-! # The trail mirrors the log

    The table keeps a row for each event, the trail a line.  The line is written
    from the entry that the row reads as, so either says the same.  Between the row of an
    event and its line there is a moment at which the two do not agree, so what is said
    of both holds between calls.

    * `Store.log` — the table of entries and the trail;
    * `Op.Maintains` — a condition that holds before an operation holds after it;
    * `Call.maintains` — a condition on the log that noting maintains is maintained
      by every call;
    * `Store.noted_eq` — the row and the line that noting an event adds;
    * `AuditLog.Kept` — the entries of a table, and a trail made up of them;
    * `AuditLog.Mirrored` — each file holds the entries of its day, and there is no
      other file;
    * `AuditLog.mirrored_after` — so it is after every run. -/

namespace RobotMaze

open Time (Instant Date)

/-! ## What holds after every call -/

/-- The table of entries and the trail of a store. -/
def Store.log (s : Store) : Table AuditRow × Trail := (s.database.audit, s.trail)

namespace Op

variable {α β : Type} {P : Store → Prop}

/-- A condition that holds before an operation holds after it as well. -/
def Maintains (P : Store → Prop) (op : Op α) : Prop := ∀ s, P s → P (op.run s).2

@[grind ←]
theorem maintains_pure (a : α) : (pure a : Op α).Maintains P := fun _ hs => hs

@[grind ←]
theorem maintains_throw (e : Failure) : (throw e : Op α).Maintains P := fun _ hs => hs

/-- What only reads maintains every condition. -/
@[grind ←]
theorem Reads.maintains {op : Op α} (h : op.Reads) : op.Maintains P := by
  intro s hs
  rw [h.run]
  exact hs

/-- Two operations in a row maintain what both do. -/
@[grind ←]
theorem maintains_bind {x : Op α} {f : α → Op β} (hx : x.Maintains P)
    (hf : ∀ a, (f a).Maintains P) : (x >>= f).Maintains P := by
  intro s hs
  rw [run_bind]
  cases x.answer s with
  | ok a => exact hf a _ (hx s hs)
  | error e => exact hx s hs

/-- Catching a failure maintains what the operation does. -/
@[grind ←]
theorem maintains_attempt {op : Op α} (h : op.Maintains P) : op.attempt.Maintains P := by
  intro s hs
  have hends : op.Ends s fun _ t => P t := h s hs
  obtain ⟨_, -, ht⟩ := hends.attempt
  exact ht

end Op

/-- A condition that looks at nothing but the log. -/
def OnLog (P : Store → Prop) : Prop := ∀ s t, t.log = s.log → P s → P t

section Calls

variable {P : Store → Prop} {now : Instant} {α : Type}

/-- What leaves the log alone maintains every condition on it. -/
theorem Op.Keeps.maintains {op : Op α} (h : op.Keeps Store.log) (hlog : OnLog P) : op.Maintains P :=
  fun s => hlog s _ (h.run s)

/-- What is recorded is noted. -/
theorem AuditLog.record_maintains (hnote : ∀ e, (note e now).Maintains P) (e : AuditEvent) :
    (record e now).Maintains P := by
  intro s hs
  rw [run_record]
  exact hnote e s hs

variable (hlog : OnLog P) (hnote : ∀ e, (AuditLog.note e now).Maintains P)
include hlog hnote

/-- Calls for tracks do no more to the log than noting. -/
theorem Tracks.Call.maintains (c : Tracks.Call) : (c.op now).2.Maintains P := by
  have htracks : BesideTracks Store.log := fun _ _ => rfl
  have hstore := fun t actor => (keeps_store htracks t actor now).maintains hlog
  have hmodify := fun id condition f => (Op.keeps_modifyTrack htracks id condition f).maintains hlog
  cases c with
  | create input actor =>
      show (Tracks.create input actor now).Maintains P
      simp only [Tracks.create]
      grind
  | update id change actor =>
      show (Tracks.update id change actor now).Maintains P
      simp only [Tracks.update]
      grind
  | delete id actor =>
      show (Tracks.delete id actor now).Maintains P
      simp only [Tracks.delete]
      grind
  | reactivate id actor =>
      show (Tracks.reactivate id actor now).Maintains P
      simp only [Tracks.reactivate]
      grind
  | importOne doc actor =>
      show (Tracks.importOne doc actor now).Maintains P
      simp only [Tracks.importOne]
      grind
  | exportOne id actor =>
      show (Tracks.exportOne id actor now).Maintains P
      simp only [Tracks.exportOne]
      grind
  | exportAll activeOnly actor =>
      show (Tracks.exportAll activeOnly actor now).Maintains P
      simp only [Tracks.exportAll]
      grind
  | _ => exact Op.Reads.maintains (keeps_of_silent rfl rfl)

omit hlog in
/-- Calls of the log itself do no more to it than recording. -/
theorem AuditLog.Call.maintains (c : AuditLog.Call) : (c.op now).2.Maintains P := by
  cases c with
  | record e => exact record_maintains hnote e
  | note e => exact hnote e
  | _ => exact Op.Reads.maintains (keeps_of_reading rfl)

/-- Creating an account does no more to the log than noting. -/
theorem Users.create_maintains (input : NewUser) (hashing : Hashing) (actor : Actor) :
    (create input hashing actor now).Maintains P := by
  have hinsert := fun make => (Op.keeps_insertUser (fun _ _ => rfl) make).maintains hlog
  simp only [create]
  grind

/-- Calls for users do no more to the log than noting. -/
theorem Users.Call.maintains (c : Users.Call) : (c.op now).2.Maintains P := by
  have husers : BesideUsers Store.log := fun _ _ => rfl
  have hcreate := create_maintains hlog hnote
  have hmodify := fun id condition f => (Op.keeps_modifyUser husers id condition f).maintains hlog
  have hend := fun id => (keeps_endLogins (fun _ _ => rfl) id).maintains hlog
  cases c with
  | create input hashing actor => exact hcreate input hashing actor
  | ensureFirstAdmin config hashing =>
      show (Users.ensureFirstAdmin config hashing now).Maintains P
      simp only [Users.ensureFirstAdmin]
      grind
  | update id change hashing actor =>
      show (Users.update id change hashing actor now).Maintains P
      simp only [Users.update]
      grind
  | delete id actor =>
      show (Users.delete id actor now).Maintains P
      simp only [Users.delete]
      grind
  | reactivate id actor =>
      show (Users.reactivate id actor now).Maintains P
      simp only [Users.reactivate]
      grind
  | changePassword id password hashing actor =>
      show (Users.changePassword id password hashing actor now).Maintains P
      simp only [Users.changePassword]
      grind
  | authenticate username password =>
      exact (keeps_authenticate husers username password now).maintains hlog
  | endLogins id => exact hend id
  | _ => exact Op.Reads.maintains (keeps_of_reading rfl)

/-- Calls for logins do no more to the log than noting. -/
theorem Logins.Call.maintains (c : Logins.Call) : (c.op now).2.Maintains P := by
  have husers : BesideUsers Store.log := fun _ _ => rfl
  have hlogins : BesideLogins Store.log := fun _ _ => rfl
  have hopen := fun u token seconds actor =>
    (keeps_openFor hlogins u token seconds actor now).maintains hlog
  have hclose := fun token => (keeps_close hlogins token).maintains hlog
  have hresolve := fun token => (keeps_resolve hlogins token now).maintains hlog
  have hauthenticate := fun username password =>
    (Users.keeps_authenticate husers username password now).maintains hlog
  cases c with
  | openFor u token seconds actor => exact hopen u token seconds actor
  | close token => exact hclose token
  | resolve token => exact hresolve token
  | purge => exact (keeps_purge hlogins now).maintains hlog
  | logIn username password token seconds actor =>
      show (Logins.logIn username password token seconds actor now).Maintains P
      simp only [Logins.logIn]
      grind
  | logOut token actor =>
      show (Logins.logOut token actor now).Maintains P
      simp only [Logins.logOut]
      grind

/-- A condition on the log that noting maintains is maintained by every call. -/
theorem Call.maintains (c : Call) : (c.op now).2.Maintains P := by
  cases c with
  | tracks c => exact c.maintains hlog hnote
  | users c => exact c.maintains hlog hnote
  | logins c => exact c.maintains hlog hnote
  | audit c => exact c.maintains hnote
  | games c => exact (c.keeps fun _ _ => rfl).maintains hlog
  | reports c => exact Op.Reads.maintains c.keeps

end Calls

/-! ## Rows and lines -/

/-- The entry that is read from the row of an event. -/
def AuditEvent.entryAt (e : AuditEvent) (id : Int) (now : Instant) : AuditEntry where
  id := id
  username := e.username
  action := e.action
  kind := e.kind
  resourceType := e.resourceType
  resourceId := readText e.resourceId
  resourceName := readText e.resourceName
  details := readText e.details
  timestamp := now.stamped
  ipAddress := readText e.ipAddress
  userAgent := readText e.userAgent
  status := e.status
  errorMessage := readText e.errorMessage

section Noting

variable {e : AuditEvent} {id : Int} {now : Instant}

theorem readName_of_ofName? {α : Type} [Named α] {a : α}
    (h : Named.ofName? (Named.name a) = some a) : readName (Named.name a) = .ok a := by
  simp only [readName]
  rw [h]

/-- The row of an event is read as its entry. -/
theorem AuditRow.read_ofEvent (hnow : now.HasFourDigitYear) (id : Int) (e : AuditEvent) :
    (ofEvent id now e).read = .ok (e.entryAt id now) := by
  simp only [read, ofEvent]
  rw [readName_of_ofName? (AuditEntry.ofName?_kind e.kind), readTime_stamp hnow,
    readName_of_ofName? (AuditEntry.ofName?_status e.status)]
  rfl

/-- An event under an id of 64 bits loses nothing in its line. -/
theorem AuditEvent.writable_entryAt (hnow : now.HasFourDigitYear) (hlow : 0 ≤ id)
    (hhigh : id ≤ maxId) (e : AuditEvent) : (e.entryAt id now).Writable where
  id_low := Int.le_trans (by decide) hlow
  id_high := hhigh
  timestamp := Instant.ofLoose?_stamped hnow

/-- Noting an event adds its row and the line of what the row reads as, unless all ids have been
    given out. -/
theorem Store.noted_eq (hnow : now.HasFourDigitYear) (s : Store) (e : AuditEvent) :
    s.noted e now = match s.database.audit.nextId? with
      | none => s
      | some id =>
          { database := { s.database with audit := s.database.audit.append (.ofEvent id now e) }
            trail := s.trail.append (e.entryAt id now) } := by
  rw [← AuditLog.run_record]
  cases hnext : s.database.audit.nextId? with
  | none =>
      have hinsert : (Op.change (Database.insertAudit e now)).Ends s fun r t =>
          r = .error .refused ∧ t = s := by
        simp only [Op.Ends, Op.answer]
        rw [Op.run_change]
        simp only [Database.insertAudit, Table.insert, hnext]
        exact ⟨rfl, rfl⟩
      refine Op.Ends.store (P := fun t => t = s) (hinsert.attempt.bind ?_ fun f t h => ?_)
      · rintro outcome t ⟨_, hok, rfl, rfl⟩
        obtain rfl := Except.ok.inj hok
        exact Op.ends_pure rfl
      · obtain ⟨_, hok, -⟩ := h
        cases hok
  | some id =>
      have hinsert : (Op.change (Database.insertAudit e now)).Ends s fun r t =>
          r = .ok (.ofEvent id now e) ∧ t = { s with database :=
            { s.database with audit := s.database.audit.append (.ofEvent id now e) } } := by
        simp only [Op.Ends, Op.answer]
        rw [Op.run_change]
        simp only [Database.insertAudit, Table.insert, hnext]
        exact ⟨rfl, rfl⟩
      refine Op.Ends.store (P := fun t => t = _) (hinsert.attempt.bind ?_ fun f t h => ?_)
      · rintro outcome t ⟨_, hok, rfl, rfl⟩
        obtain rfl := Except.ok.inj hok
        simp only [AuditRow.read_ofEvent hnow]
        rfl
      · obtain ⟨_, hok, -⟩ := h
        cases hok

end Noting

namespace AuditLog

/-- A log whose rows can be read, and a trail that is made up of what they read as. -/
structure Kept (log : Table AuditRow × Trail) (entries : List AuditEntry)
    (texts : List (String × String)) : Prop where
  counted : log.1.Counted
  rows : List.Forall₂ (fun row entry => row.read = .ok entry) log.1.rows entries
  writable : ∀ e ∈ entries, e.Writable
  trail : log.2 = .files texts
  files : Trail.Files texts entries

variable {entries : List AuditEntry} {texts : List (String × String)} {s : Store}
  {e : AuditEvent} {now : Instant}

theorem kept_empty : Kept (Store.empty (.files [])).log [] [] where
  counted := Table.Counted.empty
  rows := .nil
  writable := fun _ h => nomatch h
  trail := rfl
  files := Trail.files_nil

/-- Noting an event adds its entry to both. -/
theorem Kept.noted (h : Kept s.log entries texts) (hnow : now.HasFourDigitYear) (e : AuditEvent) :
    ∃ entries texts, Kept (s.noted e now).log entries texts := by
  rw [Store.noted_eq hnow]
  cases hnext : s.database.audit.nextId? with
  | none => exact ⟨entries, texts, h⟩
  | some id =>
      obtain ⟨hid, hmax⟩ := h.counted.eq_of_nextId? hnext
      have hnonneg : 0 ≤ id := hid ▸ Int.le_add_one h.counted.lastId_nonneg
      refine ⟨entries ++ [e.entryAt id now], _, h.counted.append hnext, ?_, ?_, ?_,
        h.files.append _⟩
      · exact List.rel_append h.rows (.cons (AuditRow.read_ofEvent hnow id e) .nil)
      · intro entry hentry
        rcases List.mem_append.mp hentry with hentry | hentry
        · exact h.writable entry hentry
        · rw [List.mem_singleton.mp hentry]
          exact AuditEvent.writable_entryAt hnow hnonneg hmax e
      · have htrail : s.trail = .files texts := h.trail
        show s.trail.append (e.entryAt id now) = _
        rw [htrail]
        rfl

/-- Every run keeps the log. -/
theorem kept_after {run : List Event} (hclock : ∀ e ∈ run, e.now.HasFourDigitYear) :
    ∃ entries texts, Kept ((Store.empty (.files [])).after run).log entries texts := by
  have hlog : OnLog fun s => ∃ entries texts, Kept s.log entries texts := by
    intro s t hsame hs
    show ∃ entries texts, Kept t.log entries texts
    rw [hsame]
    exact hs
  refine Store.after_invariant (P := fun s => ∃ entries texts, Kept s.log entries texts)
    (fun e he => e.call.maintains hlog fun entry s hs => ?_) ⟨_, _, kept_empty⟩
  obtain ⟨entries, texts, h⟩ := hs
  exact h.noted (hclock e he) entry

/-- The files tell the same as the table.  Its rows read as entries, each of which can be asked for
    by its id; every file is named for a day on which there are entries, and its lines are those of
    that day. -/
structure Mirrored (s : Store) (entries : List AuditEntry) (texts : List (String × String)) :
    Prop where
  trail : s.trail = .files texts
  rows : List.Forall₂ (fun row entry => row.read = .ok entry) s.database.audit.rows entries
  rising : entries.Pairwise fun e f => e.id < f.id
  answers : ∀ e ∈ entries, (get e.id).answer s = .ok e
  names : (texts.map Prod.fst).Nodup
  days : ∀ name ∈ texts.map Prod.fst, ∃ e ∈ entries, name = Trail.fileOfDay e.timestamp.date
  missing : ∀ day : Date, day.IsValid → (∀ e ∈ entries, e.timestamp.date ≠ day) →
    texts.lookup (Trail.fileOfDay day) = none
  written : ∀ day : Date, day.IsValid → (∃ e ∈ entries, e.timestamp.date = day) →
    ∃ text, texts.lookup (Trail.fileOfDay day) = some text
      ∧ Trail.Holds text (entries.filter fun e => e.timestamp.date = day)

/-- An entry has the id of its row. -/
theorem id_of_read {row : AuditRow} {entry : AuditEntry} (h : row.read = .ok entry) :
    entry.id = row.id := by
  simp only [AuditRow.read] at h
  obtain ⟨kind, -, h⟩ := ok_of_bind h
  obtain ⟨timestamp, -, h⟩ := ok_of_bind h
  obtain ⟨status, -, h⟩ := ok_of_bind h
  injection h with h
  rw [← h]

/-- An entry is found under its id. -/
theorem get_answer {row : AuditRow} {entry : AuditEntry} (hnumbered : s.database.audit.Numbered)
    (hrow : row ∈ s.database.audit.rows) (hread : row.read = .ok entry) :
    (get entry.id).answer s = .ok entry := by
  have hfind : s.database.auditById entry.id = some row := by
    rw [id_of_read hread]
    exact hnumbered.find?_id hrow
  simp only [get]
  rw [Op.Reads.answer_bind (Op.keeps_query _), Op.answer_query]
  simp only [hfind]
  rw [Op.answer_ofRead, hread]

/-- A trail made up of the entries mirrors them day by day. -/
theorem Kept.mirrored (h : Kept s.log entries texts) : Mirrored s entries texts := by
  have hrows : List.Forall₂ (fun row entry => row.read = .ok entry) s.database.audit.rows entries :=
    h.rows
  refine ⟨h.trail, hrows, ?_, ?_, ?_, ?_, ?_, ?_⟩
  · have hrising := List.pairwise_map.mpr h.counted.numbered.rising
    have hids : entries.map AuditEntry.id = s.database.audit.rows.map AuditRow.id :=
      map_eq_of_forall₂ hrows fun _ _ _ hread => id_of_read hread
    rw [show s.log.1.rows.map Row.id = _ from hids.symm] at hrising
    exact List.pairwise_map.mp hrising
  · intro e he
    obtain ⟨row, hrow, hread⟩ := exists_of_forall₂ hrows he
    exact get_answer h.counted.numbered hrow hread
  · exact h.files.ordered.imp String.ne_of_lt
  · exact fun name hname => h.files.exists_entry hname
  · intro day hday hnone
    have hempty : Trail.ofFile (Trail.fileOfDay day) entries = [] := by
      rw [Trail.ofFile_fileOfDay hday]
      exact List.filter_eq_nil_iff.mpr fun e he => by simpa using hnone e he
    rw [h.files.lookup, Trail.textOf?, if_pos hempty]
  · rintro day hday ⟨e, he, hsame⟩
    have hown := Trail.ofFile_fileOfDay hday entries
    refine ⟨_, ?_, Trail.holds_join fun f hf => h.writable f (List.mem_of_mem_filter hf)⟩
    rw [h.files.lookup, Trail.textOf?, hown, if_neg]
    exact List.ne_nil_of_mem (List.mem_filter.mpr ⟨he, decide_eq_true hsame⟩)

/-- After any run the trail mirrors the log, wherever the clock was set. -/
theorem mirrored_after {run : List Event} (hclock : ∀ e ∈ run, e.now.HasFourDigitYear) :
    ∃ entries texts, Mirrored ((Store.empty (.files [])).after run) entries texts := by
  obtain ⟨entries, texts, h⟩ := kept_after hclock
  exact ⟨entries, texts, h.mirrored⟩

/-- Three events, with a line break in one of them; the clock is put back before the last one. -/
def outOfOrder : List Event :=
  [⟨⟨1772366400, 0⟩, .audit (.note (.new (some "ada") "Shift begun" .configure "shift"))⟩,
    ⟨⟨1772366430, 250000000⟩, .audit (.record
      ((AuditEvent.new none "Lamp broken" .update "lamp").withDetails "left\n\"right\""))⟩,
    ⟨⟨1772280000, 0⟩, .audit (.note (.new (some "ada") "Shift ended" .configure "shift"))⟩]

/-- Two files, each with the entries of its day. -/
theorem mirrored_after_outOfOrder :
    (∀ e ∈ outOfOrder, e.now.HasFourDigitYear)
      ∧ ∃ entries texts, Mirrored ((Store.empty (.files [])).after outOfOrder) entries texts
        ∧ entries.length = 3
        ∧ texts.map Prod.fst = ["audit-2026-02-28.jsonl", "audit-2026-03-01.jsonl"] := by
  have hclock : ∀ e ∈ outOfOrder, e.now.HasFourDigitYear := by decide
  obtain ⟨entries, texts, h⟩ := mirrored_after hclock
  refine ⟨hclock, entries, texts, h, ?_, ?_⟩
  · rw [← h.rows.length_eq]
    decide +kernel
  · have hnames : ((Store.empty (.files [])).after outOfOrder).trail.texts.map Prod.fst
        = ["audit-2026-02-28.jsonl", "audit-2026-03-01.jsonl"] := by
      decide +kernel
    rw [h.trail] at hnames
    exact hnames

end AuditLog

end RobotMaze
