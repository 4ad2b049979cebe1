import RobotMaze.Proofs.Service.Traffic
import RobotMaze.Proofs.Session.Overlap
import RobotMaze.Proofs.Store.Rows
import RobotMaze.Proofs.Time.Day
import RobotMaze.Store.Audit

/-! # Stored times — what they are read as, and where they come from

    The times of sessions and of the audit log are texts.  A report compares them as
    they are stored, a page reads them, and both find the same as long as the texts are
    stamps.  No caller writes them: each is the stamp of a clock reading, or of an instant
    that lies before one by as long as a game took:

    * `Time.IsStamp` — a text is the stamp of an instant of a kind;
    * `Time.Told` — such a text is either read as what it is the stamp of, or it
      comes before all readings and is not read at all;
    * `ToldAs.since_iff`, `ToldAs.upTo_iff`, `ToldAs.storedDay_iff` — where it is read,
      comparing the text, and its first ten characters, is comparing what is read;
    * `Told.since_and_iff` — so a condition on the texts from a stamp on is one on the
      instants from there on;
    * `Instant.IsBackward` — the kinds of instants of which such a time is one, if
      the clock readings are;
    * `AuditLog.keeps_logged` — recording adds the entry of an event at the time of the
      clock;
    * `Games.update_upholds_dated` — a session that is written back has the time that
      was read;
    * `Games.dated_shared`, `AuditLog.dated_shared` — so all times are of the kind of
      the clock readings, after every schedule. -/

namespace RobotMaze

open Time (Instant Date)

/-! ## Texts that are read -/

/-- Whether a stored time is read as an instant that satisfies a condition. -/
def timeSatisfies (p : Instant → Bool) (time : String) : Bool :=
  match readTime time with
  | .ok t => p t
  | .error _ => false

namespace Time

/-- A text is the stamp of an instant of a kind. -/
def IsStamp (P : Instant → Prop) (text : String) : Prop := ∃ t, P t ∧ text = t.stamp

/-- A stamp of one kind is one of every wider kind. -/
theorem IsStamp.imp {P Q : Instant → Prop} {text : String} (h : IsStamp P text)
    (himp : ∀ t, P t → Q t) : IsStamp Q text := by
  obtain ⟨t, ht, hstamp⟩ := h
  exact ⟨t, himp t ht, hstamp⟩

/-- A text is the stamp of a reading in whole milliseconds and is read as that. -/
structure ToldAs (text : String) (t : Instant) : Prop where
  reading : t.IsReading
  whole : t.truncate = t
  stamp : text = t.stamp
  read : readTime text = .ok t

/-- A text is read as what it is the stamp of; or its year does not have four digits, and it comes
    before all texts that are read. -/
inductive Told (text : String) : Prop where
  | read {t : Instant} (told : ToldAs text t) : Told text
  | unread (before : ∀ u : Instant, u.HasFourDigitYear → text < u.stamp)
      (unread : ∀ t, readTime text ≠ .ok t) : Told text

variable {text : String} {t since upTo : Instant}

/-- The stamp of a clock reading is read. -/
theorem IsStamp.toldAs (h : IsStamp Instant.IsReading text) : ∃ t, ToldAs text t := by
  obtain ⟨t, ⟨hyear, hnano⟩, rfl⟩ := h
  have hstamped : t.stamped = t.truncate := Instant.stamped_eq_truncate hnano
  refine ⟨t.truncate, ⟨hyear, ?_⟩, Instant.truncate_truncate t, ?_, ?_⟩
  · exact Nat.lt_of_le_of_lt (Nat.div_mul_le_self _ _) hnano
  · rw [← hstamped, Instant.stamp_stamped]
  · rw [readTime_stamp hyear, hstamped]

/-- The stamp of an instant that is no leap second is read, or comes before all that are. -/
theorem IsStamp.told (h : IsStamp (fun t => t.nano < Instant.nanosPerSecond) text) : Told text := by
  obtain ⟨t, hnano, rfl⟩ := h
  by_cases hyear : t.HasFourDigitYear
  · obtain ⟨u, told⟩ := IsStamp.toldAs ⟨t, ⟨hyear, hnano⟩, rfl⟩
    exact .read told
  · exact .unread (fun u hu => Instant.stamp_lt_stamp_of_signed hyear hu) fun u hread =>
      hyear (readTime_stamp_ok hread).1

namespace ToldAs

variable (h : ToldAs text t)
include h

/-- A condition on a stored time is one on what it is read as. -/
theorem timeSatisfies_eq (p : Instant → Bool) : timeSatisfies p text = p t := by
  simp only [timeSatisfies, h.read]

/-- Comparing texts from a reading on is comparing instants from its millisecond on. -/
theorem since_iff (hsince : since.IsReading) : since.stamp ≤ text ↔ since.truncate ≤ t := by
  rw [h.stamp, Instant.stamp_le_stamp_iff hsince h.reading, h.whole]

/-- Comparing texts up to a reading is comparing instants. -/
theorem upTo_iff (hupTo : upTo.IsReading) : text ≤ upTo.stamp ↔ t ≤ upTo := by
  rw [h.stamp, Instant.stamp_le_stamp_iff h.reading hupTo, h.whole, Instant.le_truncate_iff h.whole]

/-- The first characters of a stored time are its day. -/
theorem storedDay_eq : Database.storedDay text = (Date.ofDayNumber t.dayNumber).render := by
  rw [h.stamp]
  exact Instant.take_stamp h.reading.1

/-- Two stored days are the same text if they are the same day. -/
theorem storedDay_iff {n : Int} :
    Database.storedDay text = (Date.ofDayNumber n).render ↔ t.dayNumber = n := by
  rw [h.storedDay_eq]
  exact Date.render_ofDayNumber_injective.eq_iff

end ToldAs

namespace Told

variable (h : Told text)
include h

/-- A text from a stamp on is read, as an instant from there on. -/
theorem exists_of_since (hsince : since.IsReading) (hle : since.stamp ≤ text) :
    ∃ t, ToldAs text t ∧ since.truncate ≤ t := by
  cases h with
  | @read t told => exact ⟨t, told, (told.since_iff hsince).mp hle⟩
  | unread before _ => exact absurd (before since hsince.1) (String.not_lt.mpr hle)

/-- A stored time of a condition is one that is told. -/
theorem exists_of_timeSatisfies {p : Instant → Bool} (hp : timeSatisfies p text = true) :
    ∃ t, ToldAs text t ∧ p t = true := by
  cases h with
  | @read t told => exact ⟨t, told, (told.timeSatisfies_eq p).symm.trans hp⟩
  | unread _ unread =>
      simp only [timeSatisfies] at hp
      cases hread : readTime text with
      | ok t => exact absurd hread (unread t)
      | error e =>
          rw [hread] at hp
          cases hp

/-- Of texts from a stamp on a condition says the same as one of what is read. -/
theorem since_and_iff (hsince : since.IsReading) {Q : Prop} {p : Instant → Bool}
    (hp : ∀ t, ToldAs text t → (p t = true ↔ since.truncate ≤ t ∧ Q)) :
    since.stamp ≤ text ∧ Q ↔ timeSatisfies p text = true := by
  constructor
  · rintro ⟨hle, hq⟩
    obtain ⟨t, told, hsince⟩ := h.exists_of_since hsince hle
    rw [told.timeSatisfies_eq]
    exact (hp t told).mpr ⟨hsince, hq⟩
  · intro hsatisfies
    obtain ⟨t, told, hboth⟩ := h.exists_of_timeSatisfies hsatisfies
    obtain ⟨hle, hq⟩ := (hp t told).mp hboth
    exact ⟨(told.since_iff hsince).mpr hle, hq⟩

end Told

end Time

/-! ## Kinds of instants -/

/-- A kind of instants that is not left by storing an instant, nor by going back from it. -/
structure Time.Instant.IsBackward (P : Instant → Prop) : Prop where
  stamped : ∀ t, P t → P t.stamped
  earlier : ∀ t seconds, 0 ≤ seconds → P t → P { t with second := t.second - seconds }

namespace Time.Instant

/-- No leap second is made by going back. -/
theorem isBackward_nano : IsBackward fun t => t.nano < nanosPerSecond where
  stamped := by
    intro t ht
    rw [stamped_eq_truncate ht]
    exact Nat.lt_of_le_of_lt (Nat.div_mul_le_self _ _) ht
  earlier := fun _ _ _ ht => ht

/-- What lies before an instant does so all the more after going back. -/
theorem isBackward_upTo (now : Instant) :
    IsBackward fun t => t.nano < nanosPerSecond ∧ t ≤ now where
  stamped := by
    rintro t ⟨ht, hnow⟩
    refine ⟨isBackward_nano.stamped t ht, ?_⟩
    rw [stamped_eq_truncate ht]
    exact Instant.le_trans (truncate_le t) hnow
  earlier := by
    rintro t seconds hseconds ⟨ht, hnow⟩
    refine ⟨ht, ?_⟩
    have hle : t.second < now.second ∨ (t.second = now.second ∧ t.nano ≤ now.nano) := hnow
    show t.second - seconds < now.second ∨ (t.second - seconds = now.second ∧ t.nano ≤ now.nano)
    omega

end Time.Instant

variable {P : Instant → Prop} {now : Instant}

/-- What is read of the stamp of an instant of a kind is of that kind. -/
theorem Time.IsStamp.of_read (hP : Instant.IsBackward P) {text : String} (h : IsStamp P text)
    {t : Instant} (hread : readTime text = .ok t) : P t := by
  obtain ⟨u, hu, rfl⟩ := h
  obtain ⟨-, rfl⟩ := readTime_stamp_ok hread
  exact hP.stamped u hu

/-! ## The audit log -/

namespace AuditLog

/-- Every entry has a time of a kind. -/
def Dated (P : Instant → Prop) (s : Store) : Prop :=
  ∀ r ∈ s.database.audit.rows, Time.IsStamp P r.timestamp

/-- Every entry is that of an event at a time of a kind. -/
def Logged (P : Instant → Prop) (s : Store) : Prop :=
  ∀ r ∈ s.database.audit.rows, ∃ id t e, P t ∧ r = AuditRow.ofEvent id t e

/-- Entries of events have the times of these events. -/
theorem Logged.dated {s : Store} (h : Logged P s) : Dated P s := by
  intro r hr
  obtain ⟨id, t, e, ht, rfl⟩ := h r hr
  exact ⟨t, ht, rfl⟩

/-- An entry that is recorded has the time of the clock, so that it changes nothing about whether
    all entries have times of its kind. -/
theorem keeps_logged (hnow : P now) (e : AuditEvent) : (record e now).Keeps (Logged P) := by
  have hinsert : (Op.change (Database.insertAudit e now)).Keeps (Logged P) := by
    refine Op.keeps_change fun s row db h => ?_
    obtain ⟨audit, hinsert, rfl⟩ := Database.insertAudit_ok h
    obtain ⟨id, -, rfl, -, rfl⟩ := Table.insert_ok hinsert
    refine propext ⟨fun hall r hr => hall r (List.mem_append_left _ hr), fun hall r hr => ?_⟩
    rcases List.mem_append.mp hr with hold | hnew
    · exact hall r hold
    · exact ⟨id, now, e, hnow, List.mem_singleton.mp hnew⟩
  have htrail : ∀ entry, (Op.addToTrail entry).Keeps (Logged P) := fun entry =>
    Op.keeps_addToTrail fun _ => rfl
  simp only [record]
  grind

/-- All that calls do to the entries of the log. -/
def logged (P : Instant → Prop) : Pact Store := .always (Logged P)

/-- A call adds entries of events at the time of its clock only. -/
theorem upholds_logged {e : Event} (hnow : P e.now) : (e.call.op e.now).2.Upholds (logged P) := by
  have hkeeps : (e.call.op e.now).2.Keeps (Logged P) :=
    e.call.keeps_of_record (fun _ _ => rfl) (fun _ _ => rfl) (fun _ _ => rfl) (fun _ _ => rfl)
      (keeps_logged hnow)
  exact hkeeps.upholds (Pact.always_sees (Q := id))

/-- After every schedule, every entry is that of an event of a call. -/
theorem logged_shared (trail : Trail) (run : List Event) (schedule : List Turn)
    (hrun : ∀ e ∈ run, P e.now) (hschedule : ∀ e, .arrive e ∈ schedule → P e.now) :
    Logged P (((Store.empty trail).after run).shared schedule) := by
  have hempty : (logged P).holds (Store.empty trail) := fun _ h => nomatch h
  exact Store.holds_shared hempty (fun e he => upholds_logged (hrun e he)) fun e he =>
    upholds_logged (hschedule e he)

/-- After every schedule, all entries have times of the kind of the clock readings. -/
theorem dated_shared (trail : Trail) (run : List Event) (schedule : List Turn)
    (hrun : ∀ e ∈ run, P e.now) (hschedule : ∀ e, .arrive e ∈ schedule → P e.now) :
    Dated P (((Store.empty trail).after run).shared schedule) :=
  (logged_shared trail run schedule hrun hschedule).dated

end AuditLog

/-! ## Sessions -/

namespace Games

/-- Every session has a start of a kind. -/
def Dated (P : Instant → Prop) (sessions : Table SessionRow) : Prop :=
  ∀ r ∈ sessions.rows, Time.IsStamp P r.startTime

/-- All that calls do to the starts of sessions. -/
def dated (P : Instant → Prop) : Pact Store := .always fun s => Dated P s.database.sessions

/-- What is asked of starts looks at the sessions only. -/
theorem dated_sees : (dated P).Sees fun s => s.database.sessions :=
  Pact.always_sees (Q := Dated P)

/-- A new session has a start of the kind. -/
theorem insertSession_upholds_dated {game : GameSession} (hstart : P game.startTime) :
    (Op.change (Database.insertSession game)).Upholds (dated P) := by
  refine fun s => Op.honours_change fun t _ hholds row db hchange => ⟨?_, trivial⟩
  obtain ⟨sessions, hinsert, rfl⟩ := Database.insertSession_ok hchange
  exact Table.forall_rows_insert hinsert hholds fun _ => ⟨game.startTime, hstart, rfl⟩

/-- A session is written back with a start of the kind. -/
theorem updateSession_upholds_dated {game : GameSession} (hstart : P game.startTime) :
    (Op.change (Database.updateSession game)).Upholds (dated P) := by
  refine fun s => Op.honours_change fun t _ hholds n db hchange => ⟨?_, trivial⟩
  rcases Database.updateSession_ok hchange with ⟨-, rfl⟩ | ⟨row, sessions, -, hmodify, rfl⟩
  · exact hholds
  · exact Table.forall_rows_modify hmodify hholds fun _ _ => ⟨game.startTime, hstart, rfl⟩

theorem store_upholds_dated {game : GameSession} (hstart : P game.startTime) :
    (store game).Upholds (dated P) :=
  Op.upholds_bind (insertSession_upholds_dated hstart) fun _ => Op.Reads.upholds (Op.keeps_ofRead _)

/-- What is read of a start is of the kind of all starts. -/
theorem start_of_read (hP : Instant.IsBackward P) {sessions : Table SessionRow}
    (hdated : Dated P sessions) {row : SessionRow} (hrow : row ∈ sessions.rows) {game : GameSession}
    (hread : row.read = .ok game) : P game.startTime := by
  obtain ⟨startTime, endTime, device, hstart, -, -, rfl⟩ := SessionRow.fields_of_read hread
  exact (hdated row hrow).of_read hP hstart

/-- A report leaves the start of a session as it was read. -/
theorem update_upholds_dated (hP : Instant.IsBackward P) (sessionId : String)
    (report : ProgressReport) (now : Instant) :
    (update sessionId report now).Upholds (dated P) := by
  intro s
  simp only [update]
  refine (Op.honours_ofCheck _ s).bind ?_
  rintro ⟨⟩ t ⟨-, rfl⟩
  refine (get_honours sessionId t).bind ?_
  rintro game u ⟨hholds, row, hrow, hread⟩
  have hstart : P game.startTime :=
    start_of_read hP hholds (List.mem_of_find?_eq_some hrow) hread
  cases happly : report.applyTo now game with
  | error f => exact Op.honours_throw _
  | ok next =>
      have hnext : next.startTime = game.startTime := by
        rcases ProgressReport.applyTo_ok happly with rfl | ⟨status, -, -, rfl⟩ <;> rfl
      have hwritten : P next.startTime := hnext ▸ hstart
      refine (updateSession_upholds_dated hwritten u).bind fun _ v _ => ?_
      exact (keeps_get sessionId).upholds dated_sees v

/-- A game starts with its call, or as long before as it took. -/
theorem Call.upholds_dated (hP : Instant.IsBackward P) (hnow : P now) (c : Call) :
    (c.op now).2.Upholds (dated P) := by
  have hstore : ∀ game, P game.startTime → (store game).Upholds (dated P) := fun _ =>
    store_upholds_dated
  cases c with
  | start trackId sessionId client =>
      have hopened : ∀ cells, P (opened sessionId trackId cells client now).startTime :=
        fun _ => hnow
      show (Games.start trackId sessionId client now).Upholds _
      simp only [Games.start]
      grind
  | update sessionId report position => exact update_upholds_dated hP sessionId report now
  | recordQuick trackId completed seconds moves client =>
      show (Games.recordQuick trackId completed seconds moves client now).Upholds _
      simp only [Games.recordQuick]
      cases hbegun : now.addSeconds? (-max seconds 0) with
      | none => grind
      | some startTime =>
          have hstart : P startTime := by
            rw [Instant.eq_of_addSeconds? hbegun, ← Int.sub_eq_add_neg]
            exact hP.earlier now _ (Int.le_max_right _ _) hnow
          have hopened : ∀ sessionId cells,
              P (opened sessionId trackId cells client startTime).startTime := fun _ _ => hstart
          grind
  | _ => exact (Call.keeps_of_reading rfl).upholds dated_sees

/-- A call leaves starts of the kind of its clock. -/
theorem upholds_dated (hP : Instant.IsBackward P) {e : Event} (hnow : P e.now) :
    (e.call.op e.now).2.Upholds (dated P) := by
  obtain ⟨now, c⟩ := e
  cases c with
  | games c => exact c.upholds_dated hP hnow
  | _ => exact (Call.keeps_sessions fun _ h => by cases h).upholds dated_sees

/-- After every schedule, every session has a start of the kind of the clock readings. -/
theorem dated_shared (hP : Instant.IsBackward P) (trail : Trail) (run : List Event)
    (schedule : List Turn) (hrun : ∀ e ∈ run, P e.now)
    (hschedule : ∀ e, .arrive e ∈ schedule → P e.now) :
    Dated P (((Store.empty trail).after run).shared schedule).database.sessions := by
  have hempty : (dated P).holds (Store.empty trail) := fun _ h => nomatch h
  exact Store.holds_shared hempty (fun e he => upholds_dated hP (hrun e he)) fun e he =>
    upholds_dated hP (hschedule e he)

end Games

end RobotMaze
