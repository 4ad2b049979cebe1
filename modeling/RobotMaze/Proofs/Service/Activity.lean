import RobotMaze.Proofs.Service.Dated
import RobotMaze.Proofs.Service.Reports

/-! # Activity — what happened on the latest days

    Entries and sessions are counted by the first ten characters of their times,
    and the counts are looked up by the dates of the calendar.  On the way no row is
    lost, and none is counted on another day:

    * `lookup_tally` — what is looked up is a number of occurrences;
    * `count_between`, `sum_between` — the number of rows on a day, and that the days
      of a span have all of its rows;
    * `ActivitySeries.Tells` — what a series says of a store;
    * `activity_answer`, `activity_tells` — and that the one that is answered says
      it, after every schedule. -/

namespace RobotMaze

open Time (Instant Date)

namespace Reports

/-! ## Counts by day -/

/-- Looking up a value among the tallied ones gives the number of its occurrences. -/
theorem lookup_tally (values : List String) (v : String) :
    ((Database.tally values).lookup v).getD 0 = values.count v := by
  by_cases hv : v ∈ values
  · have hentry : (v, values.count v) ∈ Database.tally values := by
      rw [tally_eq]
      exact List.mem_map.mpr ⟨v, mem_keys_tally.mpr hv, rfl⟩
    rw [Keyed.lookup_of_mem (nodup_keys_tally values) hentry]
    rfl
  · rw [List.count_eq_zero.mpr hv]
    cases hlookup : (Database.tally values).lookup v with
    | none => rfl
    | some n =>
        have hentry := Keyed.mem_of_lookup hlookup
        exact absurd (mem_keys_tally.mp (List.mem_map_of_mem hentry)) hv

section Spans

variable {ρ : Type} {time : ρ → String} {rows : List ρ} {since upTo : Instant} {first n : Int}
  {length : Nat}

/-- The rows of a span of time, both ends included. -/
def between (time : ρ → String) (since upTo : Instant) (rows : List ρ) : List ρ :=
  rows.filter fun r => since.stamp ≤ time r && time r ≤ upTo.stamp

/-- The number of rows on each of so many days, none later than an instant. -/
def countsByDay (time : ρ → String) (rows : List ρ) (first : Int) (length : Nat) (upTo : Instant) :
    List Nat :=
  let days := (between time (.ofDayNumber first) upTo rows).map fun r => Database.storedDay (time r)
  (List.range length).map fun i : Nat =>
    ((Database.tally days).lookup (Date.ofDayNumber (first + i)).render).getD 0

variable (hrows : ∀ r ∈ rows, Time.Told (time r)) (hupTo : upTo.IsReading)
include hrows hupTo

/-- The rows of a span are those whose times are read as instants of the span. -/
theorem length_between (hsince : since.IsReading) :
    (between time since upTo rows).length
      = (rows.filter fun r =>
        timeSatisfies (fun t => since.truncate ≤ t ∧ t ≤ upTo) (time r)).length := by
  rw [between, ← List.countP_eq_length_filter, ← List.countP_eq_length_filter]
  refine List.countP_congr fun r hr => ?_
  rw [Bool.and_eq_true, decide_eq_true_eq, decide_eq_true_eq]
  refine (hrows r hr).since_and_iff hsince fun t told => ?_
  rw [decide_eq_true_eq, told.upTo_iff hupTo]

variable (hfirst : (Instant.ofDayNumber first).HasFourDigitYear)
include hfirst

/-- From a midnight on, the rows on a day are those whose times are read as instants of the day. -/
theorem count_between (hn : first ≤ n) :
    ((between time (.ofDayNumber first) upTo rows).map fun r => Database.storedDay (time r)).count
        (Date.ofDayNumber n).render
      = (rows.filter fun r =>
        timeSatisfies (fun t => t.dayNumber = n ∧ t ≤ upTo) (time r)).length := by
  have hsince := Instant.isReading_ofDayNumber hfirst
  rw [List.count, List.countP_map, between, List.countP_filter, ← List.countP_eq_length_filter]
  refine List.countP_congr fun r hr => ?_
  simp only [Function.comp_apply, Bool.and_eq_true, decide_eq_true_eq, beq_iff_eq]
  rw [and_comm, and_assoc]
  refine (hrows r hr).since_and_iff hsince fun t told => ?_
  rw [decide_eq_true_eq, told.upTo_iff hupTo, told.storedDay_iff, Instant.truncate_ofDayNumber,
    Instant.midnight_le_iff]
  constructor
  · rintro ⟨rfl, hle⟩
    exact ⟨hn, hle, rfl⟩
  · rintro ⟨-, hle, hday⟩
    exact ⟨hday, hle⟩

theorem countsByDay_eq : countsByDay time rows first length upTo
    = (List.range length).map fun i : Nat => (rows.filter fun r =>
      timeSatisfies (fun t => t.dayNumber = first + i ∧ t ≤ upTo) (time r)).length := by
  refine List.map_congr_left fun i _ => ?_
  rw [lookup_tally]
  exact count_between hrows hupTo hfirst (by omega)

/-- The days up to that of an instant have all rows of the span. -/
theorem sum_countsByDay (hlast : upTo.dayNumber < first + length) :
    (countsByDay time rows first length upTo).sum
      = (between time (.ofDayNumber first) upTo rows).length := by
  have hsince := Instant.isReading_ofDayNumber hfirst
  let dates := (List.range length).map fun i : Nat => (Date.ofDayNumber (first + i)).render
  have hdates : dates.Nodup := by
    refine List.nodup_range.map_on fun i _ j _ hij => ?_
    have hsame : first + i = first + j := Date.render_ofDayNumber_injective hij
    omega
  -- every row of the span has one of the dates
  have hdays : ∀ r ∈ between time (.ofDayNumber first) upTo rows,
      Database.storedDay (time r) ∈ dates := by
    intro r hr
    obtain ⟨hmem, hspan⟩ := List.mem_filter.mp hr
    rw [Bool.and_eq_true, decide_eq_true_eq, decide_eq_true_eq] at hspan
    obtain ⟨t, told, hle⟩ := (hrows r hmem).exists_of_since hsince hspan.1
    rw [Instant.truncate_ofDayNumber, Instant.midnight_le_iff] at hle
    have hday := Instant.dayNumber_le ((told.upTo_iff hupTo).mp hspan.2)
    refine List.mem_map.mpr ⟨(t.dayNumber - first).toNat, List.mem_range.mpr (by omega), ?_⟩
    rw [told.storedDay_eq, Int.toNat_of_nonneg (by omega),
      (by omega : first + (t.dayNumber - first) = t.dayNumber)]
  have hperm := perm_flatMap_filter (fun r => Database.storedDay (time r)) hdates hdays
  rw [← hperm.length_eq, List.length_flatMap, List.map_map, countsByDay]
  congr 1
  refine List.map_congr_left fun i _ => ?_
  rw [lookup_tally, List.count, List.countP_map, List.countP_eq_length_filter]
  rfl

end Spans

/-- A number of days is held between one day and a year. -/
theorem toNat_heldDays (count : UInt32) :
    (heldDays count).toNat = max 1 (min count.toNat 365) := by
  rw [heldDays, UInt32.toNat_max, UInt32.toNat_min]
  rfl

/-! ## The series -/

end Reports

/-- The sessions whose starts are read as instants that satisfy a condition. -/
def Store.sessionsWhen (s : Store) (p : Instant → Bool) : List SessionRow :=
  s.database.sessions.rows.filter fun r => timeSatisfies p r.startTime

/-- The entries whose times are read as instants that satisfy a condition. -/
def Store.auditWhen (s : Store) (p : Instant → Bool) : List AuditRow :=
  s.database.audit.rows.filter fun r => timeSatisfies p r.timestamp

/-- What a series says of so many days up to an instant: how many sessions and entries there are on
    each of the days, none later than the instant, and by what name the day goes. -/
structure ActivitySeries.Tells (a : ActivitySeries) (s : Store) (first : Int) (length : Nat)
    (now : Instant) : Prop where
  labels : a.labels = (List.range length).map fun i : Nat =>
    Time.weekdayName (first + i) ++ " " ++ toString (Date.ofDayNumber (first + i)).day
  games : a.games = (List.range length).map fun i : Nat =>
    (s.sessionsWhen fun t => t.dayNumber = first + i ∧ t ≤ now).length
  audit : a.audit = (List.range length).map fun i : Nat =>
    (s.auditWhen fun t => t.dayNumber = first + i ∧ t ≤ now).length
  sum_games : a.games.sum = (s.sessionsWhen fun t => .ofDayNumber first ≤ t ∧ t ≤ now).length
  sum_audit : (AuditLog.countBetween (.ofDayNumber first) now).answer s = .ok a.audit.sum

namespace Reports

theorem activity_answer {s : Store}
    (hsessions : Games.Dated (fun t => t.nano < Instant.nanosPerSecond) s.database.sessions)
    (haudit : AuditLog.Dated (fun t => t.nano < Instant.nanosPerSecond) s) {now : Instant}
    (hnow : now.IsReading) {count : UInt32} {length : Nat}
    (hlength : length = max 1 (min count.toNat 365)) {first : Int}
    (hfirst : first = now.dayNumber - (length - 1))
    (hyear : (Instant.ofDayNumber first).HasFourDigitYear) :
    ∃ a, (activity count now).answer s = .ok a ∧ a.Tells s first length now := by
  have hlast : now.dayNumber < first + length := by omega
  have hsessionTimes : ∀ r ∈ s.database.sessions.rows, Time.Told r.startTime := fun r hr =>
    (hsessions r hr).told
  have hauditTimes : ∀ r ∈ s.database.audit.rows, Time.Told r.timestamp := fun r hr =>
    (haudit r hr).told
  have hgames : ((s.database.sessionsSince (.ofDayNumber first)).filter fun r =>
        r.startTime ≤ now.stamp)
      = between SessionRow.startTime (.ofDayNumber first) now s.database.sessions.rows := by
    rw [Database.sessionsSince, List.filter_filter]
    exact List.filter_congr fun r _ => Bool.and_comm _ _
  have hspan := length_between hsessionTimes hnow (Instant.isReading_ofDayNumber hyear)
  rw [Instant.truncate_ofDayNumber] at hspan
  refine ⟨{
    labels := (List.range length).map fun i : Nat => dayLabel (first + i)
    games := countsByDay SessionRow.startTime s.database.sessions.rows first length now
    audit := countsByDay AuditRow.timestamp s.database.audit.rows first length now
    period := toString length ++ " days" }, ?_, ?_⟩
  · rw [← toNat_heldDays] at hlength
    subst hlength
    simp only [countsByDay]
    rw [← hgames, hfirst]
    show Except.ok _ = Except.ok _
    simp only [List.map_map]
    rfl
  · exact {
      labels := rfl
      games := countsByDay_eq hsessionTimes hnow hyear
      audit := countsByDay_eq hauditTimes hnow hyear
      sum_games := (sum_countsByDay hsessionTimes hnow hyear hlast).trans hspan
      sum_audit := congrArg Except.ok (sum_countsByDay hauditTimes hnow hyear hlast).symm }

/-- After every schedule, at every clock reading and for any number of days, there is a series, and
    it has for each of the days, none left out, what is stored of the day. -/
theorem activity_tells (trail : Trail) (run : List Event) (schedule : List Turn)
    (hrun : ∀ e ∈ run, e.now.nano < Instant.nanosPerSecond)
    (hschedule : ∀ e, .arrive e ∈ schedule → e.now.nano < Instant.nanosPerSecond) {now : Instant}
    (hnow : now.IsReading) {count : UInt32} {length : Nat}
    (hlength : length = max 1 (min count.toNat 365)) {first : Int}
    (hfirst : first = now.dayNumber - (length - 1))
    (hyear : (Instant.ofDayNumber first).HasFourDigitYear) :
    let s := ((Store.empty trail).after run).shared schedule
    ∃ a, (activity count now).answer s = .ok a ∧ a.Tells s first length now :=
  activity_answer (Games.dated_shared Instant.isBackward_nano trail run schedule hrun hschedule)
    (AuditLog.dated_shared trail run schedule hrun hschedule) hnow hlength hfirst hyear

/-- A track is made on a Sunday.  There are games on the day before and on the day itself, the last
    of them an hour after the others. -/
def weekend : List Event := Games.oneTrack ++
  [⟨⟨1772290000, 0⟩, .games (.recordQuick 1 true 30 2 {})⟩,
   ⟨⟨1772366460, 0⟩, .games (.recordQuick 1 true 30 2 {})⟩,
   ⟨⟨1772370000, 0⟩, .games (.recordQuick 1 true 30 2 {})⟩]

/-- The series of three days around the end of February. -/
theorem activity_tells_weekend :
    let s := ((Store.empty .disabled).after weekend).shared []
    let now : Instant := ⟨1772366700, 0⟩
    (∀ e ∈ weekend, e.now.nano < Instant.nanosPerSecond) ∧ now.IsReading
      ∧ (Instant.ofDayNumber (now.dayNumber - 2)).HasFourDigitYear
      ∧ (activity 3 now).answer s
        = .ok ⟨["Fri 27", "Sat 28", "Sun 1"], [0, 0, 1], [0, 1, 1], "3 days"⟩
      ∧ ActivitySeries.Tells ⟨["Fri 27", "Sat 28", "Sun 1"], [0, 0, 1], [0, 1, 1], "3 days"⟩ s
        (now.dayNumber - 2) 3 now := by
  have hrun : ∀ e ∈ weekend, e.now.nano < Instant.nanosPerSecond := by decide
  have hnow : (⟨1772366700, 0⟩ : Instant).IsReading := by decide
  have hyear :
      (Instant.ofDayNumber ((⟨1772366700, 0⟩ : Instant).dayNumber - 2)).HasFourDigitYear := by
    decide
  have hanswer : (activity 3 ⟨1772366700, 0⟩).answer
        (((Store.empty .disabled).after weekend).shared [])
      = .ok ⟨["Fri 27", "Sat 28", "Sun 1"], [0, 0, 1], [0, 1, 1], "3 days"⟩ := by
    decide +kernel
  obtain ⟨a, ha, htells⟩ := activity_tells .disabled weekend [] hrun (fun _ h => nomatch h) hnow
    (by decide : 3 = max 1 (min (3 : UInt32).toNat 365)) rfl hyear
  obtain rfl := Except.ok.inj (ha.symm.trans hanswer)
  exact ⟨hrun, hnow, hyear, hanswer, htells⟩

end Reports

end RobotMaze
