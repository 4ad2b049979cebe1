import RobotMaze.Proofs.Service.Activity

/-! # Daily figures — and the day on which they begin

    The daily figures look back by whole days from the time of the report, and
    the chart of activity from a midnight.  So the figures of the first day are
    those of a part of it (`days_tell_part`), and of all later days they are
    complete:

    * `mem_groups` — a group has all rows of its key;
    * `DayFigures.Tells` — what a line says of some sessions of a day;
    * `Tells.gamesAgo_eq` — what the chart says of the day;
    * `days_tell` — each line tells of the sessions of its day from the beginning of
      the report on, and agrees with the chart if the day began later than that. -/

namespace RobotMaze

open Time (Instant Date)

/-! ## Days -/

namespace Time.Instant

theorem dayNumber_daysAgo (now : Instant) (days : Nat) :
    (Reports.daysAgo now days).dayNumber = now.dayNumber - days := by
  simp only [Reports.daysAgo, addDays, dayNumber, secondsPerDay]
  omega

end Time.Instant

/-- What a line says of some sessions of a day. -/
structure DayFigures.Tells (line : DayFigures) (n : Int) (sessions : List SessionRow) : Prop where
  date : line.date = (Date.ofDayNumber n).render
  total : line.total = sessions.length
  successful : line.successful = sessions.countP fun r => r.status == .success
  failed : line.failed = sessions.countP fun r => r.status == .failed

/-- The number of games that a series has for a day, so many days before its last one. -/
def ActivitySeries.gamesAgo (a : ActivitySeries) (days : Nat) : Option Nat := a.games.reverse[days]?

/-- The chart has the games of each of its days. -/
theorem ActivitySeries.Tells.gamesAgo_eq {a : ActivitySeries} {s : Store} {first : Int}
    {length : Nat} {now : Instant} (h : a.Tells s first length now)
    (hfirst : first = now.dayNumber - (length - 1)) {days : Nat} (hdays : days < a.games.length) :
    a.gamesAgo days
      = some (s.sessionsWhen fun t => t.dayNumber = now.dayNumber - days ∧ t ≤ now).length := by
  have hlength : a.games.length = length := by
    rw [h.games, List.length_map, List.length_range]
  have hday : first + ((length - 1 - days : Nat) : Int) = now.dayNumber - days := by omega
  rw [gamesAgo, List.getElem?_reverse hdays, hlength, h.games, List.getElem?_map,
    List.getElem?_range (by omega), Option.map_some, hday]

/-- Conditions that agree on the instants of a kind are satisfied by the same sessions, if all
    starts are of the kind. -/
theorem Store.sessionsWhen_congr {P : Instant → Prop} (hP : Instant.IsBackward P) {s : Store}
    (hdated : Games.Dated P s.database.sessions) {p q : Instant → Bool}
    (hpq : ∀ t, P t → p t = q t) : s.sessionsWhen p = s.sessionsWhen q := by
  refine List.filter_congr fun r hr => ?_
  simp only [timeSatisfies]
  cases hread : readTime r.startTime with
  | ok t => exact hpq t ((hdated r hr).of_read hP hread)
  | error e => rfl

namespace Reports

theorem mem_groups {ρ : Type} {key : ρ → String} {rows : List ρ} {g : String × List ρ} :
    g ∈ groups key rows ↔ (∃ r ∈ rows, key r = g.1) ∧ g.2 = rows.filter fun r => key r == g.1 := by
  simp only [groups, List.mem_map (f := fun k => (k, rows.filter fun r => key r == k))]
  constructor
  · rintro ⟨k, hk, rfl⟩
    exact ⟨List.mem_map.mp (mem_keys_tally.mp hk), rfl⟩
  · rintro ⟨hkey, hrows⟩
    exact ⟨g.1, mem_keys_tally.mpr (List.mem_map.mpr hkey), Prod.ext rfl hrows.symm⟩

theorem exists_group {ρ : Type} (key : ρ → String) {rows : List ρ} {r : ρ} (hr : r ∈ rows) :
    ∃ g ∈ groups key rows, g.1 = key r :=
  ⟨(key r, rows.filter fun r' => key r' == key r), mem_groups.mpr ⟨⟨r, hr, rfl⟩, rfl⟩, rfl⟩

section Answer

variable {s : Store} {now : Instant}
  (hdated : Games.Dated (fun t => t.nano < Instant.nanosPerSecond ∧ t ≤ now) s.database.sessions)
  {since : Instant} (hsince : since.IsReading)
include hdated hsince

/-- The sessions of a day that a report counts. -/
theorem filter_sessionsSince (n : Int) :
    ((s.database.sessionsSince since).filter fun r =>
        Database.storedDay r.startTime == (Date.ofDayNumber n).render)
      = s.sessionsWhen fun t => t.dayNumber = n ∧ since.truncate ≤ t := by
  rw [Database.sessionsSince, List.filter_filter, Store.sessionsWhen]
  refine List.filter_congr fun r hr => Bool.eq_iff_iff.mpr ?_
  have htold := ((hdated r hr).imp fun t ht => ht.1).told
  rw [Bool.and_eq_true, decide_eq_true_eq, beq_iff_eq, and_comm]
  refine htold.since_and_iff hsince fun t told => ?_
  rw [decide_eq_true_eq, told.storedDay_iff, and_comm]

/-- Each of them is of a day from the first one on to that of the report. -/
theorem exists_day {r : SessionRow} (hr : r ∈ s.database.sessionsSince since) :
    ∃ n, since.dayNumber ≤ n ∧ n ≤ now.dayNumber
      ∧ Database.storedDay r.startTime = (Date.ofDayNumber n).render := by
  obtain ⟨hmem, hle⟩ := List.mem_filter.mp hr
  have hstart := hdated r hmem
  obtain ⟨t, told, hfrom⟩ :=
    (hstart.imp fun t ht => ht.1).told.exists_of_since hsince (of_decide_eq_true hle)
  have hupTo := (hstart.of_read (Instant.isBackward_upTo now) told.read).2
  have hlow : since.truncate.dayNumber ≤ t.dayNumber := Instant.dayNumber_le hfrom
  exact ⟨t.dayNumber, hlow, Instant.dayNumber_le hupTo, told.storedDay_eq⟩

/-- A line tells of the sessions of its day that the report counts. -/
theorem tells_of_group {g : String × List SessionRow}
    (hg : g ∈ groups (fun r => Database.storedDay r.startTime) (s.database.sessionsSince since)) :
    ∃ n, since.dayNumber ≤ n ∧ n ≤ now.dayNumber
      ∧ (DayFigures.new g.1 g.2.length (g.2.countP isSuccess) (g.2.countP isFailed)).Tells n
        (s.sessionsWhen fun t => t.dayNumber = n ∧ since.truncate ≤ t) := by
  obtain ⟨⟨r, hr, hkey⟩, hrows⟩ := mem_groups.mp hg
  obtain ⟨n, hlow, hhigh, hday⟩ := exists_day hdated hsince hr
  rw [← hkey, hday, filter_sessionsSince hdated hsince] at hrows
  refine ⟨n, hlow, hhigh, ?_⟩
  rw [← hrows]
  exact ⟨hkey.symm.trans hday, rfl, rfl, rfl⟩

end Answer

section Days

variable {s : Store} {now : Instant}
  (hdated : Games.Dated (fun t => t.nano < Instant.nanosPerSecond ∧ t ≤ now) s.database.sessions)
include hdated

/-- The sessions of a day are all counted, if the day began after the report does. -/
theorem sessionsWhen_since {since : Instant} {n : Int} (hn : since.dayNumber < n) :
    (s.sessionsWhen fun t => t.dayNumber = n ∧ since ≤ t)
      = s.sessionsWhen fun t => t.dayNumber = n := by
  refine Store.sessionsWhen_congr (Instant.isBackward_upTo now) hdated fun t _ => ?_
  refine decide_eq_decide.mpr ⟨And.left, fun hday => ⟨hday, ?_⟩⟩
  exact Instant.le_of_dayNumber_lt (hday ▸ hn)

/-- No session is left out for being later than the report, if the clock has not gone back. -/
theorem sessionsWhen_upTo (n : Int) :
    (s.sessionsWhen fun t => t.dayNumber = n ∧ t ≤ now)
      = s.sessionsWhen fun t => t.dayNumber = n := by
  refine Store.sessionsWhen_congr (Instant.isBackward_upTo now) hdated fun t ht => ?_
  exact decide_eq_decide.mpr ⟨And.left, fun hday => ⟨hday, ht.2⟩⟩

/-- What the chart says of a day is the number of its sessions, if the clock has not gone back. -/
theorem gamesAgo_of_activity (hnow : now.InCommonEra) (hnano : now.nano < Instant.nanosPerSecond)
    (haudit : AuditLog.Dated (fun t => t.nano < Instant.nanosPerSecond) s) {count : UInt32}
    {a : ActivitySeries} (ha : (activity count now).answer s = .ok a) {n : Int}
    (hn : n ≤ now.dayNumber) (hcovered : (now.dayNumber - n).toNat < a.games.length) :
    a.gamesAgo (now.dayNumber - n).toNat
      = some (s.sessionsWhen fun t => t.dayNumber = n).length := by
  let length := max 1 (min count.toNat 365)
  have hyear : (Instant.ofDayNumber (now.dayNumber - (length - 1))).HasFourDigitYear := by
    refine hnow.yearBefore ?_ ?_ <;>
    · rw [Instant.dayNumber_midnight]
      omega
  have hclocked : Games.Dated (fun t => t.nano < Instant.nanosPerSecond) s.database.sessions :=
    fun r hr => (hdated r hr).imp fun t ht => ht.1
  obtain ⟨b, hb, htells⟩ :=
    activity_answer hclocked haudit ⟨hnow.hasFourDigitYear, hnano⟩ rfl rfl hyear
  obtain rfl := Except.ok.inj (ha.symm.trans hb)
  have hday : now.dayNumber - ((now.dayNumber - n).toNat : Int) = n := by omega
  rw [htells.gamesAgo_eq rfl hcovered, hday, sessionsWhen_upTo hdated]

/-- What the daily figures say of the days from an instant on.  Each line tells of the sessions of its
    day from the instant on.  So if the day began later, it tells of all of them, and the chart has the
    same number, for any range that covers the day.  No day has two lines, and none that has such
    sessions is left out. -/
structure DaysTell (lines : List DayFigures) (s : Store) (since now : Instant) : Prop where
  part : ∀ line ∈ lines, ∃ n, since.dayNumber ≤ n ∧ n ≤ now.dayNumber
    ∧ line.Tells n (s.sessionsWhen fun t => t.dayNumber = n ∧ since ≤ t)
  whole : ∀ line ∈ lines, ∀ n, line.date = (Date.ofDayNumber n).render → since.dayNumber < n →
    line.Tells n (s.sessionsWhen fun t => t.dayNumber = n)
  chart : ∀ line ∈ lines, ∀ n, line.date = (Date.ofDayNumber n).render → since.dayNumber < n →
    ∀ count a, (activity count now).answer s = .ok a → (now.dayNumber - n).toNat < a.games.length →
      a.gamesAgo (now.dayNumber - n).toNat = some line.total
  nodup : (lines.map DayFigures.date).Nodup
  complete : ∀ n, (s.sessionsWhen fun t => t.dayNumber = n ∧ since ≤ t) ≠ [] →
    ∃ line ∈ lines, line.date = (Date.ofDayNumber n).render

section Lines

variable {count : UInt32} {lines : List DayFigures} {since : Instant}
  (hlines : (days count now).answer s = .ok lines)
  (hbegin : since = daysAgo now (heldDays count).toNat) (hsince : since.IsReading)
include hlines hbegin hsince

theorem part_of_days {line : DayFigures} (hline : line ∈ lines) :
    ∃ n, since.dayNumber ≤ n ∧ n ≤ now.dayNumber
      ∧ line.Tells n (s.sessionsWhen fun t => t.dayNumber = n ∧ since.truncate ≤ t) := by
  subst hbegin
  obtain rfl := Except.ok.inj hlines
  obtain ⟨g, hg, rfl⟩ := List.mem_map.mp hline
  exact tells_of_group hdated hsince hg

theorem whole_of_days {line : DayFigures} (hline : line ∈ lines) {n : Int}
    (hdate : line.date = (Date.ofDayNumber n).render) (hlater : since.truncate.dayNumber < n) :
    n ≤ now.dayNumber ∧ line.Tells n (s.sessionsWhen fun t => t.dayNumber = n) := by
  obtain ⟨m, -, hhigh, htells⟩ := part_of_days hdated hlines hbegin hsince hline
  obtain rfl := Date.render_ofDayNumber_injective (htells.date.symm.trans hdate)
  rw [sessionsWhen_since hdated hlater] at htells
  exact ⟨hhigh, htells⟩

theorem complete_of_days {n : Int}
    (hsome : (s.sessionsWhen fun t => t.dayNumber = n ∧ since.truncate ≤ t) ≠ []) :
    ∃ line ∈ lines, line.date = (Date.ofDayNumber n).render := by
  obtain ⟨r, hr⟩ := List.exists_mem_of_ne_nil _ hsome
  rw [← filter_sessionsSince hdated hsince] at hr
  obtain ⟨hmem, hday⟩ := List.mem_filter.mp hr
  obtain ⟨g, hg, hkey⟩ := exists_group (fun r => Database.storedDay r.startTime) hmem
  subst hbegin
  obtain rfl := Except.ok.inj hlines
  exact ⟨_, List.mem_map_of_mem hg, hkey.trans (beq_iff_eq.mp hday)⟩

end Lines

/-- There is a report, and it tells of the days from the time of day on at which it looks back. -/
theorem days_answer (hnow : now.InCommonEra) (hnano : now.nano < Instant.nanosPerSecond)
    (haudit : AuditLog.Dated (fun t => t.nano < Instant.nanosPerSecond) s) (count : UInt32) :
    ∃ lines, (days count now).answer s = .ok lines
      ∧ DaysTell lines s (daysAgo now (heldDays count).toNat).truncate now := by
  have hsince : (daysAgo now (heldDays count).toNat).IsReading := by
    refine ⟨hnow.yearBefore ?_ ?_, hnano⟩ <;>
    · rw [Instant.dayNumber_daysAgo, toNat_heldDays]
      omega
  obtain ⟨lines, hlines, hdates⟩ : ∃ lines, (days count now).answer s = .ok lines
      ∧ (lines.map DayFigures.date).Nodup := by
    refine ⟨_, rfl, ?_⟩
    rw [List.map_map]
    exact nodup_groups _ _
  refine ⟨lines, hlines, ?_⟩
  exact {
    part := fun line hline => part_of_days hdated hlines rfl hsince hline
    whole := fun line hline n hdate hlater =>
      (whole_of_days hdated hlines rfl hsince hline hdate hlater).2
    chart := by
      intro line hline n hdate hlater other a ha hcovered
      obtain ⟨hhigh, htells⟩ := whole_of_days hdated hlines rfl hsince hline hdate hlater
      rw [gamesAgo_of_activity hdated hnow hnano haudit ha hhigh hcovered, htells.total]
    nodup := hdates
    complete := fun n hsome => complete_of_days hdated hlines rfl hsince hsome }

end Days

/-- In the store of a run whose clock does not go back, the daily figures tell of the days from the
    time of day on at which the report looks back. -/
theorem days_tell (trail : Trail) (run : List Event) {now : Instant} (hnow : now.InCommonEra)
    (hnano : now.nano < Instant.nanosPerSecond)
    (hrun : ∀ e ∈ run, e.now.nano < Instant.nanosPerSecond ∧ e.now ≤ now) {count : UInt32}
    {held : Nat} (hheld : held = max 1 (min count.toNat 365)) :
    let s := (Store.empty trail).after run
    ∃ lines, (days count now).answer s = .ok lines
      ∧ DaysTell lines s (daysAgo now held).truncate now := by
  intro s
  rw [hheld, ← toNat_heldDays]
  refine days_answer ?_ hnow hnano ?_ count
  · exact Games.dated_shared (Instant.isBackward_upTo now) trail run [] hrun fun _ h => nomatch h
  · exact AuditLog.dated_shared trail run [] (fun e he => (hrun e he).1) fun _ h => nomatch h

/-- A game is won in the morning of a day, and another one in the evening. -/
def twoGames : List Event := Games.oneTrack ++
  [⟨⟨1772438400, 0⟩, .games (.recordQuick 1 true 30 2 {})⟩,
   ⟨⟨1772474400, 0⟩, .games (.recordQuick 1 true 30 2 {})⟩]

/-- A report of two days that is made at noon of the next day tells of both. -/
theorem days_tell_both :
    let now : Instant := ⟨1772539200, 0⟩
    now.InCommonEra ∧ now.nano < Instant.nanosPerSecond
      ∧ (∀ e ∈ twoGames, e.now.nano < Instant.nanosPerSecond ∧ e.now ≤ now)
      ∧ ∃ lines, (days 2 now).answer ((Store.empty .disabled).after twoGames) = .ok lines
        ∧ ∃ line ∈ lines, line.date = "2026-03-02" ∧ line.total = 2 ∧ line.successful = 2
          ∧ line.failed = 0 := by
  intro now
  have hnow : now.InCommonEra := by decide
  have hnano : now.nano < Instant.nanosPerSecond := by decide
  have hrun : ∀ e ∈ twoGames, e.now.nano < Instant.nanosPerSecond ∧ e.now ≤ now := by decide
  have hboth : (((Store.empty .disabled).after twoGames).sessionsWhen fun t =>
      t.dayNumber = 20514).map SessionRow.status = [.success, .success] := by
    decide +kernel
  have hsome : (((Store.empty .disabled).after twoGames).sessionsWhen fun t =>
      t.dayNumber = 20514 ∧ (daysAgo now 2).truncate ≤ t).isEmpty = false := by
    decide +kernel
  obtain ⟨lines, hlines, htell⟩ :=
    days_tell .disabled twoGames hnow hnano hrun (by decide : 2 = max 1 (min (2 : UInt32).toNat 365))
  obtain ⟨line, hline, hday⟩ := htell.complete 20514 fun hnone => by
    rw [hnone] at hsome
    cases hsome
  have hn := htell.whole line hline 20514 hday (by decide)
  have htotal := congrArg List.length hboth
  have hwon := congrArg (List.countP fun status => status == .success) hboth
  have hlost := congrArg (List.countP fun status => status == .failed) hboth
  rw [List.length_map] at htotal
  rw [List.countP_map] at hwon hlost
  have hdate : (Date.ofDayNumber 20514).render = "2026-03-02" := by decide +kernel
  exact ⟨hnow, hnano, hrun, lines, hlines, line, hline, hn.date.trans hdate,
    hn.total.trans htotal, hn.successful.trans hwon, hn.failed.trans hlost⟩

/-- A report of one day that is made at the same time tells of the evening only, although the clock
    has never gone back, and the chart and the statistics page have both games. -/
theorem days_tell_part :
    let s := (Store.empty .disabled).after twoGames
    let now : Instant := ⟨1772539200, 0⟩
    (twoGames.map Event.now ++ [now]).Pairwise (· ≤ ·)
      ∧ ((days 1 now).answer s).toOption.map
          (fun lines => lines.map fun line => (line.date, line.total, line.successful))
        = some [("2026-03-02", 1, 1)]
      ∧ (s.sessionsWhen fun t => t.dayNumber = now.dayNumber - 1).length = 2
      ∧ (activity 2 now).answer s = .ok ⟨["Mon 2", "Tue 3"], [0, 0], [2, 0], "2 days"⟩
      ∧ ((complete 1 now).answer s).toOption.map (fun figures => figures.days.map DayCount.games)
        = some [2] := by
  decide +kernel

end Reports

end RobotMaze
