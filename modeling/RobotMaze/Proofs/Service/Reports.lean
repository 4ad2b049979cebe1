import Mathlib.Algebra.GroupWithZero.Nat
import Mathlib.Algebra.Order.BigOperators.Group.List
import Mathlib.Algebra.Order.Group.Nat
import RobotMaze.Proofs.Keyed
import RobotMaze.Proofs.Session.Quick
import RobotMaze.Proofs.Session.Tracks

/-! # The sections of the statistics page

    Each section counts the same sessions anew, by day, by track, by class of
    device or all at once, and they agree with each other:

    * `perm_groups`, `perm_sessionsByTrack` — grouping loses no row and doubles
      none, as long as each session is on a track;
    * `sum_countP` — so what is counted in the groups adds up to what is counted in
      the whole;
    * `sum_errors_le` — the listed errors are those of lost sessions;
    * `sum_countSessionsIn`, `complete_split` — each session is in one state, and what
      the split of all games makes of those that were lost;
    * `SystemReport.Agrees` — what the sections have to do with each other;
    * `report_agrees` — every report is one whose sections agree. -/

namespace RobotMaze

open Time (Instant)

namespace Reports

/-! ## Groups -/

section Groups

variable {ρ κ : Type}

/-- What is counted in each group adds up to what is counted in all rows. -/
theorem sum_countP {groups : List (κ × List ρ)} {rows : List ρ}
    (h : (groups.flatMap Prod.snd).Perm rows) (p : ρ → Bool) :
    (groups.map fun g => g.2.countP p).sum = rows.countP p := by
  rw [← h.countP_eq, List.countP_flatMap]
  rfl

/-- Rows fall into the groups of their keys, if each key is there once. -/
theorem perm_flatMap_filter [DecidableEq κ] (key : ρ → κ) {keys : List κ} (hkeys : keys.Nodup)
    {rows : List ρ} (hrows : ∀ r ∈ rows, key r ∈ keys) :
    (keys.flatMap fun k => rows.filter fun r => key r == k).Perm rows := by
  induction keys generalizing rows with
  | nil =>
      rw [List.eq_nil_iff_forall_not_mem.mpr fun r hr => List.not_mem_nil (hrows r hr)]
      exact List.Perm.refl _
  | cons k rest ih =>
      obtain ⟨hk, hrest⟩ := List.nodup_cons.mp hkeys
      -- the groups of the other keys are made of the rows that are left
      have hothers : (rest.flatMap fun k' => rows.filter fun r => key r == k')
          = rest.flatMap fun k' => (rows.filter fun r => !(key r == k)).filter
              fun r => key r == k' := by
        refine List.flatMap_congr fun k' hk' => ?_
        rw [List.filter_filter]
        refine List.filter_congr fun r _ => ?_
        by_cases hr : key r = k'
        · have hne : key r ≠ k := fun h => hk (h ▸ hr ▸ hk')
          simp [hr, hr ▸ hne]
        · simp [hr]
      have hleft : ∀ r ∈ rows.filter fun r => !(key r == k), key r ∈ rest := by
        intro r hr
        obtain ⟨hmem, hne⟩ := List.mem_filter.mp hr
        exact (List.mem_cons.mp (hrows r hmem)).resolve_left (by simpa using hne)
      rw [List.flatMap_cons, hothers]
      exact ((ih hrest hleft).append_left _).trans (List.filter_append_perm _ rows)

end Groups

/-! ## Tallies -/

section Tallies

variable {ρ : Type}

/-- What is tallied are the values. -/
theorem mem_keys_tally {values : List String} {v : String} :
    v ∈ (Database.tally values).map Prod.fst ↔ v ∈ values := by
  rw [Database.tally, Keyed.mem_keys_ofList, List.map_map]
  simp

/-- Each value is tallied once. -/
theorem nodup_keys_tally (values : List String) :
    ((Database.tally values).map Prod.fst).Nodup :=
  Keyed.nodup_keys_ofList

/-- Each value is listed with the number of its occurrences. -/
theorem tally_eq (values : List String) : Database.tally values
    = ((Database.tally values).map Prod.fst).map fun v => (v, values.count v) := by
  rw [List.map_map]
  refine (List.map_id _).symm.trans (List.map_congr_left fun entry hentry => ?_)
  obtain ⟨v, -, rfl⟩ := List.mem_map.mp (Keyed.mem_of_mem_ofList hentry)
  rfl

/-- The numbers of occurrences add up to the number of values. -/
theorem sum_tally (values : List String) :
    ((Database.tally values).map Prod.snd).sum = values.length := by
  have hperm := perm_flatMap_filter id (nodup_keys_tally values)
    fun v hv => mem_keys_tally.mpr hv
  rw [tally_eq, List.map_map, ← hperm.length_eq, List.length_flatMap]
  congr 1
  refine List.map_congr_left fun v _ => ?_
  exact List.count_eq_length_filter

/-- The groups are those of the keys, in the order of their tally. -/
theorem keys_groups (key : ρ → String) (rows : List ρ) : (groups key rows).map Prod.fst
    = (Database.tally (rows.map key)).map Prod.fst := by
  rw [groups, List.map_map]
  exact List.map_id _

/-- Each key has one group. -/
theorem nodup_groups (key : ρ → String) (rows : List ρ) :
    ((groups key rows).map Prod.fst).Nodup := by
  rw [keys_groups]
  exact nodup_keys_tally _

/-- Every row is in one group. -/
theorem perm_groups (key : ρ → String) (rows : List ρ) :
    ((groups key rows).flatMap Prod.snd).Perm rows := by
  rw [groups, List.flatMap_map]
  exact perm_flatMap_filter key (nodup_keys_tally _) fun r hr =>
    mem_keys_tally.mpr (List.mem_map_of_mem hr)

end Tallies

/-! ## Sessions on tracks -/

/-- A track is listed once. -/
theorem nodup_sessionsByTrack {db : Database} (htracks : db.tracks.Numbered)
    (rows : List SessionRow) : ((sessionsByTrack rows db).map fun g => g.1.id).Nodup := by
  have hids : (db.tracks.rows.map TrackRow.id).Nodup :=
    List.pairwise_map.mpr (htracks.rising.imp fun hlt => Int.ne_of_lt hlt)
  refine List.Nodup.sublist (List.Sublist.map _ List.filter_sublist) ?_
  rw [List.map_map]
  exact hids

/-- Every session on a stored track is listed with that track. -/
theorem perm_sessionsByTrack {db : Database} (htracks : db.tracks.Numbered) {rows : List SessionRow}
    (hrows : ∀ r ∈ rows, ∃ t ∈ db.tracks.rows, t.id = r.trackId) :
    ((sessionsByTrack rows db).flatMap Prod.snd).Perm rows := by
  have hids : (db.tracks.rows.map TrackRow.id).Nodup :=
    List.pairwise_map.mpr (htracks.rising.imp fun hlt => Int.ne_of_lt hlt)
  have hperm := perm_flatMap_filter SessionRow.trackId hids
    fun r hr => List.mem_map.mpr (hrows r hr)
  rw [List.flatMap_map] at hperm
  -- leaving out the tracks without sessions leaves out no session
  have hall : (sessionsByTrack rows db).flatMap Prod.snd
      = db.tracks.rows.flatMap fun t => rows.filter fun r => r.trackId == t.id := by
    rw [sessionsByTrack, List.flatMap_def, List.flatMap_def]
    have hfilter : ∀ groups : List (TrackRow × List SessionRow),
        (groups.filter fun g => !g.2.isEmpty).map Prod.snd
          = (groups.map Prod.snd).filter fun rows => !rows.isEmpty :=
      fun groups => (List.filter_map (p := fun rows : List SessionRow => !rows.isEmpty)).symm
    rw [hfilter, List.flatten_filter_not_isEmpty, List.map_map]
    rfl
  rw [hall]
  exact hperm

/-! ## Lines -/

section Lines

/-! The lines of a section stand for the groups, in some order. -/

variable {ρ κ ν line : Type} {groups : List (κ × List ρ)} {new : κ × List ρ → line}
  {lines : List line} (hlines : lines.Perm (groups.map new))
include hlines

/-- What the lines count adds up to what is counted in all rows. -/
theorem sum_lines {rows : List ρ} (hrows : (groups.flatMap Prod.snd).Perm rows)
    {count : line → Nat} {p : ρ → Bool} (hcount : ∀ g, count (new g) = g.2.countP p) :
    (lines.map count).sum = rows.countP p := by
  rw [(hlines.map count).sum_eq, List.map_map, ← sum_countP hrows p]
  exact congrArg List.sum (List.map_congr_left fun g _ => hcount g)

/-- The totals of all lines add up to the number of rows. -/
theorem sum_totals {rows : List ρ} (hrows : (groups.flatMap Prod.snd).Perm rows)
    {count : line → Nat} (hcount : ∀ g, count (new g) = g.2.length) :
    (lines.map count).sum = rows.length := by
  rw [← List.countP_true]
  exact sum_lines hlines hrows fun g => (hcount g).trans (by rw [List.countP_true])

/-- Each name has one line. -/
theorem nodup_lines (name : κ → ν) {lineName : line → ν}
    (hname : ∀ g, lineName (new g) = name g.1) (hnodup : (groups.map fun g => name g.1).Nodup) :
    (lines.map lineName).Nodup := by
  rw [(hlines.map lineName).nodup_iff, List.map_map]
  exact (List.map_congr_left fun g _ => hname g).symm ▸ hnodup

/-- What holds of a line made of any group holds of all lines. -/
theorem forall_lines {P : line → Prop} (hnew : ∀ g, P (new g)) : ∀ l ∈ lines, P l := by
  intro l hl
  obtain ⟨g, -, rfl⟩ := List.mem_map.mp (hlines.mem_iff.mp hl)
  exact hnew g

end Lines

theorem perm_byCount {α : Type} (count : α → Nat) (items : List α) :
    (byCount count items).Perm items :=
  List.mergeSort_perm items _

/-- No session is both won and lost. -/
theorem countP_outcomes_le (rows : List SessionRow) :
    rows.countP isSuccess + rows.countP isFailed ≤ rows.length := by
  have hapart : ∀ r : SessionRow, isFailed r = true → (!isSuccess r) = true := by
    intro r hlost
    rw [isFailed, beq_iff_eq] at hlost
    rw [isSuccess, hlost]
    rfl
  rw [List.length_eq_countP_add_countP isSuccess]
  have hle := List.countP_mono_left (l := rows) (fun r _ => hapart r)
  grind

/-! ## Sections -/

section Sections

variable {now : Instant} {s : Store}

/-- The sessions that recent figures are about. -/
def recent (now : Instant) (s : Store) : List SessionRow :=
  s.database.sessionsSince (daysAgo now recentDays)

/-- The figures of the days add up to the recent sessions. -/
theorem days_ok {lines : List DayFigures}
    (h : (days (UInt32.ofNat recentDays) now).answer s = .ok lines) :
    (lines.map DayFigures.total).sum = (recent now s).length
      ∧ (lines.map DayFigures.successful).sum = (recent now s).countP isSuccess
      ∧ (lines.map DayFigures.failed).sum = (recent now s).countP isFailed
      ∧ (lines.map DayFigures.date).Nodup
      ∧ ∀ line ∈ lines, line.successful + line.failed ≤ line.total := by
  let day : SessionRow → String := fun r => Database.storedDay r.startTime
  have hlines : lines.Perm ((groups day (recent now s)).map fun g =>
      DayFigures.new g.1 g.2.length (g.2.countP isSuccess) (g.2.countP isFailed)) := by
    rw [← Except.ok.inj h]
    exact List.Perm.refl _
  have hrows := perm_groups day (recent now s)
  refine ⟨?_, ?_, ?_, ?_, ?_⟩
  · exact sum_totals hlines hrows fun _ => rfl
  · exact sum_lines hlines hrows fun _ => rfl
  · exact sum_lines hlines hrows fun _ => rfl
  · exact nodup_lines hlines id (fun _ => rfl) (nodup_groups _ _)
  · exact forall_lines hlines fun g => countP_outcomes_le g.2

/-- The figures of the tracks add up to the recent sessions. -/
theorem tracks_ok (hs : onTracks.holds s) {lines : List TrackFigures}
    (h : (tracks now).answer s = .ok lines) :
    (lines.map TrackFigures.total).sum = (recent now s).length
      ∧ (lines.map TrackFigures.successful).sum = (recent now s).countP isSuccess
      ∧ (lines.map TrackFigures.trackId).Nodup
      ∧ ∀ line ∈ lines, line.successful ≤ line.total := by
  obtain ⟨htracks, -, hsessions⟩ := hs
  have hlines : lines.Perm ((sessionsByTrack (recent now s) s.database).map fun g =>
      TrackFigures.new g.1.id g.1.name g.2.length (g.2.countP isSuccess)
        (roundedToCents (average (g.2.map SessionRow.movesCount)))) := by
    rw [← Except.ok.inj h]
    exact perm_byCount _ _
  have hrows : ((sessionsByTrack (recent now s) s.database).flatMap Prod.snd).Perm (recent now s) :=
    perm_sessionsByTrack htracks fun r hr => hsessions r (List.mem_filter.mp hr).1
  refine ⟨?_, ?_, ?_, ?_⟩
  · exact sum_totals hlines hrows fun _ => rfl
  · exact sum_lines hlines hrows fun _ => rfl
  · exact nodup_lines hlines TrackRow.id (fun _ => rfl) (nodup_sessionsByTrack htracks _)
  · exact forall_lines hlines fun g => List.countP_le_length

/-- The figures of the devices add up to the recent sessions. -/
theorem devices_ok {lines : List DeviceFigures} (h : (devices now).answer s = .ok lines) :
    (lines.map DeviceFigures.total).sum = (recent now s).length
      ∧ (lines.map DeviceFigures.successful).sum = (recent now s).countP isSuccess
      ∧ (lines.map DeviceFigures.device).Nodup
      ∧ ∀ line ∈ lines, line.successful ≤ line.total := by
  have hlines : lines.Perm ((groups SessionRow.device (recent now s)).map fun g =>
      DeviceFigures.new g.1 g.2.length (g.2.countP isSuccess)) := by
    rw [← Except.ok.inj h]
    exact perm_byCount _ _
  have hrows := perm_groups SessionRow.device (recent now s)
  refine ⟨?_, ?_, ?_, ?_⟩
  · exact sum_totals hlines hrows fun _ => rfl
  · exact sum_lines hlines hrows fun _ => rfl
  · exact nodup_lines hlines id (fun _ => rfl) (nodup_groups _ _)
  · exact forall_lines hlines fun g => List.countP_le_length

/-- A lost session has one error at most, and rare errors are not listed. -/
theorem errors_ok {lines : List ErrorCount} (h : (errors now).answer s = .ok lines) :
    (lines.map ErrorCount.frequency).sum ≤ (recent now s).countP isFailed
      ∧ (lines.map ErrorCount.message).Nodup := by
  let messages := (((recent now s).filter isFailed).filterMap SessionRow.errorMessage).filter
    fun m => !m.isEmpty
  obtain ⟨all, hall, rfl⟩ : ∃ all : List ErrorCount,
      all.Perm ((Database.tally messages).map fun m => ⟨m.1, m.2⟩) ∧ lines = all.take topErrors :=
    ⟨_, perm_byCount _ _, (Except.ok.inj h).symm⟩
  have hlisted : (all.take topErrors).Sublist all := List.take_sublist _ _
  refine ⟨?_, ?_⟩
  · calc ((all.take topErrors).map ErrorCount.frequency).sum
        ≤ (all.map ErrorCount.frequency).sum :=
          (hlisted.map _).sum_le_sum fun _ _ => Nat.zero_le _
      _ = ((Database.tally messages).map Prod.snd).sum := by
          rw [(hall.map _).sum_eq, List.map_map]
          rfl
      _ = messages.length := sum_tally messages
      _ ≤ ((recent now s).filter isFailed).length :=
          (List.length_filter_le _ _).trans (List.length_filterMap_le _ _)
      _ = (recent now s).countP isFailed := List.countP_eq_length_filter.symm
  · refine List.Nodup.sublist (hlisted.map _) ?_
    rw [(hall.map _).nodup_iff, List.map_map]
    exact nodup_keys_tally messages

/-- A report consists of the answers to one question each. -/
theorem report_answer (now : Instant) (s : Store) : ∃ r, (report now).answer s = .ok r
    ∧ (days (UInt32.ofNat recentDays) now).answer s = .ok r.days
    ∧ (tracks now).answer s = .ok r.tracks ∧ (devices now).answer s = .ok r.devices
    ∧ (errors now).answer s = .ok r.errors ∧ (overview now).answer s = .ok r.overview :=
  ⟨_, rfl, rfl, rfl, rfl, rfl, rfl⟩

end Sections

/-! ## All games -/

/-- Each session is in one state. -/
theorem sum_countSessionsIn (db : Database) :
    ((Named.all : List SessionStatus).map fun status => db.countSessionsIn status).sum
      = db.countSessions := by
  have hnodup : (Named.all : List SessionStatus).Nodup := by decide
  have hall : ∀ r ∈ db.sessions.rows, r.status ∈ (Named.all : List SessionStatus) := by
    intro r _
    cases r.status <;> decide
  -- grouping by state loses no session and doubles none
  have hperm := perm_flatMap_filter SessionRow.status hnodup hall
  rw [Database.countSessions, ← hperm.length_eq, List.length_flatMap]
  congr 1
  refine List.map_congr_left fun status _ => ?_
  exact List.countP_eq_length_filter

/-- The number of sessions that have ended without being won. -/
def countUnwon (db : Database) : Nat :=
  db.countSessionsIn .failed + db.countSessionsIn .abandoned + db.countSessionsIn .error

/-- Every session is won, in progress, or neither of the two. -/
theorem countSessions_eq (db : Database) : db.countSessions
    = db.countSessionsIn .success + (db.countSessionsIn .inProgress + countUnwon db) := by
  have hsum := sum_countSessionsIn db
  simp only [Named.all, List.map_cons, List.map_nil, List.sum_cons, List.sum_nil] at hsum
  rw [countUnwon]
  omega

theorem countUnwon_eq_zero_iff (db : Database) : countUnwon db = 0
    ↔ ∀ r ∈ db.sessions.rows, r.status = .inProgress ∨ r.status = .success := by
  simp only [countUnwon, Database.countSessionsIn, Nat.add_eq_zero_iff, List.countP_eq_zero,
    beq_iff_eq]
  constructor
  · rintro ⟨⟨hfailed, habandoned⟩, herror⟩ r hr
    cases hstatus : r.status with
    | inProgress => exact .inl rfl
    | success => exact .inr rfl
    | failed => exact absurd hstatus (hfailed r hr)
    | abandoned => exact absurd hstatus (habandoned r hr)
    | error => exact absurd hstatus (herror r hr)
  · intro hrows
    refine ⟨⟨?_, ?_⟩, ?_⟩ <;>
    · intro r hr hstatus
      rcases hrows r hr with h | h <;>
      · rw [hstatus] at h
        cases h

/-- There are figures of all games in every store, however many days they are asked for.  The
    games that were won are split from all others, so the number of games in progress is the right
    one if and only if every game that has ended was won. -/
theorem complete_split (s : Store) (count : UInt32) (now : Instant) :
    ∃ figures, (complete count now).answer s = .ok figures
      ∧ figures.totalGames = s.database.countSessions
      ∧ figures.split.completed = s.database.countSessionsIn .success
      ∧ figures.split.inProgress = s.database.countSessionsIn .inProgress
          + s.database.countSessionsIn .failed + s.database.countSessionsIn .abandoned
          + s.database.countSessionsIn .error
      ∧ (figures.split.inProgress = s.database.countSessionsIn .inProgress
          ↔ ∀ r ∈ s.database.sessions.rows, r.status = .inProgress ∨ r.status = .success) := by
  -- what is told to be in progress is what is left of all sessions without those that were won
  obtain ⟨figures, hanswer, htotal, hcompleted, hrest⟩ :
      ∃ figures, (complete count now).answer s = .ok figures
        ∧ figures.totalGames = s.database.countSessions
        ∧ figures.split.completed = s.database.countSessionsIn .success
        ∧ figures.split.inProgress
          = s.database.countSessions - s.database.countSessionsIn .success :=
    ⟨_, rfl, rfl, rfl, rfl⟩
  have hopen : figures.split.inProgress
      = s.database.countSessionsIn .inProgress + countUnwon s.database := by
    rw [hrest, countSessions_eq, Nat.add_sub_cancel_left]
  refine ⟨figures, hanswer, htotal, hcompleted, ?_, ?_⟩
  · rw [hopen, countUnwon]
    omega
  · rw [← countUnwon_eq_zero_iff, hopen]
    exact Nat.add_eq_left

/-- The only game was abandoned, and counts as one in progress. -/
theorem complete_split_abandoned :
    ((complete 7 ⟨1772366520, 0⟩).answer Games.played).toOption.map CompleteFigures.split
        = some ⟨0, 1⟩
      ∧ Games.played.database.countSessionsIn .inProgress = 0
      ∧ Games.played.database.countSessionsIn .abandoned = 1 := by
  decide +kernel

end Reports

/-- The sections of a report agree with each other. -/
structure SystemReport.Agrees (r : SystemReport) : Prop where
  total_tracks : (r.tracks.map TrackFigures.total).sum = r.overview.total
  total_devices : (r.devices.map DeviceFigures.total).sum = r.overview.total
  total_days : (r.days.map DayFigures.total).sum = r.overview.total
  successful_tracks : (r.tracks.map TrackFigures.successful).sum = r.overview.successful
  successful_devices : (r.devices.map DeviceFigures.successful).sum = r.overview.successful
  successful_days : (r.days.map DayFigures.successful).sum = r.overview.successful
  failed_days : (r.days.map DayFigures.failed).sum = r.overview.failed
  frequency_errors : (r.errors.map ErrorCount.frequency).sum ≤ r.overview.failed
  nodup_tracks : (r.tracks.map TrackFigures.trackId).Nodup
  nodup_devices : (r.devices.map DeviceFigures.device).Nodup
  nodup_days : (r.days.map DayFigures.date).Nodup
  nodup_errors : (r.errors.map ErrorCount.message).Nodup
  outcomes_tracks : ∀ line ∈ r.tracks, line.successful ≤ line.total
  outcomes_devices : ∀ line ∈ r.devices, line.successful ≤ line.total
  outcomes_days : ∀ line ∈ r.days, line.successful + line.failed ≤ line.total
  outcomes_overview : r.overview.successful + r.overview.failed ≤ r.overview.total

/-- After every schedule, at every clock reading, there is a report, and its sections agree with
    each other. -/
theorem Reports.report_agrees (trail : Trail) (run : List Event) (schedule : List Turn)
    (now : Instant) :
    let s := ((Store.empty trail).after run).shared schedule
    ∃ r, (report now).answer s = .ok r ∧ r.Agrees := by
  intro s
  obtain ⟨r, hreport, hdays, htracks, hdevices, herrors, hoverview⟩ := report_answer now s
  obtain ⟨htotalDays, hwonDays, hlostDays, hdates, hdayLines⟩ := days_ok hdays
  obtain ⟨htotalTracks, hwonTracks, hids, htrackLines⟩ :=
    tracks_ok (onTracks_shared trail run schedule) htracks
  obtain ⟨htotalDevices, hwonDevices, hnames, hdeviceLines⟩ := devices_ok hdevices
  obtain ⟨hfrequencies, hmessages⟩ := errors_ok herrors
  -- the overview counts the recent sessions all at once
  have htotal : r.overview.total = (recent now s).length :=
    congrArg OverviewFigures.total (Except.ok.inj hoverview).symm
  have hwon : r.overview.successful = (recent now s).countP isSuccess :=
    congrArg OverviewFigures.successful (Except.ok.inj hoverview).symm
  have hlost : r.overview.failed = (recent now s).countP isFailed :=
    congrArg OverviewFigures.failed (Except.ok.inj hoverview).symm
  exact ⟨r, hreport, {
    total_tracks := htotalTracks.trans htotal.symm
    total_devices := htotalDevices.trans htotal.symm
    total_days := htotalDays.trans htotal.symm
    successful_tracks := hwonTracks.trans hwon.symm
    successful_devices := hwonDevices.trans hwon.symm
    successful_days := hwonDays.trans hwon.symm
    failed_days := hlostDays.trans hlost.symm
    frequency_errors := hlost ▸ hfrequencies
    nodup_tracks := hids
    nodup_devices := hnames
    nodup_days := hdates
    nodup_errors := hmessages
    outcomes_tracks := htrackLines
    outcomes_devices := hdeviceLines
    outcomes_days := hdayLines
    outcomes_overview := by
      rw [htotal, hwon, hlost]
      exact countP_outcomes_le _ }⟩

end RobotMaze
