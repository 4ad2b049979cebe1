import RobotMaze.Proofs.Session.Stored
import RobotMaze.Proofs.Time.Order
import RobotMaze.Proofs.Track.FreeName
import RobotMaze.Proofs.Track.Stored

/-! # Games that are reported in one call

    A game of a day at most on a track that can be played becomes one more row,
    under the first id that is free; any other report changes nothing:

    * `Database.FirstQuick`, `freeSessionId_firstQuick` — the search for the id
      ends, and with the smallest number;
    * `Instant.millisBetween_of_nano` — how long a game took is exact, although its
      times are stored to the millisecond;
    * `Games.quickGame`, `SessionRow.IsQuick` — the session, and its row;
    * `recordQuick_exactly` — when a game is stored, and as what. -/

namespace RobotMaze

open Time (Instant)

/-! ## The search for an id -/

/-- Of the numbers from `n` on, `m` is the first whose id no session has. -/
structure Database.FirstQuick (db : Database) (n m : Int) : Prop where
  le : n ≤ m
  free : ∀ r ∈ db.sessions.rows, r.sessionId ≠ Games.quickId m
  least : ∀ k, n ≤ k → k < m → ∃ r ∈ db.sessions.rows, r.sessionId = Games.quickId k

/-- Different numbers make different ids. -/
theorem Games.quickId_injective : Function.Injective quickId := by
  intro n m h
  have htext := congrArg String.toList h
  simp only [quickId, String.toList_append] at htext
  exact Decimal.toString_injective (String.toList_inj.mp (List.append_cancel_left htext))

namespace Database

variable {taken : List String} {makeId : Int → String}

/-- The search ends at the first free number, if it goes far enough. -/
theorem freeSessionNumber_spec {fuel : Nat} {n : Int}
    (h : ∃ i, i < fuel ∧ makeId (n + i) ∉ taken) :
    n ≤ freeSessionNumber taken makeId fuel n
      ∧ makeId (freeSessionNumber taken makeId fuel n) ∉ taken
      ∧ ∀ k, n ≤ k → k < freeSessionNumber taken makeId fuel n → makeId k ∈ taken := by
  induction fuel generalizing n with
  | zero =>
      obtain ⟨i, hi, -⟩ := h
      omega
  | succ fuel ih =>
      simp only [freeSessionNumber]
      by_cases hstart : taken.contains (makeId n) = true
      · have hmem : makeId n ∈ taken := List.contains_iff_mem.mp hstart
        rw [if_pos hstart]
        have hmore : ∃ i, i < fuel ∧ makeId (n + 1 + i) ∉ taken := by
          obtain ⟨i, hi, hfree⟩ := h
          cases i with
          | zero =>
              rw [Int.natCast_zero, Int.add_zero] at hfree
              exact absurd hmem hfree
          | succ i =>
              refine ⟨i, by omega, ?_⟩
              rwa [show n + 1 + (i : Int) = n + (i + 1 : Nat) by omega]
        obtain ⟨hle, hfree, hleast⟩ := ih hmore
        refine ⟨by omega, hfree, fun k hk hkm => ?_⟩
        rcases Int.le_iff_eq_or_lt.mp hk with rfl | hk
        · exact hmem
        · exact hleast k hk hkm
      · rw [if_neg hstart]
        have hfree : makeId n ∉ taken := fun hmem => hstart (List.contains_iff_mem.mpr hmem)
        exact ⟨Int.le_refl n, hfree, fun k hk hkn => absurd hk (Int.not_le.mpr hkn)⟩

/-- Whatever ids are stored, the search finds the first one that is free. -/
theorem freeSessionId_firstQuick (db : Database) (n : Int) :
    ∃ m, db.freeSessionId Games.quickId n = Games.quickId m ∧ db.FirstQuick n m := by
  have hinjective : Function.Injective fun i : Nat => Games.quickId (n + i) := by
    intro i j h
    have := Games.quickId_injective h
    omega
  obtain ⟨hle, hfree, hleast⟩ := freeSessionNumber_spec
    (exists_free_of_injective hinjective (db.sessions.rows.map SessionRow.sessionId))
  refine ⟨_, rfl, hle, fun r hr hid => hfree ?_, fun k hk hkm => ?_⟩
  · rw [← hid]
    exact List.mem_map_of_mem hr
  · exact List.mem_map.mp (hleast k hk hkm)

end Database

/-! ## The time that a game took -/

/-- Times of one nanosecond lie whole seconds apart. -/
theorem Time.Instant.millisBetween_of_nano {a b : Instant} (ha : a.nano < Instant.nanosPerSecond)
    (hb : b.nano = a.nano) : a.millisBetween b = (b.second - a.second) * 1000 := by
  have hleap : a.leapBetween b = 0 := by
    simp only [leapBetween]
    rw [if_neg fun h => absurd h.2 (Nat.not_le.mpr ha),
      if_neg fun h => absurd h.2 (Nat.not_le.mpr (hb ▸ ha))]
  simp only [millisBetween, hleap, hb]
  rw [Int.sub_self, Int.add_zero, Int.add_zero,
    show (b.second - a.second) * 1000000000 = (b.second - a.second) * 1000 * 1000000 by omega,
    Int.mul_tdiv_cancel _ (by decide)]

/-! ## Reports of games -/

/-- A track can be played: it is there, and it can be read, its grid too. -/
def Database.Playable (db : Database) (trackId : Int) (cells : Nat) : Prop :=
  ∃ row t grid, db.tracks.find? trackId = some row ∧ row.read = .ok t ∧ t.grid = .ok grid
    ∧ grid.pathCount = cells

namespace Games

variable {now : Instant} {s : Store} {trackId : Int}

/-- A track can be played if it is looked up, and its cells are counted, without a failure. -/
theorem playable_iff {cells : Nat} : s.database.Playable trackId cells
    ↔ ∃ t, (Tracks.get trackId).answer s = .ok t ∧ (cellsOf t).answer s = .ok cells := by
  constructor
  · rintro ⟨row, t, grid, hfind, hread, hgrid, rfl⟩
    refine ⟨t, ?_, ?_⟩
    · simp only [Tracks.get]
      rw [Op.Reads.answer_bind (Op.keeps_query _), Op.answer_query]
      simp only [Database.trackById, hfind]
      rw [Op.answer_ofRead, hread]
    · simp only [cellsOf]
      rw [Op.Reads.answer_bind (Op.keeps_ofCheck _), Op.answer_ofCheck_ok hgrid]
      rfl
  · rintro ⟨t, hget, hcells⟩
    obtain ⟨row, hfind, hread⟩ := Tracks.get_ok hget
    obtain ⟨grid, hgrid, rfl⟩ := cellsOf_ok hcells
    exact ⟨row, t, grid, hfind, hread, hgrid, rfl⟩

/-- In the store of a run every track that is there can be played. -/
theorem playable_none_iff (hs : Tracks.Stored s) :
    (∀ cells, ¬ s.database.Playable trackId cells) ↔ s.database.tracks.find? trackId = none := by
  constructor
  · intro hnever
    cases hfind : s.database.tracks.find? trackId with
    | none => rfl
    | some row =>
        obtain ⟨hmem, rfl⟩ := Table.find?_eq_some hfind
        obtain ⟨t, hread, -⟩ := hs.get_answer hmem
        obtain ⟨grid, hgrid, -⟩ := Tracks.Stored.grid_of_read (hs.kept row hmem).sound hread
        exact absurd ⟨row, t, grid, hfind, hread, hgrid, rfl⟩ (hnever grid.pathCount)
  · rintro hnone cells ⟨row, t, grid, hfind, -⟩
    cases hnone.symm.trans hfind

/-- A game that was reported in one call. -/
def quickGame (sessionId : String) (trackId : Int) (cells : Nat) (completed : Bool)
    (spent moves : Int) (client : Client) (now : Instant) : GameSession :=
  { opened sessionId trackId cells client { now with second := now.second - spent } with
    endTime := some now
    status := if completed then .success else .abandoned
    movesCount := max moves 0
    executionTime := some (spent * 1000)
    cellsVisited := if completed then (cells : Int) else 0 }

end Games

/-- The row of a game that was reported in one call, and the game as it is read from it. -/
structure SessionRow.IsQuick (row : SessionRow) (game : GameSession) (trackId : Int) (cells : Nat)
    (completed : Bool) (spent moves number : Int) : Prop where
  read : row.read = .ok game
  sessionId : row.sessionId = Games.quickId number
  trackId : row.trackId = trackId
  duration : game.durationMillis = some (spent * 1000)
  executionTime : row.executionTime = some (spent * 1000)
  movesCount : row.movesCount = max moves 0
  status : row.status = if completed then .success else .abandoned
  cellsVisited : row.cellsVisited = if completed then (cells : Int) else 0
  totalCells : row.totalCells = cells

namespace Games

variable {now : Instant} {s : Store} {trackId : Int}

/-- The game is read from its row, under any number, as one that took as long as it was reported. -/
theorem exists_isQuick (hnow : now.InCommonEra) (hclock : now.nano < Instant.nanosPerSecond)
    (trackId : Int) (cells : Nat) (completed : Bool) {spent : Int} (hnonneg : 0 ≤ spent)
    (hday : spent ≤ maxQuickSeconds) (moves : Int) (client : Client) (number id : Int) :
    ∃ game, ((quickGame (quickId number) trackId cells completed spent moves client now).rowAt
      id).IsQuick game trackId cells completed spent moves number := by
  obtain ⟨start, hstart⟩ : ∃ start : Instant,
    start = { now with second := now.second - spent } := ⟨_, rfl⟩
  have hstarted : start.HasFourDigitYear := hstart ▸ (hnow.dayAgo hnonneg hday).2
  have hnano : start.nano = now.nano := by rw [hstart]
  have hread : readTime (quickGame (quickId number) trackId cells completed spent moves client
      now).startTime.stamp = .ok start.stamped := by
    simp only [quickGame]
    rw [← hstart]
    exact readTime_stamp hstarted
  have hend := readTimeOpt_some (readTime_stamp hnow.hasFourDigitYear)
  have hnone : ∀ x ∈ (none : Option Int), IsInt32 x := fun _ h => nomatch h
  have hduration : start.stamped.millisBetween now.stamped = spent * 1000 := by
    rw [Instant.stamped_eq_truncate hclock, Instant.stamped_eq_truncate (hnano ▸ hclock)]
    rw [Instant.millisBetween_of_nano]
    · simp only [Instant.truncate, hstart]
      omega
    · simp only [Instant.truncate, hnano]
      omega
    · simp only [Instant.truncate, hnano]
  exact ⟨_, {
    read := GameSession.read_rowAt hread hend hnone hnone id
    sessionId := rfl
    trackId := rfl
    duration := congrArg some hduration
    executionTime := rfl
    movesCount := rfl
    status := rfl
    cellsVisited := rfl
    totalCells := rfl }⟩

/-! ## Storing a game -/

/-- If there is no number left a game is not stored. -/
theorem store_full (game : GameSession) (hfull : s.database.sessions.nextId? = none) :
    (store game).Ends s fun r t => r = .error .refused ∧ t = s := by
  simp only [store]
  refine Op.Ends.changing (fun f hf => ?_) fun row db hdb => ?_
  · rw [Database.insertSession_error hf]
    exact ⟨rfl, rfl⟩
  · obtain ⟨sessions, hinsert, -⟩ := Database.insertSession_ok hdb
    obtain ⟨id, hnext, -⟩ := Table.insert_ok hinsert
    cases hfull.symm.trans hnext

/-- A game with a new id, on a track that is there, is stored as the last row. -/
theorem store_added {game stored : GameSession} {id : Int}
    (hnext : s.database.sessions.nextId? = some id)
    (hfree : ∀ r ∈ s.database.sessions.rows, r.sessionId ≠ game.sessionId)
    (htrack : s.database.tracks.find? game.trackId ≠ none)
    (hread : (game.rowAt id).read = .ok stored) :
    (store game).Ends s fun r t => r = .ok stored ∧ t = { s with database :=
      { s.database with sessions := s.database.sessions.append (game.rowAt id) } } := by
  have hacceptable : s.database.sessionIsAcceptable (game.rowAt id) s.database.sessions.rows
      = true := by
    simp only [Database.sessionIsAcceptable, Bool.and_eq_true, Bool.not_eq_true']
    refine ⟨List.any_eq_false.mpr fun r hr => mt beq_iff_eq.mp (hfree r hr), ?_⟩
    exact Option.isSome_iff_ne_none.mpr htrack
  have hinsert : Database.insertSession game s.database = .ok (game.rowAt id,
      { s.database with sessions := s.database.sessions.append (game.rowAt id) }) := by
    simp only [Database.insertSession, Table.insert]
    rw [hnext]
    simp only [GameSession.rowAt] at hacceptable
    simp only [hacceptable]
    rfl
  simp only [store]
  refine Op.Ends.changing (fun f hf => ?_) fun row db hdb => ?_
  · cases hinsert.symm.trans hf
  obtain ⟨rfl, rfl⟩ := Prod.mk.inj (Except.ok.inj (hinsert.symm.trans hdb))
  refine Op.Reads.ends (Op.keeps_ofRead _) ?_ ⟨rfl, rfl⟩
  rw [Op.answer_ofRead, hread]

/-- What becomes of a report. -/
inductive Reported (trackId : Int) (completed : Bool) (seconds moves : Int) (now : Instant)
    (s : Store) : Except Failure GameSession → Store → Prop where
  | refused {f : Failure} (why : maxQuickSeconds < seconds
      ∨ (∀ cells, ¬ s.database.Playable trackId cells) ∨ s.database.sessions.nextId? = none) :
      Reported trackId completed seconds moves now s (.error f) s
  | stored {game : GameSession} {row : SessionRow} {cells : Nat} {number : Int}
      (short : seconds ≤ maxQuickSeconds) (playable : s.database.Playable trackId cells)
      (first : s.database.FirstQuick now.toMillis number)
      (next : s.database.sessions.nextId? = some row.id)
      (quick : row.IsQuick game trackId cells completed (max seconds 0) moves number) :
      Reported trackId completed seconds moves now s (.ok game)
        { s with database := { s.database with sessions := s.database.sessions.append row } }

theorem recordQuick_reported (hnow : now.InCommonEra) (hclock : now.nano < Instant.nanosPerSecond)
    (s : Store) (trackId : Int) (completed : Bool) (seconds moves : Int) (client : Client) :
    (recordQuick trackId completed seconds moves client now).Ends s
      (Reported trackId completed seconds moves now s) := by
  simp only [recordQuick]
  by_cases hlong : maxQuickSeconds < max seconds 0
  · simp only [if_pos hlong]
    refine Op.ends_throw (.refused (Or.inl ?_))
    simp only [maxQuickSeconds] at hlong ⊢
    omega
  simp only [if_neg hlong]
  have hday : max seconds 0 ≤ maxQuickSeconds := Int.not_lt.mp hlong
  refine Op.Ends.reading (Tracks.keeps_get _) (fun f hf => ?_) fun t ht => ?_
  · refine .refused (Or.inr (Or.inl fun cells hplayable => ?_))
    obtain ⟨t, ht, -⟩ := playable_iff.mp hplayable
    cases hf.symm.trans ht
  refine Op.Ends.reading (keeps_cellsOf t) (fun f hf => ?_) fun cells hcells => ?_
  · refine .refused (Or.inr (Or.inl fun cells hplayable => ?_))
    obtain ⟨u, hu, hcells⟩ := playable_iff.mp hplayable
    obtain rfl := Except.ok.inj (ht.symm.trans hu)
    cases hf.symm.trans hcells
  have hplayable : s.database.Playable trackId cells := playable_iff.mpr ⟨t, ht, hcells⟩
  obtain ⟨hstart, -⟩ := hnow.dayAgo (Int.le_max_right _ _) hday
  simp only [hstart]
  obtain ⟨number, hnumber, hfirst⟩ := s.database.freeSessionId_firstQuick now.toMillis
  refine Op.Ends.reading_of_answer (Op.keeps_query _) (congrArg Except.ok hnumber) ?_
  show (store (quickGame (quickId number) trackId cells completed (max seconds 0) moves client
    now)).Ends s _
  cases hnext : s.database.sessions.nextId? with
  | none =>
      refine (store_full _ hnext).imp ?_
      rintro r t ⟨rfl, rfl⟩
      exact .refused (Or.inr (Or.inr hnext))
  | some id =>
      obtain ⟨game, hquick⟩ := exists_isQuick hnow hclock trackId cells completed
        (Int.le_max_right _ _) hday moves client number id
      have htrack : s.database.tracks.find? trackId ≠ none := by
        obtain ⟨row, -, -, hfind, -⟩ := hplayable
        rw [hfind]
        exact Option.some_ne_none row
      refine (store_added hnext hfirst.free htrack hquick.read).imp ?_
      rintro r t ⟨rfl, rfl⟩
      exact .stored (Int.le_trans (Int.le_max_left _ _) hday) hplayable hfirst hnext hquick

/-- A game that is reported in one call is refused, and nothing changes, exactly if it took more than
    a day, its track is not there or cannot be read, or the table of sessions has no number left.
    Otherwise it is the one row that is added.  In the store of a run a track that is there can be
    read. -/
theorem recordQuick_exactly (hnow : now.InCommonEra) (hclock : now.nano < Instant.nanosPerSecond)
    (s : Store) (trackId : Int) (completed : Bool) (seconds moves : Int) (client : Client) :
    (recordQuick trackId completed seconds moves client now).Ends s fun r t =>
      ((∃ f, r = .error f ∧ t = s) ↔ maxQuickSeconds < seconds
        ∨ (∀ cells, ¬ s.database.Playable trackId cells) ∨ s.database.sessions.nextId? = none)
      ∧ ((¬ ∃ f, r = .error f ∧ t = s) → ∃ game row cells number, r = .ok game
        ∧ s.database.Playable trackId cells ∧ s.database.FirstQuick now.toMillis number
        ∧ s.database.sessions.nextId? = some row.id
        ∧ row.IsQuick game trackId cells completed (max seconds 0) moves number
        ∧ t = { s with database :=
            { s.database with sessions := s.database.sessions.append row } })
      ∧ (Tracks.Stored s → ((∀ cells, ¬ s.database.Playable trackId cells)
        ↔ s.database.tracks.find? trackId = none)) := by
  refine (recordQuick_reported hnow hclock s trackId completed seconds moves client).imp ?_
  intro r t hreported
  refine ⟨?_, ?_, fun hs => playable_none_iff hs⟩
  · cases hreported with
    | @refused f why => exact ⟨fun _ => why, fun _ => ⟨f, rfl, rfl⟩⟩
    | stored short playable first next quick =>
        constructor
        · rintro ⟨f, hf, -⟩
          cases hf
        · rintro (hlong | hnever | hfull)
          · exact absurd short (Int.not_le.mpr hlong)
          · exact absurd playable (hnever _)
          · cases hfull.symm.trans next
  · intro hstored
    cases hreported with
    | @refused f why => exact absurd ⟨f, rfl, rfl⟩ hstored
    | stored short playable first next quick =>
        exact ⟨_, _, _, _, rfl, playable, first, next, quick, rfl⟩

/-- A track is made, and a game on it is reported. -/
def played : Store :=
  (Store.empty .disabled).after
    [⟨⟨1772366400, 0⟩,
      .tracks (.create ⟨"Corridor", Grid.corridor.render, 0, 0, .east, none, none⟩ .system)⟩,
      ⟨⟨1772366460, 0⟩, .games (.recordQuick 1 false 30 2 {})⟩]

/-- A second game that is reported in the same millisecond gets the next id. -/
theorem recordQuick_exactly_twice :
    let now : Instant := ⟨1772366460, 0⟩
    now.InCommonEra ∧ now.nano < Instant.nanosPerSecond
      ∧ ∃ (game : GameSession) (row : SessionRow) (cells : Nat),
        (recordQuick 1 true 60 3 {} now).answer played = .ok game
          ∧ row.IsQuick game 1 cells true 60 3 (now.toMillis + 1) := by
  have hnow : (⟨1772366460, 0⟩ : Instant).InCommonEra := by decide
  have hclock : (0 : Nat) < Instant.nanosPerSecond := by decide
  have hok : ((recordQuick 1 true 60 3 {} ⟨1772366460, 0⟩).answer played).isOk = true := by
    decide +kernel
  have hids : played.database.sessions.rows.map SessionRow.sessionId
      = [quickId 1772366460000] := by
    decide +kernel
  have hsame : ∀ k, (∃ r ∈ played.database.sessions.rows, r.sessionId = quickId k)
      → k = 1772366460000 := by
    rintro k ⟨r, hr, hid⟩
    have hmem : quickId k ∈ played.database.sessions.rows.map SessionRow.sessionId :=
      hid ▸ List.mem_map_of_mem hr
    rw [hids] at hmem
    exact quickId_injective (List.mem_singleton.mp hmem)
  obtain ⟨r, hr, htaken⟩ : ∃ r ∈ played.database.sessions.rows,
      r.sessionId = quickId 1772366460000 := by
    have hmem := List.mem_singleton_self (quickId 1772366460000)
    rw [← hids] at hmem
    exact List.mem_map.mp hmem
  have hstored : ¬ ∃ f, (recordQuick 1 true 60 3 {} ⟨1772366460, 0⟩).answer played = .error f
      ∧ ((recordQuick 1 true 60 3 {} ⟨1772366460, 0⟩).run played).2 = played := by
    rintro ⟨f, hf, -⟩
    rw [hf] at hok
    cases hok
  obtain ⟨game, row, cells, number, hgame, -, hfirst, -, hquick, -⟩ :=
    (recordQuick_exactly hnow hclock played 1 true 60 3 {}).2.1 hstored
  refine ⟨hnow, hclock, game, row, cells, hgame, ?_⟩
  have hle : 1772366460000 ≤ number := hfirst.le
  have hne : number ≠ 1772366460000 := fun h => hfirst.free r hr (h ▸ htaken)
  have hnext : ¬ 1772366460001 < number := fun hlt => by
    have := hsame _ (hfirst.least 1772366460001 (by decide) hlt)
    omega
  obtain rfl : number = 1772366460001 := by omega
  exact hquick

/-- The store with a track that does not tell when it was made. -/
def undated : Store :=
  { played with database := { played.database with
      tracks := { played.database.tracks with
        rows := played.database.tracks.rows.map fun r => { r with createdAt := "yesterday" } } } }

/-- The store with a game that has the last number there is. -/
def exhausted : Store :=
  { played with database := { played.database with
      sessions := { played.database.sessions with
        rows := played.database.sessions.rows.map fun r => { r with id := maxId } } } }

/-- A game of a minute, on a track that is there, is refused in both of these stores. -/
theorem recordQuick_refused :
    (60 : Int) ≤ maxQuickSeconds ∧ undated.database.tracks.find? 1 ≠ none
      ∧ (recordQuick 1 true 60 3 {} ⟨1772366460, 0⟩).answer undated
        = .error (.unreadable (.time "yesterday"))
      ∧ exhausted.database.tracks.find? 1 ≠ none
      ∧ (recordQuick 1 true 60 3 {} ⟨1772366460, 0⟩).answer exhausted = .error .refused := by
  decide +kernel

end Games

end RobotMaze
