import RobotMaze.Proofs.Service.Calls
import RobotMaze.Proofs.Store.Outcome

/-! # Laws of a game session

    A session is `Lawful` if its fields agree with its state, and one session
    `Follows` another if it is a later state of the same one.

    * `ProgressReport.applyTo_cases` — a report leaves the state as it is, or it
      moves a session in progress to the final state that it names;
    * `ProgressReport.lawful_applyTo`, `ProgressReport.follows_applyTo` — either
      way the session keeps the laws. -/

namespace RobotMaze

open Time (Instant)

namespace GameSession

/-- The fields of a session agree with its state. -/
structure Lawful (s : GameSession) : Prop where
  endTime_iff : s.endTime.isSome = true ↔ s.status = .success ∨ s.status = .failed
  executionTime_only : s.executionTime.isSome = true → s.status = .success ∨ s.status = .failed
  errorMessage_only : s.errorMessage.isSome = true → s.status = .failed
  errorX_only : s.errorX.isSome = true → s.status = .failed
  errorY_only : s.errorY.isSome = true → s.status = .failed
  movesCount_nonneg : 0 ≤ s.movesCount
  cellsVisited_nonneg : 0 ≤ s.cellsVisited
  attempts_nonneg : 0 ≤ s.attempts

/-- In progress a session has neither an end nor an error. -/
structure Open (s : GameSession) : Prop where
  endTime : s.endTime = none
  executionTime : s.executionTime = none
  errorMessage : s.errorMessage = none
  errorX : s.errorX = none
  errorY : s.errorY = none

/-- A lawful session in progress is open. -/
theorem Lawful.open_of_inProgress {s : GameSession} (hs : s.Lawful)
    (hstart : s.status = .inProgress) : s.Open := by
  have hnone : ∀ {α : Type} {a : Option α}, ¬a.isSome = true → a = none := by
    intro α a ha
    simpa using ha
  have hends : ¬(s.status = .success ∨ s.status = .failed) := by
    rw [hstart]
    decide
  have hfailed : ¬s.status = .failed := fun h => hends (Or.inr h)
  exact {
    endTime := hnone fun h => hends (hs.endTime_iff.mp h)
    executionTime := hnone fun h => hends (hs.executionTime_only h)
    errorMessage := hnone fun h => hfailed (hs.errorMessage_only h)
    errorX := hnone fun h => hfailed (hs.errorX_only h)
    errorY := hnone fun h => hfailed (hs.errorY_only h) }

/-- A later state of a session. -/
structure Follows (s t : GameSession) : Prop where
  id_eq : t.id = s.id
  sessionId_eq : t.sessionId = s.sessionId
  trackId_eq : t.trackId = s.trackId
  startTime_eq : t.startTime = s.startTime
  ipAddress_eq : t.ipAddress = s.ipAddress
  userAgent_eq : t.userAgent = s.userAgent
  device_eq : t.device = s.device
  totalCells_eq : t.totalCells = s.totalCells
  status_final : s.status ≠ .inProgress → t.status = s.status
  endTime_final : s.endTime.isSome = true → t.endTime = s.endTime
  error_final : s.status = .failed →
    t.errorMessage = s.errorMessage ∧ t.errorX = s.errorX ∧ t.errorY = s.errorY

namespace Follows

theorem refl (s : GameSession) : s.Follows s :=
  ⟨rfl, rfl, rfl, rfl, rfl, rfl, rfl, rfl, fun _ => rfl, fun _ => rfl, fun _ => ⟨rfl, rfl, rfl⟩⟩

/-- What follows a session that follows another one follows that one. -/
theorem trans {s t u : GameSession} (hst : s.Follows t) (htu : t.Follows u) : s.Follows u where
  id_eq := htu.id_eq.trans hst.id_eq
  sessionId_eq := htu.sessionId_eq.trans hst.sessionId_eq
  trackId_eq := htu.trackId_eq.trans hst.trackId_eq
  startTime_eq := htu.startTime_eq.trans hst.startTime_eq
  ipAddress_eq := htu.ipAddress_eq.trans hst.ipAddress_eq
  userAgent_eq := htu.userAgent_eq.trans hst.userAgent_eq
  device_eq := htu.device_eq.trans hst.device_eq
  totalCells_eq := htu.totalCells_eq.trans hst.totalCells_eq
  status_final := by
    intro hs
    have ht := hst.status_final hs
    rw [htu.status_final (by rw [ht]; exact hs), ht]
  endTime_final := by
    intro hs
    have ht := hst.endTime_final hs
    rw [htu.endTime_final (by rw [ht]; exact hs), ht]
  error_final := by
    intro hs
    have ht : t.status = .failed := by
      rw [hst.status_final (by rw [hs]; decide), hs]
    obtain ⟨hmessage, hx, hy⟩ := hst.error_final hs
    obtain ⟨hmessage', hx', hy'⟩ := htu.error_final ht
    exact ⟨hmessage'.trans hmessage, hx'.trans hx, hy'.trans hy⟩

end Follows

/-- A session in another final state, with what a report says of its end. -/
def ended (s : GameSession) (status : SessionStatus) (r : ProgressReport) (now : Instant) :
    GameSession :=
  { s with
    status
    endTime := if status.endsSession then some now else s.endTime
    executionTime := if status.endsSession then r.executionTime <|> s.executionTime
      else s.executionTime
    errorMessage := if status = .failed then r.errorMessage else s.errorMessage
    errorX := if status = .failed then r.errorX else s.errorX
    errorY := if status = .failed then r.errorY else s.errorY }

end GameSession

/-! ## Reports -/

/-- Only a session in progress can become something else. -/
theorem SessionStatus.canBecome_iff (s t : SessionStatus) :
    s.canBecome t = true ↔ s = .inProgress ∧ t ≠ .inProgress := by
  cases s <;> cases t <;> decide

namespace ProgressReport

variable {r : ProgressReport} {now : Instant} {s t : GameSession}

theorem applyStatus_none (hstatus : r.status = none) : r.applyStatus now s = .ok s := by
  simp only [applyStatus]
  rw [hstatus]

/-- The state that a session is in already changes nothing. -/
theorem applyStatus_same (hstatus : r.status = some s.status) : r.applyStatus now s = .ok s := by
  simp only [applyStatus, GameSession.transition]
  rw [hstatus]
  simp only [if_true, ne_eq, not_true_eq_false, false_and, if_false]
  rfl

/-- A session in progress can be moved to each final state. -/
theorem applyStatus_inProgress {status : SessionStatus} (hstatus : r.status = some status)
    (hstart : s.status = .inProgress) (hfinal : status ≠ .inProgress) :
    r.applyStatus now s = .ok (s.ended status r now) := by
  simp only [applyStatus, GameSession.transition]
  rw [hstatus]
  simp only [hstart]
  cases status with
  | inProgress => exact absurd rfl hfinal
  | success | failed | abandoned | error => rfl

/-- Nothing else is allowed. -/
theorem applyStatus_forbidden {status : SessionStatus} (hstatus : r.status = some status)
    (hne : s.status ≠ status) (hnext : ¬(s.status = .inProgress ∧ status ≠ .inProgress)) :
    ∃ f, r.applyStatus now s = .error f := by
  rw [← SessionStatus.canBecome_iff] at hnext
  simp only [applyStatus, GameSession.transition]
  rw [hstatus]
  simp only [if_neg hne, if_neg hnext]
  exact ⟨_, rfl⟩

/-- A report names no other state than that of the session, and leaves it as it is, or it moves a
    session in progress to the final state that it names. -/
theorem applyTo_cases (h : r.applyTo now s = .ok t) :
    ((∀ status ∈ r.status, status = s.status) ∧ t = r.applyCounters s)
      ∨ ∃ status, r.status = some status ∧ s.status = .inProgress ∧ status ≠ .inProgress
        ∧ t = (r.applyCounters s).ended status r now := by
  simp only [applyTo] at h
  cases hstatus : r.status with
  | none =>
      rw [applyStatus_none hstatus] at h
      injection h with h
      exact Or.inl ⟨fun _ hnone => (nomatch hnone), h.symm⟩
  | some status =>
      by_cases hsame : (r.applyCounters s).status = status
      · rw [applyStatus_same (hsame ▸ hstatus)] at h
        injection h with h
        exact Or.inl ⟨fun _ hnamed => (Option.some.inj hnamed).symm.trans hsame.symm, h.symm⟩
      -- only a session in progress may change its state, and counters do not touch the state
      · by_cases hnext : (r.applyCounters s).status = .inProgress ∧ status ≠ .inProgress
        · rw [applyStatus_inProgress hstatus hnext.1 hnext.2] at h
          injection h with h
          exact Or.inr ⟨status, rfl, hnext.1, hnext.2, h.symm⟩
        · obtain ⟨f, hf⟩ := applyStatus_forbidden hstatus hsame hnext
          rw [hf] at h
          cases h

/-- A report leaves the state as it is, or it moves a session in progress to a final state. -/
theorem applyTo_ok (h : r.applyTo now s = .ok t) :
    t = r.applyCounters s ∨ ∃ status, s.status = .inProgress ∧ status ≠ .inProgress
      ∧ t = (r.applyCounters s).ended status r now := by
  rcases applyTo_cases h with ⟨-, hsame⟩ | ⟨status, -, hended⟩
  · exact Or.inl hsame
  · exact Or.inr ⟨status, hended⟩

/-- No counter of a report that was checked is negative. -/
theorem counters_nonneg (h : r.check = .ok ()) :
    (∀ n ∈ r.movesCount, 0 ≤ n) ∧ (∀ n ∈ r.cellsVisited, 0 ≤ n) ∧ ∀ n ∈ r.attempts, 0 ≤ n := by
  have hall : ∀ c ∈ r.counters, isNegative c.2 = false := by
    simp only [check] at h
    cases hfind : r.counters.find? fun c => isNegative c.2 with
    | some c =>
        rw [hfind] at h
        cases h
    | none =>
        intro c hc
        simpa using List.find?_eq_none.mp hfind c hc
  have hnonneg : ∀ {a : Option Int}, isNegative a = false → ∀ n ∈ a, 0 ≤ n := by
    rintro a ha n rfl
    simpa [isNegative] using ha
  refine ⟨hnonneg (hall (.moves, r.movesCount) ?_), hnonneg (hall (.cells, r.cellsVisited) ?_),
    hnonneg (hall (.attempts, r.attempts) ?_)⟩ <;> simp [counters]

/-- Counters that pass the check leave a session lawful. -/
theorem lawful_applyCounters (hr : r.check = .ok ()) (hs : s.Lawful) :
    (r.applyCounters s).Lawful := by
  obtain ⟨hmoves, hcells, hattempts⟩ := counters_nonneg hr
  have hgetD : ∀ {a : Option Int} {n : Int}, (∀ m ∈ a, 0 ≤ m) → 0 ≤ n → 0 ≤ a.getD n := by
    intro a n ha hn
    cases a with
    | none => exact hn
    | some m => exact ha m rfl
  exact {
    endTime_iff := hs.endTime_iff
    executionTime_only := hs.executionTime_only
    errorMessage_only := hs.errorMessage_only
    errorX_only := hs.errorX_only
    errorY_only := hs.errorY_only
    movesCount_nonneg := hgetD hmoves hs.movesCount_nonneg
    cellsVisited_nonneg := hgetD hcells hs.cellsVisited_nonneg
    attempts_nonneg := hgetD hattempts hs.attempts_nonneg }

theorem lawful_ended (hs : s.Lawful) (hstart : s.status = .inProgress) (status : SessionStatus) :
    (s.ended status r now).Lawful := by
  -- what the new state does not set was missing before
  obtain ⟨hend, htime, hmessage, hx, hy⟩ := hs.open_of_inProgress hstart
  simp only [GameSession.ended]
  constructor
  case movesCount_nonneg => exact hs.movesCount_nonneg
  case cellsVisited_nonneg => exact hs.cellsVisited_nonneg
  case attempts_nonneg => exact hs.attempts_nonneg
  all_goals cases status <;> simp [SessionStatus.endsSession, hend, htime, hmessage, hx, hy]

/-- A report does not change the id of a session. -/
theorem sessionId_applyTo (h : r.applyTo now s = .ok t) : t.sessionId = s.sessionId := by
  rcases applyTo_ok h with rfl | ⟨status, -, -, rfl⟩
  · rfl
  · rfl

/-- A report that passes the check leaves a session lawful. -/
theorem lawful_applyTo (h : r.applyTo now s = .ok t) (hr : r.check = .ok ()) (hs : s.Lawful) :
    t.Lawful := by
  have hcounters := lawful_applyCounters hr hs
  rcases applyTo_ok h with rfl | ⟨status, hstart, hfinal, rfl⟩
  · exact hcounters
  · exact lawful_ended hcounters hstart status

/-- A session with a report in it follows the one before. -/
theorem follows_applyTo (h : r.applyTo now s = .ok t) (hs : s.Lawful) : s.Follows t := by
  rcases applyTo_ok h with rfl | ⟨status, hstart, hfinal, rfl⟩
  · exact ⟨rfl, rfl, rfl, rfl, rfl, rfl, rfl, rfl, fun _ => rfl, fun _ => rfl,
      fun _ => ⟨rfl, rfl, rfl⟩⟩
  · refine ⟨rfl, rfl, rfl, rfl, rfl, rfl, rfl, rfl, ?_, ?_, ?_⟩
    · exact fun hne => absurd hstart hne
    · intro hend
      rw [(hs.open_of_inProgress hstart).endTime] at hend
      cases hend
    · intro hfailed
      rw [hstart] at hfailed
      cases hfailed

end ProgressReport

end RobotMaze
