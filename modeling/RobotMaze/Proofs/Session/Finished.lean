import RobotMaze.Proofs.Session.Laws

/-! # Finished sessions — what later calls change of a session that has ended

    Three calls move a session to another state.  Once the session is not in
    progress, a call for the state that it is in succeeds and a call for another
    state is refused (`Move.answer_of_finished`).  Neither changes the session,
    but for one case: a failed session takes the message of each call that fails
    it again.

    * `GameSession.next_of_finished` — one call;
    * `GameSession.after_of_finished` — any calls after any calls. -/

namespace RobotMaze.GameSession

open Time (Instant)

/-- A call that moves a session to another state. -/
inductive Move where
  | transition (next : SessionStatus) (now : Instant)
  | completed (now : Instant)
  | failed (message : String) (now : Instant)

namespace Move

/-- What a session answers to a call. -/
def answer (s : GameSession) : Move → Except ForbiddenTransition GameSession
  | .transition next now => s.transition next now
  | .completed now => s.markCompleted now
  | .failed message now => s.markFailed message now

/-- The state that a call asks for. -/
def target : Move → SessionStatus
  | .transition next _ => next
  | .completed _ => .success
  | .failed _ _ => .failed

/-- The error message that a call brings. -/
def message? : Move → Option String
  | .transition _ _ => none
  | .completed _ => none
  | .failed message _ => some message

end Move

/-- A session after a call, which changes nothing if it is refused. -/
def next (s : GameSession) (c : Move) : GameSession :=
  match c.answer s with
  | .ok t => t
  | .error _ => s

/-- A session after calls, one after the other. -/
def after (s : GameSession) (calls : List Move) : GameSession := calls.foldl next s

/-- A session with the error message that calls bring, if it has failed. -/
def blamed (s : GameSession) (message : Option String) : GameSession :=
  { s with errorMessage := if s.status = .failed then message <|> s.errorMessage
      else s.errorMessage }

variable {s : GameSession}

/-! ## One call -/

theorem transition_of_finished (hend : s.status ≠ .inProgress) (next : SessionStatus)
    (now : Instant) : s.transition next now
      = if s.status = next then .ok s else .error ⟨s.sessionId, s.status, next⟩ := by
  have hstuck : ¬s.status.canBecome next = true := by
    rw [SessionStatus.canBecome_iff]
    exact fun h => hend h.1
  simp only [transition]
  rw [if_neg hstuck]

/-- A session that has ended accepts its own state, and no other. -/
theorem Move.answer_of_finished (hend : s.status ≠ .inProgress) (c : Move) :
    c.answer s = if s.status = c.target then .ok (s.blamed c.message?)
      else .error ⟨s.sessionId, s.status, c.target⟩ := by
  have hkept : s.blamed none = s := by
    simp [blamed]
  cases c with
  | transition next now =>
      show s.transition next now = if s.status = next then .ok (s.blamed none) else _
      rw [transition_of_finished hend, hkept]
      rfl
  | completed now =>
      show s.transition .success now = if s.status = .success then .ok (s.blamed none) else _
      rw [transition_of_finished hend, hkept]
      rfl
  | failed message now =>
      show (s.transition .failed now).map _
        = if s.status = .failed then .ok (s.blamed (some message)) else _
      rw [transition_of_finished hend]
      by_cases hfailed : s.status = .failed
      · rw [if_pos hfailed, if_pos hfailed]
        simp [Except.map, blamed, hfailed]
      · rw [if_neg hfailed, if_neg hfailed]
        rfl

/-- Only the error message of a session that has ended may change. -/
theorem next_of_finished (hend : s.status ≠ .inProgress) (c : Move) :
    s.next c = s.blamed c.message? := by
  simp only [next]
  rw [c.answer_of_finished hend]
  by_cases hsame : s.status = c.target
  · rw [if_pos hsame]
  -- a call that brings a message asks for failure, so a refused one has no effect either way
  · rw [if_neg hsame]
    cases c with
    | transition | completed => simp [blamed, Move.message?]
    | failed message now =>
        have hfailed : s.status ≠ .failed := hsame
        simp [blamed, hfailed]

/-! ## Any calls -/

theorem blamed_blamed (a b : Option String) : (s.blamed a).blamed b = s.blamed (b <|> a) := by
  by_cases hfailed : s.status = .failed
  · cases b <;> simp [blamed, hfailed]
  · simp [blamed, hfailed]

/-- The last message of a call and of those after it. -/
theorem lastMessage_cons (c : Move) (calls : List Move) :
    ((c :: calls).filterMap Move.message?).getLast?
      = ((calls.filterMap Move.message?).getLast? <|> c.message?) := by
  cases hmessage : c.message? with
  | none =>
      rw [List.filterMap_cons_none hmessage]
      cases (calls.filterMap Move.message?).getLast? <;> rfl
  | some message =>
      rw [List.filterMap_cons_some hmessage, List.getLast?_cons]
      cases (calls.filterMap Move.message?).getLast? <;> rfl

theorem after_of_ended (hend : s.status ≠ .inProgress) (calls : List Move) :
    s.after calls = s.blamed (calls.filterMap Move.message?).getLast? := by
  induction calls generalizing s with
  | nil => simp [after, blamed]
  | cons c calls ih =>
      show (s.next c).after calls = _
      rw [next_of_finished hend, ih (s := s.blamed c.message?) hend, blamed_blamed,
        lastMessage_cons]

/-- However a session came to its end, later calls change nothing of it but the error message
    of a failed session, which is that of the last call that fails it again.  A call is refused
    unless it asks for the state that the session is in. -/
theorem after_of_finished (s : GameSession) (before later : List Move)
    (hend : (s.after before).status ≠ .inProgress) :
    s.after (before ++ later) = (s.after before).blamed (later.filterMap Move.message?).getLast?
    ∧ ∀ c : Move, c.answer (s.after (before ++ later))
        = if (s.after before).status = c.target then
            .ok ((s.after (before ++ later)).blamed c.message?)
          else .error ⟨(s.after before).sessionId, (s.after before).status, c.target⟩ := by
  have hlater : s.after (before ++ later)
      = (s.after before).blamed (later.filterMap Move.message?).getLast? := by
    have happend : s.after (before ++ later) = (s.after before).after later :=
      List.foldl_append
    rw [happend, after_of_ended hend]
  refine ⟨hlater, fun c => ?_⟩
  have hstill : (s.after (before ++ later)).status ≠ .inProgress := by
    rw [hlater]
    exact hend
  rw [c.answer_of_finished hstill, hlater]
  rfl

/-- A game that has just begun. -/
def begun : GameSession where
  id := 1
  sessionId := "abc"
  trackId := 1
  startTime := ⟨1773144000, 0⟩
  endTime := none
  status := .inProgress
  movesCount := 0
  executionTime := none
  errorX := none
  errorY := none
  errorMessage := none
  ipAddress := none
  userAgent := none
  screen := none
  device := .desktop
  moves := none
  attempts := 1
  cellsVisited := 0
  totalCells := 7

/-- A game that was won is not lost any more. -/
theorem after_of_finished_won :
    (begun.after [.completed ⟨1773144001, 0⟩]).status ≠ .inProgress
    ∧ begun.after [.completed ⟨1773144001, 0⟩, .failed "Invalid move" ⟨1773144002, 0⟩]
      = begun.after [.completed ⟨1773144001, 0⟩] :=
  ⟨by decide, (after_of_finished begun [.completed ⟨1773144001, 0⟩]
    [.failed "Invalid move" ⟨1773144002, 0⟩] (by decide)).1⟩

/-- A second failure is accepted and overwrites the message of the first one. -/
theorem errorMessage_overwritten :
    let lost := begun.after [.failed "Invalid move" ⟨1773144001, 500000000⟩]
    let later := lost.after [.failed "Second message" ⟨1773144002, 500000000⟩]
    lost.status = .failed ∧ lost.errorMessage = some "Invalid move"
    ∧ later.errorMessage = some "Second message" ∧ ¬later.errorMessage = lost.errorMessage := by
  decide

end RobotMaze.GameSession
