import RobotMaze.Proofs.Keyed
import RobotMaze.Proofs.Store.Outcome
import RobotMaze.Web.Site

/-! # Runs of handlers

    A handler asks for parts of the request and does operations on the store.
    With nobody in between it has one outcome and leaves one store behind:

    * `Handling.run` — both of them;
    * `run_bind`, `run_require`, `run_perform` — one rule for each way in which
      handlers are put together;
    * `run_answer_of_entrance` — what a page of the entrance answers;
    * `Handling.Keeps` — every step of a handler leaves a part of the store as it
      was, and `Handling.Leaves` — a condition on the store after it. -/

namespace RobotMaze

/-- What is made of the answer of a computation leaves the state as the computation does. -/
theorem Steps.run_map {σ α β : Type} (x : Steps σ α) (f : α → β) (s : σ) :
    Steps.run (x >>= fun a => pure (f a)) s = (f (x.run s).1, (x.run s).2) :=
  Steps.run_bind x (fun a => pure (f a)) s

/-- An attempt never fails, and it leaves the store that the operation leaves. -/
theorem Op.run_attempt {α : Type} (op : Op α) (s : Store) :
    op.attempt.run s = (.ok (op.answer s), (op.run s).2) :=
  Steps.run_bind (ExceptT.run op)
    (fun r => (.done (.ok r) : Steps Store (Except Failure (Except Failure α)))) s

namespace Web

variable {α β γ : Type} {view : Store → γ}

/-- The outcome of a handler that runs alone, and the store after it. -/
def Handling.run (h : Handling α) (s : Store) : Except Refusal α × Store :=
  Steps.run (ExceptT.run h) s

theorem run_require (x : Except Refusal α) (s : Store) : (require x).run s = (x, s) := rfl

/-- The second handler begins in the store that the first one left, if that succeeded. -/
theorem run_bind (x : Handling α) (f : α → Handling β) (s : Store) :
    (x >>= f).run s = match (x.run s).1 with
      | .ok a => (f a).run (x.run s).2
      | .error e => (.error e, (x.run s).2) := by
  refine (Steps.run_bind (ExceptT.run x) _ s).trans ?_
  simp only [Handling.run]
  cases (Steps.run (ExceptT.run x) s).1 <;> rfl

/-- An operation that is performed answers with a refusal where it fails. -/
theorem run_perform (op : Op α) (s : Store) :
    (perform op).run s = ((op.answer s).mapError Refusal.ofFailure, (op.run s).2) := by
  refine (Steps.run_bind (ExceptT.run op) _ s).trans ?_
  simp only [Op.answer, Op.run]
  cases (Steps.run (ExceptT.run op) s).1 <;> rfl

/-- What is asked for and there is handed on. -/
theorem run_require_bind {x : Except Refusal α} {a : α} (hx : x = .ok a) (f : α → Handling β)
    (s : Store) : (require x >>= f).run s = (f a).run s := by
  rw [run_bind, run_require, hx]

/-- What is handled in the end had all that it asked for. -/
theorem ok_of_run_require {x : Except Refusal α} {f : α → Handling β} {b : β} {s : Store}
    (h : ((require x >>= f).run s).1 = .ok b) : ∃ a, x = .ok a ∧ ((f a).run s).1 = .ok b := by
  cases x with
  | ok a => exact ⟨a, rfl, by rwa [run_require_bind rfl] at h⟩
  | error e =>
      rw [run_bind, run_require] at h
      cases h

/-- The outcome of an attempt is handed on, whatever it is. -/
theorem run_attempt_bind (op : Op α) (f : Except Failure α → Handling β) (s : Store) :
    (perform op.attempt >>= f).run s = (f (op.answer s)).run (op.run s).2 := by
  rw [run_bind, run_perform]
  simp only [Op.answer]
  rw [Op.run_attempt]
  rfl

/-- The response to a request that has been handled, or refused. -/
theorem run_respond (c : Context) (r : Request) (h : Handling Response) (s : Store) :
    (respond c r h).run s
      = (match (h.run s).1 with
          | .ok response => response
          | .error refusal => refusal.response (c.cause? r refusal), (h.run s).2) := by
  refine (Steps.run_bind (ExceptT.run h) _ s).trans ?_
  simp only [Handling.run]
  cases (Steps.run (ExceptT.run h) s).1 <;> rfl

/-- What a page of the entrance answers to a method that it knows. -/
theorem run_answer_of_entrance {c : Context} {r : Request} {route : EntranceRoute}
    (hroute : Route.ofPath? r.path = some (.entrance route)) (hmethod : r.method ≠ .head)
    {handler : Handler} (hhandler : handlerFor? route.handlers r.method = some handler)
    (s : Store) : (answer c r).run s = (respond c r (handler c r)).run s := by
  simp only [answer, hroute, Route.answer, openAnswer, hhandler, if_neg hmethod]
  exact Steps.run_map (respond c r (handler c r)) id s

/-- What is done for a method is listed for that method, or it is done for the whole as well. -/
theorem exists_of_handlerFor? {η : Type} {handlers : List (Method × η)} {m : Method} {handler : η}
    (h : handlerFor? handlers m = some handler) :
    ∃ m', (m' = m ∨ m' = .get) ∧ (m', handler) ∈ handlers := by
  rw [handlerFor?] at h
  cases hlookup : handlers.lookup m with
  | some other =>
      rw [hlookup] at h
      obtain rfl := Option.some.inj h
      exact ⟨m, Or.inl rfl, Keyed.mem_of_lookup hlookup⟩
  | none =>
      rw [hlookup] at h
      by_cases hhead : m = .head
      · exact ⟨.get, Or.inr rfl, Keyed.mem_of_lookup (by simpa [hhead] using h)⟩
      · simp [hhead] at h

/-! ## Frames -/

/-- Every step of a handler leaves a part of the store as it was. -/
def Handling.Keeps (view : Store → γ) (h : Handling α) : Prop :=
  Steps.Always (fun s t => view t = view s) (ExceptT.run h)

theorem Handling.Keeps.run {h : Handling α} (hh : h.Keeps view) (s : Store) :
    view (h.run s).2 = view s :=
  Steps.Always.run hh (fun _ => rfl) (fun hst htu => htu.trans hst) s

@[grind ←]
theorem keeps_pure (a : α) : (pure a : Handling α).Keeps view := .done _

@[grind ←]
theorem keeps_throw (e : Refusal) : (throw e : Handling α).Keeps view := .done _

@[grind ←]
theorem keeps_require (x : Except Refusal α) : (require x).Keeps view := .done _

/-- Two handlers in a row leave alone what both do. -/
@[grind ←]
theorem keeps_bind {x : Handling α} {f : α → Handling β} (hx : x.Keeps view)
    (hf : ∀ a, (f a).Keeps view) : (x >>= f).Keeps view := by
  refine Steps.Always.bind hx fun r => ?_
  cases r with
  | ok a => exact hf a
  | error e => exact .done _

/-- A handler leaves alone what the operation it performs does. -/
@[grind ←]
theorem keeps_perform {op : Op α} (hop : op.Keeps view) : (perform op).Keeps view := by
  refine Steps.Always.bind hop fun r => ?_
  cases r <;> exact .done _

/-! ## The store after a handler -/

/-- A condition on the store that a handler leaves behind. -/
def Handling.Leaves (h : Handling α) (s : Store) (post : Store → Prop) : Prop := post (h.run s).2

/-- A demand that is refused leaves the store as it is. -/
theorem leaves_require {x : Except Refusal α} {f : α → Handling β} {s : Store}
    {post : Store → Prop} (hrefused : post s) (h : ∀ a, x = .ok a → (f a).Leaves s post) :
    (require x >>= f).Leaves s post := by
  rw [Handling.Leaves, run_bind, run_require]
  cases hx : x with
  | ok a => exact h a hx
  | error e => exact hrefused

/-- An operation is the last thing that is done to the store. -/
theorem leaves_perform {op : Op α} {f : α → Handling β} {s : Store} {post : Store → Prop}
    (hop : op.Ends s fun _ t => post t) (hf : ∀ a, (f a).Keeps fun s => s) :
    (perform op >>= f).Leaves s post := by
  rw [Handling.Leaves, run_bind, run_perform]
  cases (op.answer s).mapError Refusal.ofFailure with
  | ok a =>
      show post ((f a).run (op.run s).2).2
      rw [(hf a).run]
      exact hop.store
  | error e => exact hop.store

end Web

end RobotMaze
