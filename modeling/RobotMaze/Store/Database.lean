import RobotMaze.Store.Rows
import RobotMaze.Store.Table
import RobotMaze.Store.Trail

/-! # The store

    Each step of a computation looks at the state as it is at that moment and
    changes it at once; between two steps others may change the state.

    * `Steps.atomic` is one step, `Steps.bind` one computation after another;
    * `Steps.run` takes all steps in a row, with nobody in between.

    A `Database` holds five tables; a `Store` is a database with its audit
    trail.  Operations on a store are computations in atomic steps that may
    fail, of type `Op`.

    * `Op.query` looks at the database in one step;
    * `Op.change` changes it in one step, or fails and leaves it as it is. -/

namespace RobotMaze

/-! ## Steps -/

/-- A computation in atomic steps on a state. -/
inductive Steps (σ : Type) (α : Type) where
  /-- The computation has ended. -/
  | done (a : α)
  /-- Changes the state, then goes on with what it saw before the change. -/
  | step (change : σ → σ) (next : σ → Steps σ α)

namespace Steps

variable {σ α β : Type}

/-- One computation after another. -/
def bind (x : Steps σ α) (f : α → Steps σ β) : Steps σ β :=
  match x with
  | .done a => f a
  | .step change next => .step change fun s => bind (next s) f

instance : Monad (Steps σ) where
  pure := .done
  bind := bind

/-- A single step. -/
def atomic (f : σ → α × σ) : Steps σ α := .step (fun s => (f s).2) fun s => .done (f s).1

/-- Takes all steps in a row. -/
def run (x : Steps σ α) (s : σ) : α × σ :=
  match x with
  | .done a => (a, s)
  | .step change next => run (next s) (change s)

/-- A run of two computations is the run of the first and then of the second. -/
theorem run_bind (x : Steps σ α) (f : α → Steps σ β) (s : σ) :
    (x.bind f).run s = (f (x.run s).1).run (x.run s).2 := by
  induction x generalizing s with
  | done a => rfl
  | step change next ih => exact ih s (change s)

/-- A single step runs at once. -/
theorem run_atomic (f : σ → α × σ) (s : σ) : (atomic f).run s = f s := rfl

end Steps

/-! ## Databases -/

instance : Row TrackRow := ⟨TrackRow.id⟩
instance : Row UserRow := ⟨UserRow.id⟩
instance : Row SessionRow := ⟨SessionRow.id⟩
instance : Row AuditRow := ⟨AuditRow.id⟩

/-- The tables of the program. -/
structure Database where
  tracks : Table TrackRow := {}
  users : Table UserRow := {}
  sessions : Table SessionRow := {}
  audit : Table AuditRow := {}
  logins : List LoginRow := []

/-- A database and its audit trail. -/
structure Store where
  database : Database := {}
  trail : Trail := .disabled

/-- An operation on a store. -/
abbrev Op := ExceptT Failure (Steps Store)

namespace Op

variable {α : Type}

/-- Looks at the database. -/
def query (f : Database → α) : Op α :=
  ExceptT.lift (Steps.atomic fun s => (f s.database, s))

/-- Looks at the database with an answer that may be a failure. -/
def queryRead (f : Database → Read α) : Op α :=
  ExceptT.mk (Steps.atomic fun s => (f s.database, s))

/-- Changes the database, or fails. -/
def change (f : Database → Except Failure (α × Database)) : Op α :=
  ExceptT.mk (Steps.atomic fun s =>
    match f s.database with
    | .ok (a, db) => (.ok a, { s with database := db })
    | .error e => (.error e, s))

/-- Adds the line of an entry to the audit trail. -/
def addToTrail (e : AuditEntry) : Op Unit :=
  ExceptT.lift (Steps.atomic fun s => ((), { s with trail := s.trail.append e }))

/-- The outcome of a rule. -/
def ofCheck (x : Except Violation α) : Op α :=
  match x with
  | .ok a => pure a
  | .error v => throw (.rejected v)

/-- The outcome of reading stored values. -/
def ofRead (x : Read α) : Op α :=
  match x with
  | .ok a => pure a
  | .error e => throw e

/-- The outcome of an operation, taken all at once, and the store after it. -/
def run (op : Op α) (s : Store) : Except Failure α × Store := Steps.run (ExceptT.run op) s

/-- An operation whose failure is an answer of its own. -/
def attempt (op : Op α) : Op (Except Failure α) := ExceptT.mk (do return .ok (← ExceptT.run op))

end Op

end RobotMaze
