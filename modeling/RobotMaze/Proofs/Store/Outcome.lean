import RobotMaze.Store.Database

/-! # Operations — what they leave alone and how they end

    Between two steps of an operation others may change the store.  What it leaves
    alone is therefore a property of its steps one by one; with nobody in between,
    it has an answer and leaves a store behind.

    * `Steps.Always` — every step of a computation stands in a relation, whatever
      state it meets;
    * `Op.Keeps` — every step of an operation leaves a part of the store as it was,
      and so does the whole operation (`Keeps.run`);
    * `Op.answer` — the answer of an operation that runs alone;
    * `Op.Ends` — a condition on the answer and on the store after it;
    * `Ends.reading`, `Ends.changing`, `Ends.keeping` — one rule for what looks at
      the store, one for what changes the database, one for what is still to
      come but no longer matters. -/

namespace RobotMaze

/-! ## Frames -/

namespace Steps

variable {σ α β : Type} {R : σ → σ → Prop}

/-- Every step of a computation, whatever state it meets, stands in a relation. -/
inductive Always (R : σ → σ → Prop) : Steps σ α → Prop where
  | done (a : α) : Always R (.done a)
  | step {change : σ → σ} {next : σ → Steps σ α} (now : ∀ s, R s (change s))
      (later : ∀ s, Always R (next s)) : Always R (.step change next)

/-- What holds of every step of two computations holds of them in a row. -/
theorem Always.bind {x : Steps σ α} {f : α → Steps σ β} (hx : Always R x)
    (hf : ∀ a, Always R (f a)) : Always R (x.bind f) := by
  induction hx with
  | done a => exact hf a
  | step now later ih => exact .step now ih

/-- What every step implies holds of every step as well. -/
theorem Always.imp {R' : σ → σ → Prop} {x : Steps σ α} (hx : Always R x)
    (h : ∀ {s t}, R s t → R' s t) : Always R' x := by
  induction hx with
  | done a => exact .done a
  | step now _ ih => exact .step (fun s => h (now s)) ih

/-- What holds of every step holds of all of them in a row. -/
theorem Always.run {x : Steps σ α} (hx : Always R x) (refl : ∀ s, R s s)
    (trans : ∀ {s t u}, R s t → R t u → R s u) (s : σ) : R s (x.run s).2 := by
  -- on the steps, each of which meets the state that the last one left
  induction hx generalizing s with
  | done a => exact refl s
  | @step change next now later ih => exact trans (now s) (ih s (change s))

end Steps

namespace Op

variable {α β γ : Type} {view : Store → γ}

/-- Every step of an operation leaves a part of the store as it was. -/
def Keeps (view : Store → γ) (op : Op α) : Prop :=
  Steps.Always (fun s s' => view s' = view s) (ExceptT.run op)

/-- What every step leaves alone is left alone by the whole run. -/
theorem Keeps.run {op : Op α} (h : op.Keeps view) (s : Store) : view (op.run s).2 = view s :=
  Steps.Always.run h (fun _ => rfl) (fun hst htu => htu.trans hst) s

/-- Who leaves a part alone leaves alone what depends on that part only. -/
theorem Keeps.of_view {δ : Type} {op : Op α} (h : op.Keeps view) (f : γ → δ) :
    op.Keeps (fun s => f (view s)) :=
  Steps.Always.imp h fun hst => congrArg f hst

@[grind ←]
theorem keeps_pure (a : α) : (pure a : Op α).Keeps view := .done _

@[grind ←]
theorem keeps_throw (e : Failure) : (throw e : Op α).Keeps view := .done _

/-- Two operations in a row leave alone what both do. -/
@[grind ←]
theorem keeps_bind {x : Op α} {f : α → Op β} (hx : x.Keeps view) (hf : ∀ a, (f a).Keeps view) :
    (x >>= f).Keeps view := by
  refine Steps.Always.bind hx fun r => ?_
  cases r with
  | ok a => exact hf a
  | error e => exact .done _

/-- An operation that is done or not leaves alone what it does if it is done. -/
theorem keeps_mapM {a : Option α} {f : α → Op β} (hf : ∀ a, (f a).Keeps view) :
    (a.mapM f).Keeps view := by
  cases a with
  | none => exact keeps_pure none
  | some a =>
      refine Steps.Always.bind (hf a) fun r => ?_
      cases r <;> exact .done _

/-- A question changes nothing. -/
@[grind ←]
theorem keeps_query (f : Database → α) : (query f).Keeps view :=
  .step (fun _ => rfl) fun _ => .done _

/-- A question that may meet an unreadable row changes nothing. -/
@[grind ←]
theorem keeps_queryRead (f : Database → Read α) : (queryRead f).Keeps view :=
  .step (fun _ => rfl) fun _ => .done _

/-- A check takes no step. -/
@[grind ←]
theorem keeps_ofCheck (x : Except Violation α) : (ofCheck x).Keeps view := by
  cases x <;> exact .done _

/-- Reading a row takes no step. -/
@[grind ←]
theorem keeps_ofRead (x : Read α) : (ofRead x).Keeps view := by
  cases x <;> exact .done _

/-- A change puts the new database into the store, or it fails and nothing changes. -/
theorem run_change (f : Database → Except Failure (α × Database)) (s : Store) :
    (change f).run s = match f s.database with
      | .ok (a, db) => (.ok a, { s with database := db })
      | .error e => (.error e, s) :=
  rfl

/-- A change of the database leaves alone what it does not write to. -/
theorem keeps_change {f : Database → Except Failure (α × Database)}
    (h : ∀ (s : Store) a db, f s.database = .ok (a, db) →
      view { s with database := db } = view s) :
    (change f).Keeps view := by
  refine .step (fun s => ?_) fun _ => .done _
  show view ((change f).run s).2 = view s
  rw [run_change]
  cases hf : f s.database with
  | error e => rfl
  | ok r => exact h s r.1 r.2 hf

/-- Catching a failure changes nothing more. -/
@[grind ←]
theorem keeps_attempt {op : Op α} (h : op.Keeps view) : op.attempt.Keeps view :=
  Steps.Always.bind h fun _ => .done _

/-- A line for the trail leaves alone what does not depend on the trail. -/
theorem keeps_addToTrail {e : AuditEntry}
    (h : ∀ s : Store, view { s with trail := s.trail.append e } = view s) :
    (addToTrail e).Keeps view :=
  .step (fun s => h s) fun _ => .done _

end Op

/-! ## Outcomes -/

theorem exists_ok {ε α : Type} {x : Except ε α} (h : x.isOk = true) : ∃ a, x = .ok a := by
  cases x with
  | ok a => exact ⟨a, rfl⟩
  | error e => cases h

theorem ok_of_toOption {ε α : Type} {x : Except ε α} {a : α} (h : x.toOption = some a) :
    x = .ok a := by
  cases x with
  | ok b => exact congrArg _ (Option.some.inj h)
  | error e => cases h

/-- Whatever is said of the result of a computation holds if it fails. -/
theorem forall_ok_of_error {ε α : Type} {P : α → Prop} {e : ε} :
    ∀ a, (Except.error e : Except ε α) = .ok a → P a := by
  intro a h
  cases h

/-- A computation that succeeds did so in both of its parts. -/
theorem ok_of_bind {ε α β : Type} {x : Except ε α} {f : α → Except ε β} {b : β}
    (h : x >>= f = .ok b) : ∃ a, x = .ok a ∧ f a = .ok b := by
  cases x with
  | ok a => exact ⟨a, rfl, h⟩
  | error e => cases h

/-- A result that was changed was there before. -/
theorem ok_of_map {ε α β : Type} {x : Except ε α} {f : α → β} {b : β} (h : x.map f = .ok b) :
    ∃ a, x = .ok a ∧ f a = b := by
  cases x with
  | ok a => exact ⟨a, rfl, Except.ok.inj h⟩
  | error e => cases h

/-- A computation that fails did so in one of its parts. -/
theorem error_of_bind {ε α β : Type} {x : Except ε α} {f : α → Except ε β} {e : ε}
    (h : x >>= f = .error e) : x = .error e ∨ ∃ a, x = .ok a ∧ f a = .error e := by
  cases x with
  | ok a => exact Or.inr ⟨a, rfl, h⟩
  | error e' =>
      injection h with h
      exact Or.inl (congrArg _ h)

/-- An optional value that was taken through a computation is missing before and after it, or it is
    there before and after it. -/
theorem mapM_ok {ε α β : Type} {f : α → Except ε β} {a : Option α} {b : Option β}
    (h : a.mapM f = .ok b) :
    (a = none ∧ b = none) ∨ ∃ x y, a = some x ∧ b = some y ∧ f x = .ok y := by
  cases a with
  | none =>
      injection h with h
      exact Or.inl ⟨rfl, h.symm⟩
  | some x =>
      cases hf : f x with
      | error e =>
          rw [Option.mapM_some, hf] at h
          cases h
      | ok y =>
          rw [Option.mapM_some, hf] at h
          injection h with h
          exact Or.inr ⟨x, y, rfl, h.symm, hf⟩

/-- What a computation makes of an optional value, where it succeeds, is made of it without the
    computation. -/
theorem map_of_mapM {ε α β : Type} {f : α → Except ε β} {g : α → β}
    (hfg : ∀ x y, f x = .ok y → y = g x) {a : Option α} {b : Option β} (h : a.mapM f = .ok b) :
    b = a.map g := by
  rcases mapM_ok h with ⟨rfl, rfl⟩ | ⟨x, y, rfl, rfl, hxy⟩
  · rfl
  · rw [Option.map_some, hfg x y hxy]

/-- What may fail goes on after its first part, if that has not failed. -/
theorem Steps.run_bind_except {σ ε α β : Type} (x : ExceptT ε (Steps σ) α)
    (f : α → ExceptT ε (Steps σ) β) (s : σ) :
    Steps.run (ExceptT.run (x >>= f)) s = match (Steps.run (ExceptT.run x) s).1 with
      | .ok a => Steps.run (ExceptT.run (f a)) (Steps.run (ExceptT.run x) s).2
      | .error e => (.error e, (Steps.run (ExceptT.run x) s).2) := by
  have hrun := Steps.run_bind (ExceptT.run x) (fun r => match r with
    | .ok a => ExceptT.run (f a)
    | .error e => pure (.error e)) s
  -- the transformer and the steps match on the same answer, each in its own way
  refine Eq.trans ?_ (hrun.trans ?_)
  · show Steps.run (Steps.bind (ExceptT.run x) (ExceptT.bindCont f)) s = _
    congr 2
  · cases (Steps.run (ExceptT.run x) s).1 <;> rfl

namespace Op

variable {α β γ : Type} {s : Store} {post : Except Failure α → Store → Prop}

/-- The answer of an operation. -/
def answer (op : Op α) (s : Store) : Except Failure α := (op.run s).1

/-- A condition on the answer of an operation and on the store after it. -/
def Ends (op : Op α) (s : Store) (post : Except Failure α → Store → Prop) : Prop :=
  post (op.answer s) (op.run s).2

/-- An operation leaves the whole store as it is. -/
abbrev Reads (op : Op α) : Prop := op.Keeps fun s => s

theorem Reads.run {op : Op α} (h : op.Reads) (s : Store) : (op.run s).2 = s := Keeps.run h s

/-- What only reads leaves every part alone. -/
theorem Reads.keeps {view : Store → γ} {op : Op α} (h : op.Reads) : op.Keeps view :=
  Keeps.of_view h view

/-! ## Answers -/

/-- The store after two operations is that after the second, or that after the first if it
failed. -/
theorem run_bind (x : Op α) (f : α → Op β) (s : Store) :
    (x >>= f).run s = match x.answer s with
      | .ok a => (f a).run (x.run s).2
      | .error e => (.error e, (x.run s).2) := by
  refine (Steps.run_bind_except x f s).trans ?_
  show _ = match (Steps.run (ExceptT.run x) s).1 with
    | .ok a => (f a).run (x.run s).2
    | .error e => (.error e, (x.run s).2)
  cases (Steps.run (ExceptT.run x) s).1 <;> rfl

theorem answer_query (f : Database → α) : (query f).answer s = .ok (f s.database) := rfl

theorem answer_queryRead (f : Database → Read α) : (queryRead f).answer s = f s.database := rfl

theorem answer_ofRead (x : Read α) : (ofRead x).answer s = x := by
  cases x <;> rfl

/-- An answer is mapped where there is one. -/
theorem answer_map (f : α → β) (x : Op α) : (f <$> x).answer s = (x.answer s).map f := by
  refine (congrArg Prod.fst (Steps.run_bind (ExceptT.run x) _ s)).trans ?_
  show _ = (Steps.run (ExceptT.run x) s).1.map f
  cases (Steps.run (ExceptT.run x) s).1 <;> rfl

/-- A check fails as a rejection. -/
theorem answer_ofCheck (x : Except Violation α) :
    (ofCheck x).answer s = x.mapError Failure.rejected := by
  cases x <;> rfl

theorem answer_ofCheck_ok {x : Except Violation α} {a : α} (h : x = .ok a) :
    (ofCheck x).answer s = .ok a := by
  rw [answer_ofCheck, h]
  rfl

theorem answer_ofCheck_error {x : Except Violation α} {v : Violation} (h : x = .error v) :
    (ofCheck x).answer s = .error (.rejected v) := by
  rw [answer_ofCheck, h]
  rfl

/-- After what only reads, the next part meets the same store. -/
theorem Reads.answer_bind {x : Op α} (hx : x.Reads) (f : α → Op β) (s : Store) :
    (x >>= f).answer s = match x.answer s with
      | .ok a => (f a).answer s
      | .error e => .error e := by
  simp only [answer]
  rw [run_bind, hx.run]
  show (match x.answer s with
    | .ok a => (f a).run s
    | .error e => (.error e, s)).1 = match x.answer s with
      | .ok a => ((f a).run s).1
      | .error e => .error e
  cases x.answer s <;> rfl

/-- What fails in its first part fails. -/
theorem answer_error_bind {x : Op α} {f : α → Op β} {e : Failure} (h : x.answer s = .error e) :
    (x >>= f).answer s = .error e := by
  show ((x >>= f).run s).1 = _
  rw [run_bind, h]

/-- What follows a successful reading begins in the same store. -/
theorem Reads.ok_of_bind {x : Op α} (hx : x.Reads) {f : α → Op β} {b : β}
    (h : (x >>= f).answer s = .ok b) : ∃ a, x.answer s = .ok a ∧ (f a).answer s = .ok b := by
  rw [hx.answer_bind] at h
  cases hanswer : x.answer s with
  | ok a =>
      rw [hanswer] at h
      exact ⟨a, rfl, h⟩
  | error e =>
      rw [hanswer] at h
      cases h

theorem ofCheck_ok {x : Except Violation α} {a : α} (h : (ofCheck x).answer s = .ok a) :
    x = .ok a := by
  cases x with
  | ok b =>
      injection h with h
      rw [h]
  | error v => cases h

/-! ## Rules -/

/-- What answers at once ends where it began. -/
theorem ends_pure {a : α} (h : post (.ok a) s) : (pure a : Op α).Ends s post := h

/-- What fails at once ends where it began. -/
theorem ends_throw {e : Failure} (h : post (.error e) s) : (throw e : Op α).Ends s post := h

/-- A condition may be weakened. -/
theorem Ends.imp {op : Op α} {post' : Except Failure α → Store → Prop} (h : op.Ends s post)
    (himp : ∀ r t, post r t → post' r t) : op.Ends s post' :=
  himp _ _ h

/-- What is said of the store alone holds of the store that is left behind. -/
theorem Ends.store {P : Store → Prop} {op : Op α} (h : op.Ends s fun _ t => P t) :
    P (op.run s).2 := h

/-- One part after another. -/
theorem Ends.bind {x : Op β} {f : β → Op α} {mid : Except Failure β → Store → Prop}
    (hx : x.Ends s mid) (hok : ∀ a t, mid (.ok a) t → (f a).Ends t post)
    (herror : ∀ e t, mid (.error e) t → post (.error e) t) : (x >>= f).Ends s post := by
  simp only [Ends] at hx
  simp only [Ends, answer]
  rw [run_bind]
  cases hanswer : x.answer s with
  | ok a =>
      rw [hanswer] at hx
      exact hok a _ hx
  | error e =>
      rw [hanswer] at hx
      exact herror e _ hx

/-- An attempt has the outcome of what is attempted as its answer. -/
theorem Ends.attempt {op : Op α} (h : op.Ends s post) :
    op.attempt.Ends s fun r t => ∃ outcome, r = .ok outcome ∧ post outcome t := by
  have hrun : op.attempt.run s = (.ok (op.answer s), (op.run s).2) :=
    Steps.run_bind (ExceptT.run op)
      (fun r => (.done (.ok r) : Steps Store (Except Failure (Except Failure α)))) s
  simp only [Ends, answer]
  rw [hrun]
  exact ⟨_, rfl, h⟩

/-- What only reads has an answer and leaves the store to the next part. -/
theorem Ends.reading {x : Op β} {f : β → Op α} (hx : x.Reads)
    (herror : ∀ e, x.answer s = .error e → post (.error e) s)
    (hok : ∀ a, x.answer s = .ok a → (f a).Ends s post) : (x >>= f).Ends s post := by
  have hends : x.Ends s fun r t => r = x.answer s ∧ t = s := ⟨rfl, hx.run s⟩
  refine hends.bind ?_ ?_
  · rintro a t ⟨hanswer, rfl⟩
    exact hok a hanswer.symm
  · rintro e t ⟨hanswer, rfl⟩
    exact herror e hanswer.symm

/-- What is known to be the answer of a reading is what the next part goes on with. -/
theorem Ends.reading_of_answer {x : Op β} {f : β → Op α} (hx : x.Reads) {b : β}
    (hanswer : x.answer s = .ok b) (h : (f b).Ends s post) : (x >>= f).Ends s post := by
  refine Ends.reading hx (fun e he => nomatch hanswer.symm.trans he) fun c hc => ?_
  obtain rfl : b = c := Except.ok.inj (hanswer.symm.trans hc)
  exact h

/-- An operation may end with a reading. -/
theorem Reads.ends {x : Op α} (hx : x.Reads) {r : Except Failure α} (hanswer : x.answer s = r)
    (h : post r s) : x.Ends s post := by
  simp only [Ends]
  rw [hanswer, hx.run]
  exact h

/-- A change of the database is made, or it fails and nothing changes. -/
theorem Ends.changing {f : Database → Except Failure (β × Database)} {k : β → Op α}
    (herror : ∀ e, f s.database = .error e → post (.error e) s)
    (hok : ∀ b db, f s.database = .ok (b, db) → (k b).Ends { s with database := db } post) :
    (change f >>= k).Ends s post := by
  simp only [Ends, answer]
  rw [run_bind]
  simp only [answer]
  rw [run_change]
  cases hf : f s.database with
  | error e => exact herror e hf
  | ok r => exact hok r.1 r.2 hf

/-- What is still to come keeps a part of the store, and nothing else matters. -/
theorem Ends.keeping {view : Store → γ} {op : Op α} (hop : op.Keeps view)
    (h : ∀ r t, view t = view s → post r t) : op.Ends s post :=
  h _ _ (hop.run s)

end Op

end RobotMaze
