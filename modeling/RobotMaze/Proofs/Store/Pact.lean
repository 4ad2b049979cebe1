import RobotMaze.Proofs.Store.Outcome

/-! # Pacts — what all who share a store rely on

    Between two steps of an operation others take theirs.  What an operation has
    seen may be out of date when it goes on, and it can rely only on what
    everybody keeps to:

    * `Pact` — a condition that holds at every moment, and how the state may
      change from one moment to a later one;
    * `Pact.Honoured` — a computation that keeps to a pact while the others do,
      wherever it is overtaken;
    * `Op.Honours`, `Op.Upholds` — the same of an operation, with what its answer
      still says of the store, and without;
    * `Honours.run` — with nobody in between a pact is kept all the more. -/

namespace RobotMaze

/-- What all who share a state rely on. -/
structure Pact (σ : Type) where
  /-- What holds at every moment. -/
  holds : σ → Prop
  /-- How the state may change from one moment to a later one. -/
  allows : σ → σ → Prop
  refl : ∀ s, allows s s
  trans : ∀ {s t u}, allows s t → allows t u → allows s u

/-- A pact that asks for a condition and nothing else. -/
def Pact.always {σ : Type} (P : σ → Prop) : Pact σ where
  holds := P
  allows := fun _ _ => True
  refl := fun _ => trivial
  trans := fun _ _ => trivial

namespace Pact

variable {σ α β : Type} {p : Pact σ}

/-- What is left of a computation keeps to a pact, if its last step left a state behind and the
    others have kept to the pact since.  Its answer and the state after its last step satisfy a
    condition. -/
inductive Honoured (p : Pact σ) (post : α → σ → Prop) : σ → Steps σ α → Prop where
  | done {s : σ} {a : α} (answer : post a s) : Honoured p post s (.done a)
  | step {s : σ} {change : σ → σ} {next : σ → Steps σ α}
      (now : ∀ t, p.allows s t → p.holds t → p.holds (change t) ∧ p.allows t (change t))
      (later : ∀ t, p.allows s t → p.holds t → Honoured p post (change t) (next t)) :
      Honoured p post s (.step change next)

namespace Honoured

variable {s : σ} {post : α → σ → Prop}

/-- What an answer says can be weakened. -/
theorem imp {x : Steps σ α} {post' : α → σ → Prop} (h : p.Honoured post s x)
    (himp : ∀ a t, post a t → post' a t) : p.Honoured post' s x := by
  induction h with
  | done answer => exact .done (himp _ _ answer)
  | step now later ih => exact .step now ih

/-- What is left of a computation is followed by one that begins with its answer. -/
theorem bind {x : Steps σ α} {f : α → Steps σ β} {post' : β → σ → Prop}
    (hx : p.Honoured post s x) (hf : ∀ a t, post a t → p.Honoured post' t (f a)) :
    p.Honoured post' s (x.bind f) := by
  induction hx with
  | done answer => exact hf _ _ answer
  | step now later ih => exact .step now ih

/-- A computation that is overtaken by nobody ends where the pact allows. -/
theorem run {x : Steps σ α} (h : p.Honoured post s x) (hs : p.holds s) :
    p.holds (x.run s).2 ∧ p.allows s (x.run s).2 ∧ post (x.run s).1 (x.run s).2 := by
  induction h with
  | done answer => exact ⟨hs, p.refl _, answer⟩
  | @step s change next now later ih =>
      obtain ⟨hchange, hallows⟩ := now s (p.refl s) hs
      obtain ⟨hend, hrest, hpost⟩ := ih s (p.refl s) hs hchange
      exact ⟨hend, p.trans hallows hrest, hpost⟩

/-- What every step of a computation does is in accordance with the pact. -/
theorem of_always {R : σ → σ → Prop} {x : Steps σ α} (h : Steps.Always R x)
    (hR : ∀ {t u}, R t u → p.holds t → p.holds u ∧ p.allows t u) (s : σ) :
    p.Honoured (fun _ t => p.allows s t) s x := by
  -- the first state stays in view while the steps go on from later ones
  suffices hlater : ∀ t, p.allows s t → p.Honoured (fun _ t => p.allows s t) t x from
    hlater s (p.refl s)
  induction h with
  | done a => exact fun t ht => .done ht
  | step now later ih =>
      intro t ht
      refine .step (fun u hu hholds => hR (now u) hholds) fun u hu hholds => ?_
      obtain ⟨-, hallows⟩ := hR (now u) hholds
      exact ih u _ (p.trans ht (p.trans hu hallows))

end Honoured

/-- A pact that looks at no more than a part of the state. -/
def Sees {γ : Type} (p : Pact σ) (view : σ → γ) : Prop :=
  ∀ s t, view t = view s → p.holds s → p.holds t ∧ p.allows s t

/-- A condition on a part of the state looks at no more than that part. -/
theorem always_sees {γ : Type} {view : σ → γ} {Q : γ → Prop} :
    (Pact.always fun s => Q (view s)).Sees view := by
  intro s t hview hholds
  refine ⟨?_, trivial⟩
  show Q (view t)
  rw [hview]
  exact hholds

/-- What looks at less does not look at more. -/
theorem Sees.of_part {γ δ : Type} {view : σ → γ} (part : γ → δ)
    (h : p.Sees fun s => part (view s)) : p.Sees view :=
  fun s t hview => h s t (congrArg part hview)

end Pact

/-! ## Operations -/

namespace Op

variable {α β γ : Type} {p : Pact Store} {s : Store} {view : Store → γ}
  {post : α → Store → Prop}

/-- An operation keeps to a pact after a moment at which it last saw the store; if it succeeds, its
    answer and the store after its last step satisfy a condition. -/
def Honours (p : Pact Store) (op : Op α) (s : Store) (post : α → Store → Prop) : Prop :=
  p.Honoured (fun r t => ∀ a, r = .ok a → post a t) s (ExceptT.run op)

/-- An operation keeps to a pact, whenever it is begun. -/
def Upholds (p : Pact Store) (op : Op α) : Prop := ∀ s, op.Honours p s fun _ _ => True

/-- What an answer says of the store can be weakened. -/
theorem Honours.imp {op : Op α} {post' : α → Store → Prop} (h : op.Honours p s post)
    (himp : ∀ a t, post a t → post' a t) : op.Honours p s post' :=
  Pact.Honoured.imp h fun _ t hpost a ha => himp a t (hpost a ha)

/-- Two operations in a row keep to a pact, the second from where the first one ended. -/
theorem Honours.bind {x : Op α} {f : α → Op β} {post' : β → Store → Prop}
    (hx : x.Honours p s post) (hf : ∀ a t, post a t → (f a).Honours p t post') :
    (x >>= f).Honours p s post' := by
  refine Pact.Honoured.bind hx fun r t hr => ?_
  cases r with
  | ok a => exact hf a t (hr a rfl)
  | error e => exact .done fun _ h => nomatch h

/-- With nobody in between, a pact is kept over the whole run. -/
theorem Honours.run {op : Op α} (h : op.Honours p s post) (hs : p.holds s) :
    p.holds (op.run s).2 ∧ p.allows s (op.run s).2 :=
  ⟨(Pact.Honoured.run h hs).1, (Pact.Honoured.run h hs).2.1⟩

/-- What answers at once takes no step. -/
theorem honours_pure {a : α} (h : post a s) : (pure a : Op α).Honours p s post :=
  .done fun _ hb => Except.ok.inj hb ▸ h

theorem honours_throw (e : Failure) : (throw e : Op α).Honours p s post :=
  .done fun _ h => nomatch h

/-- What leaves alone all that a pact looks at honours it. -/
theorem Keeps.honours {op : Op α} (h : op.Keeps view) (hsees : p.Sees view) (s : Store) :
    op.Honours p s fun _ t => p.allows s t :=
  (Pact.Honoured.of_always h (fun hview => hsees _ _ hview) s).imp fun _ _ hallows _ _ => hallows

/-- What only reads keeps to every pact, and the others may have changed the store. -/
theorem Reads.honours {op : Op α} (h : op.Reads) (s : Store) :
    op.Honours p s fun _ t => p.allows s t := by
  refine Keeps.honours h ?_ s
  rintro t u rfl hholds
  exact ⟨hholds, p.refl _⟩

/-- The answer of a question is what the store says at that moment. -/
theorem honours_query (f : Database → α) (s : Store) :
    (query f).Honours p s fun a t => p.allows s t ∧ p.holds t ∧ a = f t.database := by
  refine .step (fun t _ hholds => ⟨hholds, p.refl t⟩) fun t hallows hholds => .done ?_
  intro a ha
  exact ⟨hallows, hholds, (Except.ok.inj ha).symm⟩

/-- A check says what it found, of the same store. -/
theorem honours_ofCheck (x : Except Violation α) (s : Store) :
    (ofCheck x).Honours p s fun a t => x = .ok a ∧ t = s := by
  cases x with
  | ok b => exact honours_pure ⟨rfl, rfl⟩
  | error v => exact honours_throw _

/-- Reading a row says what was read, of the same store. -/
theorem honours_ofRead (x : Read α) (s : Store) :
    (ofRead x).Honours p s fun a t => x = .ok a ∧ t = s := by
  cases x with
  | ok b => exact honours_pure ⟨rfl, rfl⟩
  | error e => exact honours_throw _

/-- A change honours a pact, if what it makes of the store at that moment is in accordance with
    it. -/
theorem honours_change {f : Database → Except Failure (α × Database)}
    (h : ∀ t, p.allows s t → p.holds t → ∀ a db, f t.database = .ok (a, db) →
      p.holds { t with database := db } ∧ p.allows t { t with database := db }) :
    (change f).Honours p s fun _ _ => True := by
  refine .step (fun t hallows hholds => ?_) fun _ _ _ => .done fun _ _ => trivial
  show p.holds ((change f).run t).2 ∧ p.allows t ((change f).run t).2
  rw [run_change]
  cases hf : f t.database with
  | error e => exact ⟨hholds, p.refl t⟩
  | ok r => exact h t hallows hholds r.1 r.2 hf

/-! ## Whenever they are begun -/

@[grind ←]
theorem upholds_pure (a : α) : (pure a : Op α).Upholds p := fun _ => honours_pure trivial

@[grind ←]
theorem upholds_throw (e : Failure) : (throw e : Op α).Upholds p := fun _ => honours_throw e

/-- Two operations in a row keep to a pact that both keep to. -/
@[grind ←]
theorem upholds_bind {x : Op α} {f : α → Op β} (hx : x.Upholds p) (hf : ∀ a, (f a).Upholds p) :
    (x >>= f).Upholds p :=
  fun s => (hx s).bind fun a t _ => hf a t

/-- What leaves alone all that a pact looks at keeps to it. -/
theorem Keeps.upholds {op : Op α} (h : op.Keeps view) (hsees : p.Sees view) : op.Upholds p :=
  fun s => (h.honours hsees s).imp fun _ _ _ => trivial

/-- What only reads keeps to every pact. -/
@[grind ←]
theorem Reads.upholds {op : Op α} (h : op.Reads) : op.Upholds p :=
  fun s => (h.honours s).imp fun _ _ _ => trivial

/-- Catching a failure keeps to every pact that the operation keeps to. -/
@[grind ←]
theorem upholds_attempt {op : Op α} (h : op.Upholds p) : op.attempt.Upholds p := by
  intro s
  exact (Pact.Honoured.imp (h s) fun _ _ _ => trivial).bind fun _ _ _ =>
    .done fun _ _ => trivial

end Op

end RobotMaze
