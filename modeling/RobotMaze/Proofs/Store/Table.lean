import Mathlib.Data.List.Find
import RobotMaze.Store.Table

/-! # Tables — what adding and changing rows keeps

    What all rows satisfy is kept by adding and changing rows that do
    (`forall_rows_insert`, `forall_rows_modify`).  A table that gives out ids in rising
    order is `Numbered`.  From that:

    * `Numbered.insert`, `Numbered.modify` — adding and changing rows keep it;
    * `Numbered.mem_changed`, `Numbered.exists_changed` — a change reaches the row of
      its id only, and what some row satisfies is not lost with another one;
    * `Numbered.pairwise_changed` — what holds between any two rows is kept, if it
      holds between the changed row and the others;
    * `Counted` — ids are counted from one, so there are no more rows than ids
      (`Counted.length_le`);
    * `Written` — one write of any kind, and what it keeps of each row and between
      rows. -/

namespace RobotMaze.Table

variable {ρ : Type} [Row ρ]

/-- Ids rise from row to row, and none is above the last one that was given out. -/
structure Numbered (t : Table ρ) : Prop where
  rising : t.rows.Pairwise fun r s => Row.id r < Row.id s
  le_lastId : ∀ r ∈ t.rows, Row.id r ≤ t.lastId

/-- The rows after a change of the row of an id. -/
def changed (t : Table ρ) (id : Int) (change : ρ → ρ) : Table ρ :=
  { t with rows := t.rows.map fun s => if Row.id s == id then change s else s }

theorem numbered_empty : (({} : Table ρ)).Numbered :=
  ⟨List.Pairwise.nil, fun _ h => (nomatch h)⟩

/-! ## What the operations on a table do -/

/-- An inserted row has the next id, is acceptable beside the others and comes at the end. -/
theorem insert_ok {t t' : Table ρ} {make : Int → ρ} {acceptable : ρ → List ρ → Bool} {r : ρ}
    (h : t.insert make acceptable = .ok (r, t')) :
    ∃ id, t.nextId? = some id ∧ r = make id ∧ acceptable r t.rows = true ∧ t' = t.append r := by
  simp only [insert] at h
  cases hnext : t.nextId? with
  | none =>
      rw [hnext] at h
      cases h
  | some id =>
      rw [hnext] at h
      by_cases hacc : acceptable (make id) t.rows = true
      · simp only [if_pos hacc] at h
        injection h with h
        injection h with hr ht
        subst hr
        exact ⟨id, rfl, rfl, hacc, ht.symm⟩
      · simp only [if_neg hacc] at h
        cases h

/-- The only failure of adding a row is that the table refuses it. -/
theorem insert_error {t : Table ρ} {make : Int → ρ} {acceptable : ρ → List ρ → Bool} {e : Failure}
    (h : t.insert make acceptable = .error e) : e = .refused := by
  simp only [insert] at h
  split at h
  · injection h with h
    exact h.symm
  · rename_i id _
    by_cases hacc : acceptable (make id) t.rows = true
    · simp only [if_pos hacc] at h
      cases h
    · simp only [if_neg hacc] at h
      injection h with h
      exact h.symm

/-- The next id is above the last one. -/
theorem lastId_lt_of_nextId? {t : Table ρ} {id : Int} (hnext : t.nextId? = some id) :
    t.lastId < id := by
  simp only [nextId?] at hnext
  by_cases hfull : t.lastId = maxId ∨ t.topId?.getD 0 = maxId
  · simp only [if_pos hfull] at hnext
    cases hnext
  · simp only [if_neg hfull] at hnext
    injection hnext with hnext
    omega

/-- A change finds no row that satisfies its condition, or it changes the one row of its id. -/
theorem modify_ok {t t' : Table ρ} {id : Int} {condition : ρ → Bool} {change : ρ → ρ}
    {acceptable : ρ → List ρ → Bool} {n : Nat}
    (h : t.modify id condition change acceptable = .ok (n, t')) :
    (n = 0 ∧ t' = t) ∨ ∃ r, t.find? id = some r ∧ condition r = true
      ∧ acceptable (change r) (t.others id) = true ∧ n = 1 ∧ t' = t.changed id change := by
  simp only [modify] at h
  cases hfind : t.find? id with
  | none =>
      rw [hfind] at h
      injection h with h
      injection h with hn ht
      exact Or.inl ⟨hn.symm, ht.symm⟩
  | some r =>
      rw [hfind] at h
      by_cases hcond : condition r = true
      · by_cases hacc : acceptable (change r) (t.others id) = true
        · simp only [if_pos hcond, if_pos hacc] at h
          injection h with h
          injection h with hn ht
          exact Or.inr ⟨r, rfl, hcond, hacc, hn.symm, ht.symm⟩
        · simp only [if_pos hcond, if_neg hacc] at h
          cases h
      · simp only [if_neg hcond] at h
        injection h with h
        injection h with hn ht
        exact Or.inl ⟨hn.symm, ht.symm⟩

/-- The only failure of changing a row is that the table refuses it. -/
theorem modify_error {t : Table ρ} {id : Int} {condition : ρ → Bool} {change : ρ → ρ}
    {acceptable : ρ → List ρ → Bool} {e : Failure}
    (h : t.modify id condition change acceptable = .error e) : e = .refused := by
  simp only [modify] at h
  cases hfind : t.find? id with
  | none =>
      rw [hfind] at h
      cases h
  | some r =>
      simp only [hfind] at h
      split at h
      · split at h
        · cases h
        · exact (Except.error.inj h).symm
      · cases h

/-- What all rows of a table satisfy they still satisfy when one more is added that does. -/
theorem forall_rows_insert {P : ρ → Prop} {t t' : Table ρ} {make : Int → ρ}
    {acceptable : ρ → List ρ → Bool} {r : ρ} (h : t.insert make acceptable = .ok (r, t'))
    (hrows : ∀ s ∈ t.rows, P s) (hmake : ∀ id, P (make id)) : ∀ s ∈ t'.rows, P s := by
  obtain ⟨id, -, rfl, -, rfl⟩ := insert_ok h
  intro s hs
  rcases List.mem_append.mp hs with hold | hnew
  · exact hrows s hold
  · rw [List.mem_singleton.mp hnew]
    exact hmake id

/-- So it is when a row is changed into one that does. -/
theorem forall_rows_modify {P : ρ → Prop} {t t' : Table ρ} {id : Int} {condition : ρ → Bool}
    {change : ρ → ρ} {acceptable : ρ → List ρ → Bool} {n : Nat}
    (h : t.modify id condition change acceptable = .ok (n, t')) (hrows : ∀ s ∈ t.rows, P s)
    (hchange : ∀ s, P s → P (change s)) : ∀ s ∈ t'.rows, P s := by
  rcases modify_ok h with ⟨-, rfl⟩ | ⟨r, -, -, -, -, rfl⟩
  · exact hrows
  intro s hs
  obtain ⟨u, hu, rfl⟩ := List.mem_map.mp hs
  split
  · exact hchange u (hrows u hu)
  · exact hrows u hu

/-- A row that is found is in the table, under its id. -/
theorem find?_eq_some {t : Table ρ} {id : Int} {r : ρ} (h : t.find? id = some r) :
    r ∈ t.rows ∧ Row.id r = id := by
  refine ⟨List.mem_of_find?_eq_some h, ?_⟩
  have := List.find?_some h
  simpa using this

/-- A row that is found is still found when another one is added. -/
theorem find?_append {t : Table ρ} {id : Int} {r : ρ} (h : t.find? id = some r) (s : ρ) :
    (t.append s).find? id = some r := by
  show (t.rows ++ [s]).find? _ = some r
  rw [List.find?_append]
  show (t.find? id).or _ = some r
  rw [h, Option.some_or]

/-- A change that keeps ids is seen under the id that it is made for, and under no other. -/
theorem find?_changed {t : Table ρ} {change : ρ → ρ} (hchange : ∀ r, Row.id (change r) = Row.id r)
    (id other : Int) : (t.changed id change).find? other
      = (t.find? other).map fun s => if Row.id s == id then change s else s := by
  simp only [find?, changed]
  rw [List.find?_map]
  congr 1
  refine List.find?_congr fun s _ => ?_
  show (Row.id (if Row.id s == id then change s else s) == other) = (Row.id s == other)
  split
  · rw [hchange]
  · rfl

/-- What the row found under an id satisfies is kept by a change that keeps it or that is made for
    another id. -/
theorem exists_find?_changed {t : Table ρ} {change : ρ → ρ}
    (hchange : ∀ r, Row.id (change r) = Row.id r) {id other : Int} {P : ρ → Prop}
    (hkept : id = other → ∀ r, P r → P (change r)) (hfound : ∃ r, t.find? other = some r ∧ P r) :
    ∃ r, (t.changed id change).find? other = some r ∧ P r := by
  obtain ⟨r, hfind, hr⟩ := hfound
  refine ⟨if Row.id r == id then change r else r, ?_, ?_⟩
  · rw [find?_changed hchange, hfind, Option.map_some]
  · by_cases hsame : Row.id r = id
    · rw [if_pos (by simpa using hsame)]
      exact hkept (hsame.symm.trans (find?_eq_some hfind).2) r hr
    · rw [if_neg (by simpa using hsame)]
      exact hr

/-- The other rows are those of other ids. -/
theorem mem_others {t : Table ρ} {id : Int} {r : ρ} :
    r ∈ t.others id ↔ r ∈ t.rows ∧ Row.id r ≠ id := by
  simp only [others]
  simp

namespace Numbered

variable {t t' : Table ρ} {id : Int} {make : Int → ρ} {change : ρ → ρ} {r : ρ}
  {acceptable : ρ → List ρ → Bool}

/-- No two rows share an id. -/
theorem eq_of_id (ht : t.Numbered) {s : ρ} (hr : r ∈ t.rows) (hs : s ∈ t.rows)
    (hid : Row.id r = Row.id s) : r = s := by
  have hapart : t.rows.Pairwise fun a b => Row.id a = Row.id b → a = b :=
    ht.rising.imp fun hlt heq => absurd heq (Int.ne_of_lt hlt)
  exact List.Pairwise.forall_of_forall_of_flip (fun _ _ _ => rfl) hapart
    (hapart.imp fun h heq => (h heq.symm).symm) hr hs hid

/-- Every row is the one that is found under its id. -/
theorem find?_id (ht : t.Numbered) (hr : r ∈ t.rows) : t.find? (Row.id r) = some r := by
  cases hfind : t.find? (Row.id r) with
  | none =>
      have := List.find?_eq_none.mp hfind r hr
      exact absurd (beq_self_eq_true _) this
  | some s =>
      obtain ⟨hs, hid⟩ := find?_eq_some hfind
      rw [ht.eq_of_id hs hr hid]

/-! ## Adding a row -/

/-- No id in use is above the last one that was given out. -/
theorem topId_le (ht : t.Numbered) (hlast : 0 ≤ t.lastId) : t.topId?.getD 0 ≤ t.lastId := by
  simp only [topId?]
  cases htop : (t.rows.map Row.id).max? with
  | none => exact hlast
  | some top =>
      obtain ⟨r, hr, rfl⟩ := List.mem_map.mp (List.max?_mem htop)
      exact ht.le_lastId r hr

/-- Until all ids have been given out the next one follows the last one. -/
theorem nextId?_of_lt (ht : t.Numbered) (hlast : 0 ≤ t.lastId) (hfree : t.lastId < maxId) :
    t.nextId? = some (t.lastId + 1) := by
  have htop := ht.topId_le hlast
  simp only [nextId?]
  rw [if_neg (by omega)]
  exact congrArg some (by omega)

/-- The next id is one above the last one. -/
theorem eq_of_nextId? (ht : t.Numbered) (hlast : 0 ≤ t.lastId) {id : Int}
    (hnext : t.nextId? = some id) : id = t.lastId + 1 := by
  have htop := ht.topId_le hlast
  simp only [nextId?] at hnext
  split at hnext
  · cases hnext
  · have hid := Option.some.inj hnext
    omega

/-- A row above the last id goes to the end of numbered rows. -/
theorem append (ht : t.Numbered) (hr : t.lastId < Row.id r) : (t.append r).Numbered where
  rising := by
    refine List.pairwise_append.mpr ⟨ht.rising, List.pairwise_singleton _ _, ?_⟩
    intro s hs u hu
    rw [List.mem_singleton.mp hu]
    exact Int.lt_of_le_of_lt (ht.le_lastId s hs) hr
  le_lastId := by
    intro s hs
    rcases List.mem_append.mp hs with hs | hs
    · exact Int.le_trans (ht.le_lastId s hs) (Int.le_of_lt hr)
    · rw [List.mem_singleton.mp hs]
      exact Int.le_refl _

/-- A table stays numbered when a row is inserted. -/
theorem insert (ht : t.Numbered) (hmake : ∀ id, Row.id (make id) = id)
    (h : t.insert make acceptable = .ok (r, t')) : t'.Numbered := by
  obtain ⟨id, hnext, rfl, hacc, rfl⟩ := insert_ok h
  refine ht.append ?_
  rw [hmake]
  exact lastId_lt_of_nextId? hnext

/-! ## Changing a row -/

/-- A table stays numbered when a row is changed and keeps its id. -/
theorem changed (ht : t.Numbered) (hchange : ∀ r, Row.id (change r) = Row.id r) :
    (t.changed id change).Numbered := by
  have hid : ∀ s, Row.id (if Row.id s == id then change s else s) = Row.id s := by
    intro s
    split
    · exact hchange s
    · rfl
  refine ⟨List.pairwise_map.mpr ?_, ?_⟩
  · simp only [hid]
    exact ht.rising
  · intro s hs
    obtain ⟨u, hu, rfl⟩ := List.mem_map.mp hs
    rw [hid]
    exact ht.le_lastId u hu

/-- A table stays numbered when a row is modified and keeps its id. -/
theorem modify (ht : t.Numbered) (hchange : ∀ r, Row.id (change r) = Row.id r)
    {condition : ρ → Bool} {n : Nat}
    (h : t.modify id condition change acceptable = .ok (n, t')) : t'.Numbered := by
  rcases modify_ok h with ⟨rfl, rfl⟩ | ⟨r, hfind, hcond, hacc, rfl, rfl⟩
  · exact ht
  · exact ht.changed hchange

/-- A change reaches the row of its id only. -/
theorem mem_changed (ht : t.Numbered) (hfind : t.find? id = some r) {s : ρ} :
    s ∈ (t.changed id change).rows ↔ s ∈ t.others id ∨ s = change r := by
  obtain ⟨hr, hid⟩ := find?_eq_some hfind
  constructor
  · intro hs
    obtain ⟨u, hu, rfl⟩ := List.mem_map.mp hs
    by_cases huid : Row.id u = id
    · rw [if_pos (by simpa using huid), ht.eq_of_id hu hr (huid.trans hid.symm)]
      exact Or.inr rfl
    · rw [if_neg (by simpa using huid)]
      exact Or.inl (mem_others.mpr ⟨hu, huid⟩)
  · rintro (hs | rfl)
    · obtain ⟨hs, hsid⟩ := mem_others.mp hs
      exact List.mem_map.mpr ⟨s, hs, if_neg (by simpa using hsid)⟩
    · exact List.mem_map.mpr ⟨r, hr, if_pos (by simpa using hid)⟩

/-- A change of a row puts another one in its place and leaves all that is before or after it. -/
theorem exists_rows_changed (ht : t.Numbered) (change : ρ → ρ) (hr : r ∈ t.rows) : ∃ before after,
    t.rows = before ++ r :: after
      ∧ (t.changed (Row.id r) change).rows = before ++ change r :: after := by
  obtain ⟨before, after, hrows⟩ := List.append_of_mem hr
  refine ⟨before, after, hrows, ?_⟩
  have hrising := ht.rising
  rw [hrows] at hrising
  obtain ⟨-, hafter, hbefore⟩ := List.pairwise_append.mp hrising
  have hsame : ∀ rows : List ρ, (∀ s ∈ rows, Row.id s ≠ Row.id r) →
      rows.map (fun s => if Row.id s == Row.id r then change s else s) = rows := by
    intro rows hne
    refine (List.map_congr_left fun s hs => ?_).trans (List.map_id _)
    rw [if_neg (by simpa using hne s hs)]
    rfl
  simp only [Table.changed]
  rw [hrows, List.map_append, List.map_cons, if_pos (beq_self_eq_true _),
    hsame before fun s hs => Int.ne_of_lt (hbefore s hs r List.mem_cons_self),
    hsame after fun s hs => (Int.ne_of_lt ((List.pairwise_cons.mp hafter).1 s hs)).symm]

/-- If some row has a property, then after a change some row still has it, unless the changed row
    was the only one and has lost it. -/
theorem exists_changed (ht : t.Numbered) (hfind : t.find? id = some r) {P : ρ → Prop}
    (hsome : ∃ s ∈ t.rows, P s) (hkept : P r → P (change r) ∨ ∃ s ∈ t.others id, P s) :
    ∃ s ∈ (t.changed id change).rows, P s := by
  obtain ⟨hr, hid⟩ := find?_eq_some hfind
  obtain ⟨s, hs, hPs⟩ := hsome
  by_cases hsid : Row.id s = id
  · rw [ht.eq_of_id hs hr (hsid.trans hid.symm)] at hPs
    rcases hkept hPs with hstays | ⟨u, hu, hPu⟩
    · exact ⟨change r, (ht.mem_changed hfind).mpr (Or.inr rfl), hstays⟩
    · exact ⟨u, (ht.mem_changed hfind).mpr (Or.inl hu), hPu⟩
  · exact ⟨s, (ht.mem_changed hfind).mpr (Or.inl (mem_others.mpr ⟨hs, hsid⟩)), hPs⟩

/-- A search finds the same row as before, changed or not, if it does not see the change. -/
theorem find?_changed (ht : t.Numbered) (hfind : t.find? id = some r) {p : ρ → Bool}
    (hp : p (change r) = p r) : (t.changed id change).rows.find? p
      = (t.rows.find? p).map fun s => if Row.id s == id then change s else s := by
  obtain ⟨hr, hid⟩ := find?_eq_some hfind
  simp only [Table.changed]
  rw [List.find?_map]
  congr 1
  refine List.find?_congr fun s hs => ?_
  show p (if Row.id s == id then change s else s) = p s
  by_cases hsid : Row.id s = id
  · rw [if_pos (by simpa using hsid), ht.eq_of_id hs hr (hsid.trans hid.symm), hp]
  · rw [if_neg (by simpa using hsid)]

/-- What holds between any two rows still holds after a change, if it holds between the changed row
    and the others. -/
theorem pairwise_changed (ht : t.Numbered) (hfind : t.find? id = some r) {R : ρ → ρ → Prop}
    (hsymm : ∀ {a b}, R a b → R b a) (hrows : t.rows.Pairwise R)
    (hnew : ∀ s ∈ t.others id, R (change r) s) : (t.changed id change).rows.Pairwise R := by
  obtain ⟨hr, hid⟩ := find?_eq_some hfind
  refine List.pairwise_map.mpr ?_
  -- ids rise, so at most one row of any two is the changed one
  refine (List.Pairwise.and hrows ht.rising).imp_of_mem ?_
  rintro a b ha hb ⟨hab, hlt⟩
  by_cases haid : Row.id a = id
  · have hbid : Row.id b ≠ id := by omega
    rw [if_pos (by simpa using haid), if_neg (by simpa using hbid),
      ht.eq_of_id ha hr (haid.trans hid.symm)]
    exact hnew b (mem_others.mpr ⟨hb, hbid⟩)
  · rw [if_neg (by simpa using haid)]
    by_cases hbid : Row.id b = id
    · rw [if_pos (by simpa using hbid), ht.eq_of_id hb hr (hbid.trans hid.symm)]
      exact hsymm (hnew a (mem_others.mpr ⟨ha, haid⟩))
    · rw [if_neg (by simpa using hbid)]
      exact hab

end Numbered

/-! ## Counting ids -/

/-- Ids are counted from one, up to the greatest that there can be. -/
structure Counted (t : Table ρ) : Prop where
  numbered : t.Numbered
  positive : ∀ r ∈ t.rows, 1 ≤ Row.id r
  lastId_nonneg : 0 ≤ t.lastId
  lastId_le : t.lastId ≤ maxId

/-- Of rows whose ids rise there are no more than there are ids. -/
theorem length_le_of_rising {rows : List ρ} {low high : Int}
    (hrising : rows.Pairwise fun r s => Row.id r < Row.id s) (hle : low ≤ high)
    (hrows : ∀ r ∈ rows, low < Row.id r ∧ Row.id r ≤ high) :
    (rows.length : Int) ≤ high - low := by
  induction rows generalizing low with
  | nil =>
      rw [List.length_nil]
      omega
  | cons r rest ih =>
      obtain ⟨hlow, hhigh⟩ := hrows r List.mem_cons_self
      obtain ⟨hfirst, hrest⟩ := List.pairwise_cons.mp hrising
      have hlength := ih hrest hhigh fun s hs =>
        ⟨hfirst s hs, (hrows s (List.mem_cons_of_mem r hs)).2⟩
      rw [List.length_cons]
      omega

namespace Counted

variable {t : Table ρ} {id : Int} {r : ρ} {change : ρ → ρ}

theorem empty : ({} : Table ρ).Counted :=
  ⟨numbered_empty, fun _ h => (nomatch h), Int.le_refl 0, show (0 : Int) ≤ maxId by decide⟩

theorem nextId?_of_lt (ht : t.Counted) (hfree : t.lastId < maxId) :
    t.nextId? = some (t.lastId + 1) :=
  ht.numbered.nextId?_of_lt ht.lastId_nonneg hfree

/-- The next id is one above the last one, and not too great. -/
theorem eq_of_nextId? (ht : t.Counted) (hnext : t.nextId? = some id) :
    id = t.lastId + 1 ∧ id ≤ maxId := by
  have hid := ht.numbered.eq_of_nextId? ht.lastId_nonneg hnext
  refine ⟨hid, ?_⟩
  have hle := ht.lastId_le
  simp only [nextId?] at hnext
  split at hnext
  · cases hnext
  · omega

/-- A counted table stays so with the next id. -/
theorem append (ht : t.Counted) (hnext : t.nextId? = some (Row.id r)) : (t.append r).Counted := by
  obtain ⟨hid, hle⟩ := ht.eq_of_nextId? hnext
  have hnonneg := ht.lastId_nonneg
  refine ⟨ht.numbered.append (lastId_lt_of_nextId? hnext), fun s hs => ?_, ?_, hle⟩
  · rcases List.mem_append.mp hs with hs | hs
    · exact ht.positive s hs
    · rw [List.mem_singleton.mp hs]
      omega
  · show 0 ≤ Row.id r
    omega

/-- A counted table stays so when a row is changed and keeps its id. -/
theorem changed (ht : t.Counted) (hchange : ∀ r, Row.id (change r) = Row.id r) :
    (t.changed id change).Counted := by
  refine ⟨ht.numbered.changed hchange, fun s hs => ?_, ht.lastId_nonneg, ht.lastId_le⟩
  obtain ⟨u, hu, rfl⟩ := List.mem_map.mp hs
  split
  · rw [hchange]
    exact ht.positive u hu
  · exact ht.positive u hu

/-- No more rows are there than ids have been used. -/
theorem length_le (ht : t.Counted) : (t.rows.length : Int) ≤ t.lastId := by
  have hlength := length_le_of_rising ht.numbered.rising ht.lastId_nonneg fun r hr =>
    ⟨ht.positive r hr, ht.numbered.le_lastId r hr⟩
  omega

end Counted

/-! ## Writing -/

/-- What one write does to a table whose rows satisfy a condition: a row that satisfies it is added,
    or a row is changed into one that satisfies it, or nothing happens. -/
inductive Written (P : ρ → Prop) (acceptable : ρ → List ρ → Bool) (t : Table ρ) : Table ρ → Prop
    where
  | nothing : Written P acceptable t t
  | added {make : Int → ρ} {r : ρ} {t' : Table ρ} (id_make : ∀ id, Row.id (make id) = id)
      (holds : ∀ id, P (make id)) (insert : t.insert make acceptable = .ok (r, t')) :
      Written P acceptable t t'
  | changed {id : Int} {condition : ρ → Bool} {change : ρ → ρ} {n : Nat} {t' : Table ρ}
      (id_change : ∀ r, Row.id (change r) = Row.id r)
      (holds : ∀ r, t.find? id = some r → P r → P (change r))
      (modify : t.modify id condition change acceptable = .ok (n, t')) : Written P acceptable t t'

namespace Written

variable {P : ρ → Prop} {acceptable : ρ → List ρ → Bool} {t t' : Table ρ}

/-- A table stays numbered whatever is written to it. -/
theorem numbered (h : Written P acceptable t t') (ht : t.Numbered) : t'.Numbered := by
  cases h with
  | nothing => exact ht
  | added hid hholds hinsert => exact ht.insert hid hinsert
  | changed hid hholds hmodify => exact ht.modify hid hmodify

/-- A table stays counted whatever is written to it. -/
theorem counted (h : Written P acceptable t t') (ht : t.Counted) : t'.Counted := by
  cases h with
  | nothing => exact ht
  | added hid hholds hinsert =>
      obtain ⟨id, hnext, rfl, hacc, rfl⟩ := insert_ok hinsert
      exact ht.append (hnext.trans (congrArg some (hid id).symm))
  | changed hid hholds hmodify =>
      rcases modify_ok hmodify with ⟨rfl, rfl⟩ | ⟨r, hfind, hcond, hacc, rfl, rfl⟩
      · exact ht
      · exact ht.changed hid

/-- Every row still satisfies the condition. -/
theorem forall_rows (h : Written P acceptable t t') (ht : t.Numbered) (hrows : ∀ r ∈ t.rows, P r) :
    ∀ r ∈ t'.rows, P r := by
  cases h with
  | nothing => exact hrows
  | added hid hholds hinsert => exact forall_rows_insert hinsert hrows hholds
  | changed hid hholds hmodify =>
      rcases modify_ok hmodify with ⟨rfl, rfl⟩ | ⟨r, hfind, hcond, hacc, rfl, rfl⟩
      · exact hrows
      · intro s hs
        rcases (ht.mem_changed hfind).mp hs with hs | rfl
        · exact hrows s (mem_others.mp hs).1
        · exact hholds r hfind (hrows r (find?_eq_some hfind).1)

/-- What holds between any two rows still does, if the table accepts no row that breaks it. -/
theorem pairwise_rows (h : Written P acceptable t t') (ht : t.Numbered) {R : ρ → ρ → Prop}
    (hsymm : ∀ {a b}, R a b → R b a)
    (hacceptable : ∀ {r others}, acceptable r others = true → ∀ s ∈ others, R r s)
    (hrows : t.rows.Pairwise R) : t'.rows.Pairwise R := by
  cases h with
  | nothing => exact hrows
  | added hid hholds hinsert =>
      obtain ⟨id, hnext, rfl, hacc, rfl⟩ := insert_ok hinsert
      refine List.pairwise_append.mpr ⟨hrows, List.pairwise_singleton _ _, ?_⟩
      intro s hs u hu
      rw [List.mem_singleton.mp hu]
      exact hsymm (hacceptable hacc s hs)
  | changed hid hholds hmodify =>
      rcases modify_ok hmodify with ⟨rfl, rfl⟩ | ⟨r, hfind, hcond, hacc, rfl, rfl⟩
      · exact hrows
      · exact ht.pairwise_changed hfind hsymm hrows (hacceptable hacc)

end Written

end RobotMaze.Table
