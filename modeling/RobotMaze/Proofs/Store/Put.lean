import RobotMaze.Proofs.Store.Table

/-! # Putting a row into a table

    A change of a table puts one row into it: at the end, under the next id, or in
    place of an older row of its id.

    * `Table.Put` — the older row, if there is one, the new row, and the table
      after it;
    * `Put.find?`, `Put.find?_other`, `Put.others` — the new row is found, and the
      rows of all other ids are the same as before;
    * `put_of_insert`, `put_of_modify` — that is what the operations on a table
      do;
    * `Table.Replaced` — the older row and the new one have the same place in the
      table, and nothing else has changed. -/

namespace RobotMaze.Table

variable {ρ : Type} [Row ρ]

/-- A row was put into a table, in place of an older one or not. -/
inductive Put (t : Table ρ) : Option ρ → ρ → Table ρ → Prop where
  | added {r : ρ} (next : t.nextId? = some (Row.id r)) : Put t none r (t.append r)
  | replaced {id : Int} {r : ρ} {change : ρ → ρ} (found : t.find? id = some r)
      (id_change : ∀ s, Row.id (change s) = Row.id s) :
      Put t (some r) (change r) (t.changed id change)

variable {t t' : Table ρ} {id : Int} {acceptable : ρ → List ρ → Bool}

/-- Adding a row puts it there. -/
theorem put_of_insert {make : Int → ρ} {r : ρ} (hmake : ∀ id, Row.id (make id) = id)
    (h : t.insert make acceptable = .ok (r, t')) :
    ∃ id, r = make id ∧ acceptable r t.rows = true ∧ t.Put none r t' := by
  obtain ⟨id, hnext, rfl, hacceptable, rfl⟩ := insert_ok h
  refine ⟨id, rfl, hacceptable, .added ?_⟩
  rw [hmake]
  exact hnext

/-- A change that finds no row, or none that satisfies its condition, does nothing. -/
theorem modify_eq_zero {condition : ρ → Bool} {change : ρ → ρ}
    (h : t.modify id condition change acceptable = .ok (0, t')) :
    t' = t ∧ ∀ r, t.find? id = some r → condition r = false := by
  simp only [modify] at h
  cases hfind : t.find? id with
  | none =>
      rw [hfind] at h
      injection h with h
      injection h with hn ht
      exact ⟨ht.symm, fun r hr => by cases hr⟩
  | some r =>
      rw [hfind] at h
      by_cases hcondition : condition r = true
      · by_cases hacceptable : acceptable (change r) (t.others id) = true
        · simp only [if_pos hcondition, if_pos hacceptable] at h
          injection h with h
          injection h with hn ht
          cases hn
        · simp only [if_pos hcondition, if_neg hacceptable] at h
          cases h
      · simp only [if_neg hcondition] at h
        injection h with h
        injection h with hn ht
        refine ⟨ht.symm, fun s hs => ?_⟩
        rw [← Option.some.inj hs]
        simpa using hcondition

/-- A change puts a row in place of the one of its id, or it does nothing. -/
theorem put_of_modify {condition : ρ → Bool} {change : ρ → ρ} {n : Nat}
    (hchange : ∀ r, Row.id (change r) = Row.id r)
    (h : t.modify id condition change acceptable = .ok (n, t')) :
    (n = 0 ∧ t' = t ∧ ∀ r, t.find? id = some r → condition r = false)
      ∨ ∃ r, t.find? id = some r ∧ condition r = true
        ∧ acceptable (change r) (t.others id) = true ∧ n = 1 ∧ t.Put (some r) (change r) t' := by
  rcases modify_ok h with ⟨rfl, -⟩ | ⟨r, hfind, hcondition, hacceptable, hn, rfl⟩
  · exact Or.inl ⟨rfl, modify_eq_zero h⟩
  · exact Or.inr ⟨r, hfind, hcondition, hacceptable, hn, .replaced hfind hchange⟩

/-- A row is put in place of the one from which it was made. -/
theorem put_changed {r : ρ} (change : ρ → ρ) (hfind : t.find? id = some r)
    (hchange : ∀ s, Row.id (change s) = Row.id s) :
    t.Put (some r) (change r) (t.changed id change) :=
  .replaced hfind hchange

theorem others_changed {change : ρ → ρ} (hchange : ∀ r, Row.id (change r) = Row.id r) :
    (t.changed id change).others id = t.others id := by
  have hid : ∀ s, Row.id (if Row.id s == id then change s else s) = Row.id s := by
    intro s
    split
    · exact hchange s
    · rfl
  simp only [others, changed]
  rw [List.filter_map]
  have hsame : ((fun s => Row.id s != id) ∘ fun s => if Row.id s == id then change s else s)
      = fun s => Row.id s != id := funext fun s => congrArg (· != id) (hid s)
  rw [hsame]
  refine (List.map_congr_left fun s hs => ?_).trans (List.map_id _)
  have hother := (List.mem_filter.mp hs).2
  rw [if_neg (by simpa using hother)]
  rfl

namespace Put

variable {old : Option ρ} {new : ρ}

/-- The older row is the one that was found under the id. -/
theorem id_eq {r : ρ} (h : t.Put (some r) new t') : Row.id new = Row.id r := by
  cases h with
  | replaced hfound hchange => exact hchange r

theorem find?_old {r : ρ} (h : t.Put (some r) new t') : t.find? (Row.id new) = some r := by
  cases h with
  | replaced hfound hchange =>
      rw [hchange, (find?_eq_some hfound).2]
      exact hfound

theorem numbered (h : t.Put old new t') (ht : t.Numbered) : t'.Numbered := by
  cases h with
  | added hnext => exact ht.append (lastId_lt_of_nextId? hnext)
  | replaced hfound hchange => exact ht.changed hchange

/-- The rows of other ids are the same, in the same order. -/
theorem others (h : t.Put old new t') : t'.others (Row.id new) = t.others (Row.id new) := by
  cases h with
  | added hnext =>
      show (t.rows ++ [new]).filter _ = t.rows.filter _
      rw [List.filter_append, List.filter_cons_of_neg (by simp), List.filter_nil, List.append_nil]
  | replaced hfound hchange =>
      rw [hchange, (find?_eq_some hfound).2]
      exact others_changed hchange

theorem find? (h : t.Put old new t') (ht : t.Numbered) : t'.find? (Row.id new) = some new := by
  cases h with
  | added hnext =>
      have hlast := lastId_lt_of_nextId? hnext
      have hnone : t.find? (Row.id new) = none := by
        refine List.find?_eq_none.mpr fun s hs hsame => ?_
        have hle := ht.le_lastId s hs
        rw [beq_iff_eq.mp hsame] at hle
        omega
      show (t.rows ++ [new]).find? _ = some new
      rw [List.find?_append]
      show (t.find? (Row.id new)).or _ = _
      rw [hnone]
      simp
  | replaced hfound hchange =>
      have hid := (find?_eq_some hfound).2
      rw [find?_changed hchange, hchange, hid, hfound, Option.map_some, if_pos (by simp [hid])]

theorem find?_other (h : t.Put old new t') {other : Int} (hother : other ≠ Row.id new) :
    t'.find? other = t.find? other := by
  cases h with
  | added hnext =>
      show (t.rows ++ [new]).find? _ = _
      rw [List.find?_append]
      simp [hother.symm, Table.find?]
  | @replaced id r change hfound hchange =>
      rw [find?_changed hchange]
      rw [hchange, (find?_eq_some hfound).2] at hother
      cases hfind : t.find? other with
      | none => rfl
      | some s =>
          have hs := (find?_eq_some hfind).2
          rw [Option.map_some, if_neg (by simpa [hs] using hother)]

/-- A row of the table is the new one, or it was there before under another id. -/
theorem mem (h : t.Put old new t') (ht : t.Numbered) {r : ρ} (hr : r ∈ t'.rows) :
    r = new ∨ r ∈ t.others (Row.id new) := by
  by_cases hid : Row.id r = Row.id new
  · have hfind := (h.numbered ht).find?_id hr
    rw [hid, h.find? ht] at hfind
    exact Or.inl (Option.some.inj hfind).symm
  · rw [← h.others]
    exact Or.inr (mem_others.mpr ⟨hr, hid⟩)

/-- What the new row has in common with the older one the whole table has in common with the one
    before. -/
theorem map_rows {r : ρ} (h : t.Put (some r) new t') (ht : t.Numbered) {β : Type} {f : ρ → β}
    (hf : f new = f r) : t'.rows.map f = t.rows.map f := by
  cases h with
  | @replaced id r change hfound hchange =>
      obtain ⟨hr, hid⟩ := find?_eq_some hfound
      show (t.rows.map _).map f = _
      rw [List.map_map]
      refine List.map_congr_left fun s hs => ?_
      by_cases hsame : Row.id s = id
      · rw [ht.eq_of_id hs hr (hsame.trans hid.symm), Function.comp_apply,
          if_pos (beq_iff_eq.mpr hid)]
        exact hf
      · rw [Function.comp_apply, if_neg (by simpa using hsame)]

/-- What holds between any two rows still does, if it holds between the new row and the others. -/
theorem pairwise (h : t.Put old new t') (ht : t.Numbered) {R : ρ → ρ → Prop}
    (hsymm : ∀ {a b}, R a b → R b a) (hrows : t.rows.Pairwise R)
    (hnew : ∀ s ∈ t.others (Row.id new), R new s) : t'.rows.Pairwise R := by
  cases h with
  | added hnext =>
      refine List.pairwise_append.mpr ⟨hrows, List.pairwise_singleton _ _, ?_⟩
      intro s hs u hu
      rw [List.mem_singleton.mp hu]
      have hbelow := Int.lt_of_le_of_lt (ht.le_lastId s hs) (lastId_lt_of_nextId? hnext)
      exact hsymm (hnew s (mem_others.mpr ⟨hs, Int.ne_of_lt hbelow⟩))
  | replaced hfound hchange =>
      rw [hchange, (find?_eq_some hfound).2] at hnew
      exact ht.pairwise_changed hfound hsymm hrows hnew

end Put

/-! ## In place of an older row -/

/-- A row stands where another one was, and all rows before it and after it are the same. -/
def Replaced (t : Table ρ) (old new : ρ) (t' : Table ρ) : Prop :=
  ∃ before after, t.rows = before ++ old :: after
    ∧ t' = { t with rows := before ++ new :: after }

/-- The changed row is found under the id of the one from which it was made. -/
theorem find?_changed_self {r : ρ} {change : ρ → ρ} (hchange : ∀ s, Row.id (change s) = Row.id s)
    (hfind : t.find? id = some r) : (t.changed id change).find? id = some (change r) := by
  rw [find?_changed hchange, hfind, Option.map_some,
    if_pos (by simpa using (find?_eq_some hfind).2)]

/-- A change of the row that is found under an id replaces this row. -/
theorem Numbered.replaced (ht : t.Numbered) {r : ρ} (change : ρ → ρ)
    (hfind : t.find? id = some r) : t.Replaced r (change r) (t.changed id change) := by
  obtain ⟨hr, rfl⟩ := find?_eq_some hfind
  obtain ⟨before, after, hrows, hchanged⟩ := ht.exists_rows_changed change hr
  refine ⟨before, after, hrows, ?_⟩
  rw [← hchanged]
  rfl

end RobotMaze.Table
