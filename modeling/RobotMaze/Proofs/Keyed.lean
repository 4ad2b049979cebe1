import RobotMaze.Keyed

/-! # Keyed lists — what putting in an entry does

    * `mem_of_lookup`, `lookup_of_mem` — what is found are the entries;
    * `lookup_insert_of_ne` — what is found under other keys stays;
    * `mem_keys_insert` — the key is added to the others;
    * `pairwise_insert` — the keys stay in order;
    * `perm_insert` — an entry of a new key is one entry more;
    * `ofList_eq_self` — a list that is in key order is not changed;
    * `mem_keys_ofList`, `pairwise_ofList`, `mem_of_mem_ofList` — a list made of
      entries has their keys, each once and in order, and no other entries. -/

namespace RobotMaze.Keyed

variable {α : Type} {k : String} {v : α} {entries : List (String × α)}

section Lookup

variable {κ : Type} [BEq κ] [LawfulBEq κ] {entries : List (κ × α)}

/-- What is found under a key is an entry of that key. -/
theorem mem_of_lookup {key : κ} (h : entries.lookup key = some v) : (key, v) ∈ entries := by
  obtain ⟨before, after, rfl, -⟩ := List.lookup_eq_some_iff.mp h
  exact List.mem_append_right before List.mem_cons_self

/-- Under a key that comes once its entry is found. -/
theorem lookup_of_mem (hkeys : (entries.map Prod.fst).Nodup) {entry : κ × α}
    (hentry : entry ∈ entries) : entries.lookup entry.1 = some entry.2 := by
  induction entries with
  | nil => cases hentry
  | cons first rest ih =>
      obtain ⟨hfirst, hrest⟩ := List.nodup_cons.mp hkeys
      rcases List.mem_cons.mp hentry with rfl | hentry
      · exact List.lookup_cons_self
      · have hother : (entry.1 == first.1) = false := by
          refine beq_eq_false_iff_ne.mpr fun hsame => hfirst ?_
          exact List.mem_map.mpr ⟨entry, hentry, hsame⟩
        rw [List.lookup_cons, hother]
        exact ih hrest hentry

end Lookup

theorem lookup_insert_of_ne {other : String} (hother : other ≠ k) :
    (insert k v entries).lookup other = entries.lookup other := by
  have hkey : (other == k) = false := beq_eq_false_iff_ne.mpr hother
  induction entries with
  | nil => rw [insert, List.lookup_cons, hkey]
  | cons first rest ih =>
      obtain ⟨key, value⟩ := first
      simp only [insert]
      split
      · rw [List.lookup_cons, hkey]
      · split
        · rename_i heq
          rw [List.lookup_cons, List.lookup_cons, ← heq, hkey]
        · rw [List.lookup_cons, List.lookup_cons, ih]

theorem mem_keys_insert {name : String} :
    name ∈ (insert k v entries).map Prod.fst ↔ name = k ∨ name ∈ entries.map Prod.fst := by
  induction entries with
  | nil => simp [insert]
  | cons first rest ih =>
      obtain ⟨key, value⟩ := first
      simp only [insert]
      split
      · simp
      · split
        · rename_i heq
          simp [heq]
        · rw [List.map_cons, List.mem_cons, ih, List.map_cons, List.mem_cons, or_left_comm]

theorem pairwise_insert (h : (entries.map Prod.fst).Pairwise (· < ·)) :
    ((insert k v entries).map Prod.fst).Pairwise (· < ·) := by
  induction entries with
  | nil => exact List.pairwise_singleton _ _
  | cons first rest ih =>
      obtain ⟨key, value⟩ := first
      obtain ⟨hfirst, hrest⟩ := List.pairwise_cons.mp h
      simp only [insert]
      split
      · rename_i hlt
        refine List.pairwise_cons.mpr ⟨fun name hname => ?_, h⟩
        rcases List.mem_cons.mp hname with rfl | hname
        · exact hlt
        · exact String.lt_trans hlt (hfirst name hname)
      · split
        · rename_i heq
          subst heq
          exact List.pairwise_cons.mpr ⟨hfirst, hrest⟩
        · rename_i hnot hne
          have hlt : key < k := by
            rcases Decidable.em (key < k) with hlt | hge
            · exact hlt
            · exact absurd (String.le_antisymm hge hnot) hne
          refine List.pairwise_cons.mpr ⟨fun name hname => ?_, ih hrest⟩
          rcases mem_keys_insert.mp hname with rfl | hname
          · exact hlt
          · exact hfirst name hname

theorem perm_insert (hnew : k ∉ entries.map Prod.fst) :
    (insert k v entries).Perm ((k, v) :: entries) := by
  induction entries with
  | nil => exact List.Perm.refl _
  | cons first rest ih =>
      obtain ⟨key, value⟩ := first
      rw [List.map_cons, List.mem_cons, not_or] at hnew
      simp only [insert]
      split
      · exact List.Perm.refl _
      · rw [if_neg hnew.1]
        exact ((ih hnew.2).cons _).trans (List.Perm.swap _ _ _)

theorem mem_of_mem_insert {entry : String × α} (h : entry ∈ insert k v entries) :
    entry = (k, v) ∨ entry ∈ entries := by
  induction entries with
  | nil => exact Or.inl (List.mem_singleton.mp h)
  | cons first rest ih =>
      obtain ⟨key, value⟩ := first
      simp only [insert] at h
      split at h
      · exact List.mem_cons.mp h
      · split at h
        · rcases List.mem_cons.mp h with h | h
          · exact Or.inl h
          · exact Or.inr (List.mem_cons_of_mem _ h)
        · rcases List.mem_cons.mp h with h | h
          · exact Or.inr (h ▸ List.mem_cons_self)
          · exact (ih h).imp_right (List.mem_cons_of_mem _)

/-! ## Lists made of entries -/

theorem mem_keys_ofList {name : String} :
    name ∈ (ofList entries).map Prod.fst ↔ name ∈ entries.map Prod.fst := by
  -- the entries are inserted into what has been done before, at first into nothing
  suffices hdone : ∀ done : List (String × α),
      name ∈ (entries.foldl (fun done entry => insert entry.1 entry.2 done) done).map Prod.fst
        ↔ name ∈ entries.map Prod.fst ∨ name ∈ done.map Prod.fst by
    rw [ofList, hdone]
    simp
  induction entries with
  | nil => simp
  | cons first rest ih =>
      intro done
      rw [List.foldl_cons, ih, mem_keys_insert, List.map_cons, List.mem_cons, or_left_comm,
        or_assoc]

theorem pairwise_ofList : ((ofList entries).map Prod.fst).Pairwise (· < ·) := by
  suffices hdone : ∀ done : List (String × α), (done.map Prod.fst).Pairwise (· < ·) →
      ((entries.foldl (fun done entry => insert entry.1 entry.2 done) done).map
        Prod.fst).Pairwise (· < ·) from hdone [] List.Pairwise.nil
  induction entries with
  | nil => exact fun _ h => h
  | cons first rest ih => exact fun done h => ih _ (pairwise_insert h)

theorem nodup_keys_ofList : ((ofList entries).map Prod.fst).Nodup := by
  have hlt : ((ofList entries).map Prod.fst).Pairwise (· < ·) := pairwise_ofList
  refine hlt.imp ?_
  rintro name _ hlt rfl
  exact String.lt_irrefl name hlt

theorem mem_of_mem_ofList {entry : String × α} (h : entry ∈ ofList entries) : entry ∈ entries := by
  suffices hdone : ∀ done : List (String × α),
      entry ∈ entries.foldl (fun done entry => insert entry.1 entry.2 done) done →
        entry ∈ entries ∨ entry ∈ done from
    (hdone [] h).resolve_right List.not_mem_nil
  clear h
  induction entries with
  | nil => exact fun _ h => Or.inr h
  | cons first rest ih =>
      intro done h
      rcases ih _ h with h | h
      · exact Or.inl (List.mem_cons_of_mem _ h)
      · rcases mem_of_mem_insert h with rfl | h
        · exact Or.inl List.mem_cons_self
        · exact Or.inr h

section Sorted

variable {κ : Type} [LT κ] [DecidableLT κ] [DecidableEq κ] {key : κ} {sorted : List (κ × α)}

/-- An entry whose key comes after all others is put at the end. -/
theorem insert_eq_append (hasymm : ∀ {k l : κ}, k < l → ¬ l < k)
    (hlast : ∀ k ∈ sorted.map Prod.fst, k < key) : insert key v sorted = sorted ++ [(key, v)] := by
  induction sorted with
  | nil => rfl
  | cons first rest ih =>
      obtain ⟨hfirst, hrest⟩ := List.forall_mem_cons.mp hlast
      have hne : key ≠ first.1 := fun heq => hasymm (heq ▸ hfirst) (heq ▸ hfirst)
      simp only [insert]
      rw [if_neg (hasymm hfirst), if_neg hne, ih hrest]
      rfl

/-- Entries that are in key order stay as they are. -/
theorem ofList_eq_self (hasymm : ∀ {k l : κ}, k < l → ¬ l < k)
    (h : (sorted.map Prod.fst).Pairwise (· < ·)) : ofList sorted = sorted := by
  -- what has been done is in front of what is left
  suffices hdone : ∀ done rest : List (κ × α), ((done ++ rest).map Prod.fst).Pairwise (· < ·) →
      rest.foldl (fun done entry => insert entry.1 entry.2 done) done = done ++ rest from
    hdone [] sorted h
  intro done rest
  induction rest generalizing done with
  | nil => exact fun _ => (List.append_nil done).symm
  | cons entry rest ih =>
      intro h
      have hlast : ∀ k ∈ done.map Prod.fst, k < entry.1 := fun k hk => by
        rw [List.map_append, List.pairwise_append] at h
        exact h.2.2 k hk entry.1 List.mem_cons_self
      rw [List.foldl_cons, insert_eq_append hasymm hlast, ih _ (by rwa [List.append_cons] at h),
        List.append_assoc]
      rfl

end Sorted

end RobotMaze.Keyed
