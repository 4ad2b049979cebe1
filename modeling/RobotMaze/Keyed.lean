/-! # Keyed lists — entries in key order

    A table with few entries is a list of pairs in key order, each key once.

    * `Keyed.insert` puts an entry into its place, over one of the same key;
    * `Keyed.ofList` inserts entries one by one, so of one key the last stays;
    * `lookup_insert` — what was inserted is found. -/

namespace RobotMaze.Keyed

variable {κ α : Type} [LT κ] [DecidableLT κ] [DecidableEq κ]

/-- Puts an entry into its place; an entry of the same key gives way. -/
def insert (key : κ) (value : α) : List (κ × α) → List (κ × α)
  | [] => [(key, value)]
  | (k, v) :: rest =>
      if key < k then (key, value) :: (k, v) :: rest
      else if key = k then (key, value) :: rest
      else (k, v) :: insert key value rest

/-- The entries in key order, the last of each key. -/
def ofList (entries : List (κ × α)) : List (κ × α) :=
  entries.foldl (fun done entry => insert entry.1 entry.2 done) []

/-- What was inserted is found. -/
theorem lookup_insert [BEq κ] [LawfulBEq κ] (key : κ) (value : α) (entries : List (κ × α)) :
    (insert key value entries).lookup key = some value := by
  induction entries with
  | nil => simp [insert]
  | cons entry rest ih =>
      obtain ⟨k, v⟩ := entry
      unfold insert
      split
      · simp
      · split
        · simp
        · rename_i hne
          have : (key == k) = false := by simpa using hne
          simp [List.lookup_cons, this, ih]

end RobotMaze.Keyed
