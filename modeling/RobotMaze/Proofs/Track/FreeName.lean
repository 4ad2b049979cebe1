import Mathlib.Data.List.Nodup
import Mathlib.Data.List.Perm.Subperm
import Mathlib.Data.Nat.Find
import RobotMaze.Proofs.Text.Digits
import RobotMaze.Proofs.Text.Split
import RobotMaze.Track.Transfer

/-! # Free names — a name that no other track has

    Of the names that are made from a base with a number, different numbers make
    different ones, so as long as there are more numbers than taken names one of
    them is free.  There are as many numbers as 32 bits hold.

    * `FirstFree` — a name is the first one made from a base that is not taken,
      `NoneFree` — all of them are;
    * `numberAt` — the numbers of the counter, in the order of the search;
    * `length_ge_of_taken` — so many names are taken, if the first ones are;
    * `freeName?_cases` — the search ends with the first free name, or every
      name is taken;
    * `freeName_found` — that is the name with the smallest number from one on,
      and it goes no further than there are taken names;
    * `trim_numberedName` — a number leaves a trimmed name trimmed. -/

namespace RobotMaze

/-- A name is the first one made from a base that is not taken: the base, or the base with the
    smallest number from one on.  Where all of these are taken, the counter has come round, and it
    is the base with the least number that makes a free name. -/
inductive FirstFree (taken : List String) (base : String) : String → Prop
  | own (free : base ∉ taken) : FirstFree taken base base
  | numbered {n : Int} (base_taken : base ∈ taken) (positive : 1 ≤ n) (counted : n ≤ maxNumber)
      (free : numberedName base n ∉ taken)
      (least : ∀ m, 1 ≤ m → m < n → numberedName base m ∈ taken) :
      FirstFree taken base (numberedName base n)
  | comeRound {n : Int} (base_taken : base ∈ taken) (low : -2147483648 ≤ n) (high : n ≤ 0)
      (positive_taken : ∀ m, 1 ≤ m → m ≤ maxNumber → numberedName base m ∈ taken)
      (free : numberedName base n ∉ taken)
      (least : ∀ m, -2147483648 ≤ m → m < n → numberedName base m ∈ taken) :
      FirstFree taken base (numberedName base n)

/-- A base is taken, and with every number of 32 bits as well: more than four billion names. -/
def NoneFree (taken : List String) (base : String) : Prop :=
  base ∈ taken ∧ ∀ n, -2147483648 ≤ n → n ≤ maxNumber → numberedName base n ∈ taken

variable {taken : List String} {base : String}

/-- The first free name is free. -/
theorem FirstFree.free {name : String} (h : FirstFree taken base name) : name ∉ taken := by
  cases h with
  | own hfree => exact hfree
  | numbered _ _ _ hfree => exact hfree
  | comeRound _ _ _ _ hfree => exact hfree

/-- Where some name is the first free one, not all are taken. -/
theorem FirstFree.not_noneFree {name : String} (h : FirstFree taken base name) :
    ¬ NoneFree taken base := by
  rintro ⟨hbase, hall⟩
  cases h with
  | own hfree => exact hfree hbase
  | numbered _ hpositive hcounted hfree => exact hfree (hall _ (by omega) hcounted)
  | comeRound _ hlow hhigh _ hfree => exact hfree (hall _ hlow (by simp only [maxNumber]; omega))

/-- A number is written with a character at least. -/
theorem length_toString_pos (n : Int) : 1 ≤ (toString n).toList.length := by
  cases n with
  | ofNat n =>
      show 1 ≤ (toString n).toList.length
      rw [Decimal.toList_toString]
      exact Nat.length_toDigits_pos
  | negSucc n =>
      show 1 ≤ ("-" ++ toString (n + 1)).toList.length
      rw [String.toList_append, List.length_append]
      exact Nat.le_add_right_of_le (Nat.le_refl 1)

/-- The characters of a name with a number. -/
theorem toList_numberedName (base : String) (n : Int) :
    (numberedName base n).toList
      = (base.toList ++ ' ' :: '(' :: (toString n).toList) ++ [')'] := by
  simp only [numberedName, String.toList_append]
  simp

/-- A number in brackets takes four characters or more. -/
theorem length_numberedName (base : String) (n : Int) :
    base.length + 4 ≤ (numberedName base n).length := by
  have hnumber := length_toString_pos n
  rw [← String.length_toList, ← String.length_toList, toList_numberedName]
  simp only [List.length_append, List.length_cons, List.length_nil]
  omega

/-- The first free name for a base that is taken is longer than it. -/
theorem FirstFree.length_of_mem {name : String} (h : FirstFree taken base name)
    (hbase : base ∈ taken) : base.length + 4 ≤ name.length := by
  cases h with
  | own hfree => exact absurd hbase hfree
  | numbered => exact length_numberedName base _
  | comeRound => exact length_numberedName base _

/-- A name that is made from some name is not empty. -/
theorem FirstFree.length_pos {name : String} (h : FirstFree taken base name) (hne : base ≠ "") :
    1 ≤ name.length := by
  by_cases hbase : base ∈ taken
  · have hlonger := h.length_of_mem hbase
    omega
  · cases h with
    | own =>
        have hlength : base.length ≠ 0 := mt String.length_eq_zero_iff.mp hne
        omega
    | numbered htaken => exact absurd htaken hbase
    | comeRound htaken => exact absurd htaken hbase

/-- Different numbers make different names. -/
theorem numberedName_injective (base : String) : Function.Injective (numberedName base) := by
  intro n m h
  have htext := congrArg String.toList h
  rw [toList_numberedName, toList_numberedName, List.append_cancel_right_eq,
    List.append_cancel_left_eq] at htext
  have hnumber := (List.cons.inj (List.cons.inj htext).2).2
  exact Decimal.toString_injective (String.toList_inj.mp hnumber)

/-- A name with a number is not its base. -/
theorem ne_numberedName (base : String) (n : Int) : base ≠ numberedName base n := by
  intro h
  have hlonger := length_numberedName base n
  rw [← h] at hlonger
  omega

/-! ## Counting what is taken -/

/-- Of values that are all different and all taken there are no more than taken ones. -/
theorem le_length_of_mem {α : Type} {f : Nat → α} {count : Nat} {taken : List α}
    (hf : ∀ i < count, ∀ j < count, f i = f j → i = j) (htaken : ∀ i < count, f i ∈ taken) :
    count ≤ taken.length := by
  have hsubset : (List.range count).map f ⊆ taken := by
    intro a ha
    obtain ⟨i, hi, rfl⟩ := List.mem_map.mp ha
    exact htaken i (List.mem_range.mp hi)
  have hnodup : ((List.range count).map f).Nodup :=
    List.Nodup.map_on (fun i hi j hj => hf i (List.mem_range.mp hi) j (List.mem_range.mp hj))
      List.nodup_range
  have hlength := (List.subperm_of_subset hnodup hsubset).length_le
  rwa [List.length_map, List.length_range] at hlength

/-- Of more values than there are taken ones, all of them different, one is free. -/
theorem exists_free_of_injective {α : Type} {f : Nat → α} (hf : Function.Injective f)
    (taken : List α) : ∃ n, n < taken.length + 1 ∧ f n ∉ taken := by
  by_contra hnone
  have hcount : taken.length + 1 ≤ taken.length := by
    refine le_length_of_mem (f := f) (fun _ _ _ _ h => hf h) fun n hn => ?_
    by_contra hfree
    exact hnone ⟨n, hn, hfree⟩
  omega

/-! ## The search -/

/-- The numbers of the counter in the order of the search: from one up to the greatest, and then
    from the least up to zero. -/
def numberAt (k : Nat) : Int := if k < 2147483647 then k + 1 else k - 4294967295

theorem numberAt_of_lt {k : Nat} (hk : k < 2147483647) : numberAt k = k + 1 := if_pos hk

theorem numberAt_of_le {k : Nat} (hk : 2147483647 ≤ k) : numberAt k = k - 4294967295 :=
  if_neg (Nat.not_lt.mpr hk)

/-- The numbers of the counter are all different. -/
theorem numberAt_injective {i j : Nat} (hi : i < 4294967296) (hj : j < 4294967296)
    (h : numberAt i = numberAt j) : i = j := by
  rcases Nat.lt_or_ge i 2147483647 with hi' | hi' <;>
    rcases Nat.lt_or_ge j 2147483647 with hj' | hj' <;>
      simp only [numberAt_of_lt, numberAt_of_le, hi', hj'] at h <;> omega

/-- The counter goes from each number to the next one, until it has come round. -/
theorem numberAfter_numberAt {k : Nat} (hk : k < 4294967295) :
    numberAfter (numberAt k) = numberAt (k + 1) := by
  rcases Nat.lt_trichotomy k 2147483646 with hlow | rfl | hhigh
  · rw [numberAt_of_lt (by omega), numberAt_of_lt (by omega), numberAfter,
      if_neg (by simp only [maxNumber]; omega), Int.natCast_add]
    rfl
  · rfl
  · rw [numberAt_of_le (by omega), numberAt_of_le (by omega), numberAfter,
      if_neg (by simp only [maxNumber]; omega)]
    omega

/-- The number from one on that has a place in the search is the one after that place. -/
theorem eq_numberAt_of_pos {n : Int} (hlow : 1 ≤ n) (hhigh : n ≤ maxNumber) :
    n = numberAt (n - 1).toNat := by
  simp only [maxNumber] at hhigh
  rw [numberAt_of_lt (by omega)]
  omega

/-- The other numbers come after those. -/
theorem eq_numberAt_of_nonpos {n : Int} (hlow : -2147483648 ≤ n) (hhigh : n ≤ 0) :
    n = numberAt (n + 4294967295).toNat := by
  rw [numberAt_of_le (by omega)]
  omega

/-- The names that are tried, in their order: the base, then the base with the numbers of the
    counter. -/
def candidate (base : String) : Nat → String
  | 0 => base
  | k + 1 => numberedName base (numberAt k)

/-- No number is tried twice before the counter has come round. -/
theorem candidate_injective (base : String) {i j : Nat} (hi : i < 4294967297)
    (hj : j < 4294967297) (h : candidate base i = candidate base j) : i = j := by
  cases i with
  | zero =>
      cases j with
      | zero => rfl
      | succ j => exact absurd h (ne_numberedName base _)
  | succ i =>
      cases j with
      | zero => exact absurd h.symm (ne_numberedName base _)
      | succ j =>
          have hnumber := numberedName_injective base h
          rw [numberAt_injective (by omega) (by omega) hnumber]

/-- If a base is taken, and with so many numbers of the counter, then there are more taken names. -/
theorem lt_length_of_taken {k : Nat} (hk : k ≤ 4294967296) (hbase : base ∈ taken)
    (htaken : ∀ j < k, numberedName base (numberAt j) ∈ taken) : k < taken.length := by
  have hdistinct : ∀ i < k + 1, ∀ j < k + 1, candidate base i = candidate base j → i = j :=
    fun i hi j hj => candidate_injective base (by omega) (by omega)
  refine le_length_of_mem hdistinct fun i hi => ?_
  cases i with
  | zero => exact hbase
  | succ i => exact htaken i (Nat.lt_of_succ_lt_succ hi)

/-- A search that starts in some place ends at the first free name that it comes to. -/
theorem freeNumbered?_of_free {k : Nat} (hk : k < 4294967296)
    (hfree : numberedName base (numberAt k) ∉ taken) {start count : Nat} (hstart : start ≤ k)
    (hcount : k < start + count)
    (htaken : ∀ j, start ≤ j → j < k → numberedName base (numberAt j) ∈ taken) :
    freeNumbered? taken base count (numberAt start) = some (numberedName base (numberAt k)) := by
  -- on what is left of the count, which goes down as the place goes up
  induction count generalizing start with
  | zero => omega
  | succ count ih =>
      rw [freeNumbered?]
      by_cases hhere : start = k
      · subst hhere
        rw [if_neg (mt List.contains_iff_mem.mp hfree)]
      · rw [if_pos (List.contains_iff_mem.mpr (htaken start (Nat.le_refl _) (by omega))),
          numberAfter_numberAt (by omega)]
        exact ih (by omega) (by omega) fun j hj => htaken j (by omega)

/-- The counter does not leave its numbers. -/
theorem numberAfter_bounds {n : Int} (hlow : -2147483648 ≤ n) (hhigh : n ≤ maxNumber) :
    -2147483648 ≤ numberAfter n ∧ numberAfter n ≤ maxNumber := by
  by_cases hgreatest : n = maxNumber
  · rw [numberAfter, if_pos hgreatest]
    decide
  · rw [numberAfter, if_neg hgreatest]
    omega

/-- A search in which every number makes a taken name does not end. -/
theorem freeNumbered?_of_taken {n : Int} (hlow : -2147483648 ≤ n) (hhigh : n ≤ maxNumber)
    (htaken : ∀ m, -2147483648 ≤ m → m ≤ maxNumber → numberedName base m ∈ taken) (count : Nat) :
    freeNumbered? taken base count n = none := by
  induction count generalizing n with
  | zero => rfl
  | succ count ih =>
      rw [freeNumbered?, if_pos (List.contains_iff_mem.mpr (htaken n hlow hhigh))]
      obtain ⟨hlow', hhigh'⟩ := numberAfter_bounds hlow hhigh
      exact ih hlow' hhigh'

/-- Of the numbers of the counter there is a first one that makes a free name, or there is none. -/
theorem exists_first_free (taken : List String) (base : String) :
    (∃ k < 4294967296, numberedName base (numberAt k) ∉ taken
        ∧ ∀ j < k, numberedName base (numberAt j) ∈ taken)
      ∨ ∀ n, -2147483648 ≤ n → n ≤ maxNumber → numberedName base n ∈ taken := by
  by_cases hexists : ∃ k, k < 4294967296 ∧ numberedName base (numberAt k) ∉ taken
  · left
    obtain ⟨hk, hfree⟩ := Nat.find_spec hexists
    refine ⟨Nat.find hexists, hk, hfree, fun j hj => ?_⟩
    by_contra hmem
    exact Nat.find_min hexists hj ⟨by omega, hmem⟩
  · right
    intro n hlow hhigh
    by_contra hfree
    by_cases hpositive : 1 ≤ n
    · rw [eq_numberAt_of_pos hpositive hhigh] at hfree
      simp only [maxNumber] at hhigh
      exact hexists ⟨_, by omega, hfree⟩
    · rw [eq_numberAt_of_nonpos hlow (by omega)] at hfree
      exact hexists ⟨_, by omega, hfree⟩

/-- A name that is free is kept. -/
theorem freeName?_of_not_mem (hbase : base ∉ taken) : freeName? taken base = some base :=
  if_neg (mt List.contains_iff_mem.mp hbase)

theorem freeName?_of_mem (hbase : base ∈ taken) :
    freeName? taken base = freeNumbered? taken base (taken.length + 1) 1 :=
  if_pos (List.contains_iff_mem.mpr hbase)

/-- The search ends at the first free number, and it goes no further than there are taken names. -/
theorem search_of_first {k : Nat} (hk : k < 4294967296) (hbase : base ∈ taken)
    (hfree : numberedName base (numberAt k) ∉ taken)
    (htaken : ∀ j < k, numberedName base (numberAt j) ∈ taken) :
    k < taken.length ∧ freeName? taken base = some (numberedName base (numberAt k))
      ∧ ∀ count, k < count →
        freeNumbered? taken base count 1 = some (numberedName base (numberAt k)) := by
  have hlength : k < taken.length := lt_length_of_taken (Nat.le_of_lt hk) hbase htaken
  have hsearch : ∀ count, k < count →
      freeNumbered? taken base count (numberAt 0) = some (numberedName base (numberAt k)) :=
    fun count hcount => freeNumbered?_of_free hk hfree (Nat.zero_le k) (by omega)
      fun j _ hj => htaken j hj
  exact ⟨hlength, (freeName?_of_mem hbase).trans (hsearch _ (by omega)), hsearch⟩

/-- The first free number of the counter makes the first free name. -/
theorem firstFree_of_first {k : Nat} (hk : k < 4294967296) (hbase : base ∈ taken)
    (hfree : numberedName base (numberAt k) ∉ taken)
    (htaken : ∀ j < k, numberedName base (numberAt j) ∈ taken) :
    FirstFree taken base (numberedName base (numberAt k)) := by
  have hplaced : ∀ j < k, ∀ m, m = numberAt j → numberedName base m ∈ taken :=
    fun j hj m hm => hm ▸ htaken j hj
  rcases Nat.lt_or_ge k 2147483647 with hlow | hhigh
  · have hnumber := numberAt_of_lt hlow
    refine .numbered hbase (by omega) (by simp only [maxNumber]; omega) hfree fun m hm hlt => ?_
    exact hplaced (m - 1).toNat (by omega) m
      (eq_numberAt_of_pos hm (by simp only [maxNumber]; omega))
  · have hnumber := numberAt_of_le hhigh
    refine .comeRound hbase (by omega) (by omega) (fun m hm hle => ?_) hfree fun m hm hlt => ?_
    · have hplace := eq_numberAt_of_pos hm hle
      simp only [maxNumber] at hle
      exact hplaced (m - 1).toNat (by omega) m hplace
    · exact hplaced (m + 4294967295).toNat (by omega) m
        (eq_numberAt_of_nonpos hm (by omega))

/-- The name that is chosen is the first one that is free, or none is. -/
theorem freeName?_cases (taken : List String) (base : String) :
    (∃ name, freeName? taken base = some name ∧ FirstFree taken base name)
      ∨ (freeName? taken base = none ∧ NoneFree taken base) := by
  by_cases hbase : base ∈ taken
  · rcases exists_first_free taken base with ⟨k, hk, hfree, htaken⟩ | hall
    · obtain ⟨-, hname, -⟩ := search_of_first hk hbase hfree htaken
      exact .inl ⟨_, hname, firstFree_of_first hk hbase hfree htaken⟩
    · refine .inr ⟨?_, hbase, hall⟩
      rw [freeName?_of_mem hbase]
      exact freeNumbered?_of_taken (by decide) (by decide) hall _
  · exact .inl ⟨base, freeName?_of_not_mem hbase, .own hbase⟩

/-- Unless none is free, the name that is tried is the first free one. -/
theorem freeName_firstFree (h : ¬ NoneFree taken base) :
    FirstFree taken base (freeName taken base) := by
  rcases freeName?_cases taken base with ⟨name, hname, hfirst⟩ | ⟨-, hnone⟩
  · rw [freeName, hname]
    exact hfirst
  · exact absurd hnone h

/-- Nothing is found exactly where no name is free. -/
theorem freeName?_eq_none_iff (taken : List String) (base : String) :
    freeName? taken base = none ↔ NoneFree taken base := by
  rcases freeName?_cases taken base with ⟨found, hfound, hfirst⟩ | ⟨hnone, hall⟩
  · have hne : freeName? taken base ≠ none := hfound ▸ nofun
    exact iff_of_false hne hfirst.not_noneFree
  · exact iff_of_true hnone hall

/-- A base that is taken with every number from one to the greatest makes for more taken names than
    there are such numbers. -/
theorem maxNumber_lt_length (hbase : base ∈ taken)
    (hall : ∀ m, 1 ≤ m → m ≤ maxNumber → numberedName base m ∈ taken) :
    maxNumber < taken.length := by
  have hlength : 2147483647 < taken.length := by
    refine lt_length_of_taken (by decide) hbase fun j hj => ?_
    rw [numberAt_of_lt hj]
    exact hall _ (by omega) (by simp only [maxNumber]; omega)
  simp only [maxNumber]
  omega

/-- Where some number from one on makes a free name, the search ends at the smallest one. -/
theorem exists_smallest (hbase : base ∈ taken)
    (hsome : ¬ ∀ m, 1 ≤ m → m ≤ maxNumber → numberedName base m ∈ taken) :
    ∃ n, 1 ≤ n ∧ n ≤ maxNumber ∧ n ≤ taken.length
      ∧ freeName? taken base = some (numberedName base n) ∧ numberedName base n ∉ taken
      ∧ (∀ m, 1 ≤ m → m < n → numberedName base m ∈ taken)
      ∧ ∀ count : Nat, n ≤ count →
        freeNumbered? taken base count 1 = some (numberedName base n) := by
  rcases exists_first_free taken base with ⟨k, hk, hfree, htaken⟩ | hnone
  case inr => exact absurd (fun m hlow => hnone m (by omega)) hsome
  obtain ⟨hlength, hname, hsearch⟩ := search_of_first hk hbase hfree htaken
  -- the counter has not come round yet, since some positive number is free
  have hlow : k < 2147483647 := by
    by_contra hhigh
    refine hsome fun m hm hle => ?_
    have hplace := eq_numberAt_of_pos hm hle
    simp only [maxNumber] at hle
    rw [hplace]
    exact htaken _ (by omega)
  rw [numberAt_of_lt hlow] at hfree hname hsearch
  refine ⟨k + 1, by omega, by simp only [maxNumber]; omega, by omega, hname, hfree,
    fun m hm hlt => ?_, fun count hcount => hsearch count (by omega)⟩
  rw [eq_numberAt_of_pos hm (by simp only [maxNumber]; omega)]
  exact htaken _ (by omega)

/-- A number in brackets leaves a trimmed name trimmed. -/
theorem trim_numberedName (htrimmed : Text.trim base = base) (n : Int) (hne : base ≠ "") :
    Text.trim (numberedName base n) = numberedName base n := by
  have hchars := Text.trimChars_of_trim htrimmed
  obtain ⟨c, more, hbase⟩ := List.exists_cons_of_ne_nil (mt String.toList_eq_nil_iff.mp hne)
  have hstart : Text.isBlank c = false := by
    have hhead : c ∈ (Text.trimChars base.toList).head? := by
      rw [hchars, hbase]
      rfl
    exact Text.not_isBlank_of_head? hhead
  simp only [Text.trim]
  rw [toList_numberedName, Text.trimChars_eq_self _ (by decide), ← toList_numberedName,
    String.ofList_toList]
  intro d hd
  rw [hbase] at hd
  obtain rfl : c = d := Option.some.inj hd
  exact hstart

/-- The name that is chosen for a trimmed base is trimmed. -/
theorem FirstFree.trim_eq {name : String} (h : FirstFree taken base name)
    (htrimmed : Text.trim base = base) (hne : base ≠ "") : Text.trim name = name := by
  cases h with
  | own _ => exact htrimmed
  | numbered => exact trim_numberedName htrimmed _ hne
  | comeRound => exact trim_numberedName htrimmed _ hne

end RobotMaze
