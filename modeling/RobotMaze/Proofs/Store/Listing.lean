import Mathlib.Data.List.Forall2
import RobotMaze.Proofs.Store.Outcome
import RobotMaze.Store.Table

/-! # Listings — orders and pages

    A listing is sorted by a key and, where keys are the same, by id.  Its pages
    are cut from the sorted rows.

    * `ByKey` — such an order is total, and no two ids stand at the same place;
    * `InOrder`, `NewestFirst` — the orders of `sortedBy` and `newestFirst`;
    * `slice` — the rows of a page: the first pages together are the first rows
      (`flatten_slice`), and all but the last page are full (`length_slice`);
    * `mapM_ok_iff` — reading rows is reading each of them;
    * `Table.insert_mapRows`, `Table.modify_mapRows`, `sortedBy_map`, `pageOf_map` —
      if each row is replaced by another one of its id, then what is done to the
      table before or after comes to the same, and so do its listings, if they do
      not look at what is replaced. -/

namespace RobotMaze

/-! ## Orders -/

/-- A relation that puts any two different keys into an order. -/
structure IsLine {κ : Type} (lt : κ → κ → Prop) : Prop where
  irrefl : ∀ x, ¬ lt x x
  trans : ∀ {x y z}, lt x y → lt y z → lt x z
  total : ∀ {x y}, x ≠ y → lt x y ∨ lt y x

/-- An order read backwards is an order. -/
theorem IsLine.flip {κ : Type} {lt : κ → κ → Prop} (h : IsLine lt) :
    IsLine fun x y => lt y x :=
  ⟨h.irrefl, fun hxy hyz => h.trans hyz hxy, fun hne => (h.total hne).symm⟩

/-- Texts stand in one line. -/
theorem isLine_text : IsLine fun s t : String => s < t where
  irrefl := String.lt_irrefl
  trans := String.lt_trans
  total := by
    intro s t hne
    by_contra hneither
    obtain ⟨hst, hts⟩ := not_or.mp hneither
    exact hne (String.le_antisymm (String.not_lt.mp hts) (String.not_lt.mp hst))

/-- What is missing, numbers and texts stand in one line. -/
theorem SortKey.isLine_before : IsLine fun a b : SortKey => a.before b = true where
  irrefl := by
    intro a
    cases a with
    | missing => simp [before]
    | number n => simp [before]
    | text s => simpa only [before, decide_eq_true_eq] using String.lt_irrefl s
  trans := by
    intro a b c hab hbc
    cases a <;> cases b <;> cases c <;>
      simp only [before, decide_eq_true_eq, Bool.false_eq_true] at *
    · omega
    · exact String.lt_trans hab hbc
  total := by
    intro a b hne
    cases a with
    | missing => cases b <;> simp_all [before]
    | number n =>
        cases b with
        | number m =>
            simp only [before, decide_eq_true_eq]
            have : n ≠ m := fun h => hne (congrArg _ h)
            omega
        | _ => simp [before]
    | text s =>
        cases b with
        | text t =>
            simp only [before, decide_eq_true_eq]
            exact isLine_text.total fun h => hne (congrArg _ h)
        | _ => simp [before]

/-- A key stands before another one in an order. -/
def SortOrder.Puts : SortOrder → SortKey → SortKey → Prop
  | .ascending, a, b => a.before b = true
  | .descending, a, b => b.before a = true

/-- Rising or falling, keys stand in one line. -/
theorem SortOrder.isLine_puts (order : SortOrder) : IsLine order.Puts := by
  cases order with
  | ascending => exact SortKey.isLine_before
  | descending => exact SortKey.isLine_before.flip

section Orders

variable {ρ κ : Type} [Row ρ]

/-- A row stands before another one: its key does, or the keys are the same and its id does. -/
def ByKey (lt : κ → κ → Prop) (ids : Int → Int → Prop) (key : ρ → κ) (a b : ρ) : Prop :=
  (key a = key b ∧ ids (Row.id a) (Row.id b)) ∨ lt (key a) (key b)

namespace ByKey

variable {lt : κ → κ → Prop} {ids : Int → Int → Prop} {key : ρ → κ} {a b c : ρ}

/-- Different keys decide. -/
theorem of_key_ne (hkey : key a ≠ key b) : ByKey lt ids key a b ↔ lt (key a) (key b) :=
  ⟨fun h => h.resolve_left fun h => hkey h.1, Or.inr⟩

variable (hlt : IsLine lt)
include hlt

/-- With equal keys the ids decide. -/
theorem of_key_eq (hkey : key a = key b) :
    ByKey lt ids key a b ↔ ids (Row.id a) (Row.id b) := by
  refine ⟨fun h => ?_, fun h => Or.inl ⟨hkey, h⟩⟩
  rcases h with h | h
  · exact h.2
  · rw [hkey] at h
    exact absurd h (hlt.irrefl _)

/-- An order by key and id is transitive. -/
theorem trans (hids : ∀ i j k, ids i j → ids j k → ids i k) (hab : ByKey lt ids key a b)
    (hbc : ByKey lt ids key b c) : ByKey lt ids key a c := by
  rcases hab with ⟨hab, hidab⟩ | hab <;> rcases hbc with ⟨hbc, hidbc⟩ | hbc
  · exact Or.inl ⟨hab.trans hbc, hids _ _ _ hidab hidbc⟩
  · exact Or.inr (hab ▸ hbc)
  · exact Or.inr (hbc ▸ hab)
  · exact Or.inr (hlt.trans hab hbc)

/-- An order by key and id is total. -/
theorem total (hids : ∀ i j, ids i j ∨ ids j i) (a b : ρ) :
    ByKey lt ids key a b ∨ ByKey lt ids key b a := by
  by_cases hkey : key a = key b
  · exact (hids (Row.id a) (Row.id b)).imp (fun h => Or.inl ⟨hkey, h⟩)
      fun h => Or.inl ⟨hkey.symm, h⟩
  · exact (hlt.total hkey).imp Or.inr Or.inr

/-- Two rows that stand before each other have one id. -/
theorem id_eq (hids : ∀ {i j}, ids i j → ids j i → i = j) (hab : ByKey lt ids key a b)
    (hba : ByKey lt ids key b a) : Row.id a = Row.id b := by
  rcases hab with ⟨hab, hidab⟩ | hab
  · exact hids hidab ((of_key_eq hlt hab.symm).mp hba)
  · rcases hba with ⟨hba, -⟩ | hba
    · rw [hba] at hab
      exact absurd hab (hlt.irrefl _)
    · exact absurd (hlt.trans hab hba) (hlt.irrefl _)

end ByKey

/-- The order of a listing sorted by a key: rows of one key by rising id. -/
def InOrder (key : ρ → SortKey) (order : SortOrder) : ρ → ρ → Prop :=
  ByKey order.Puts (· ≤ ·) key

/-- The order of a listing by falling time: rows of one time by falling id. -/
def NewestFirst (time : ρ → String) : ρ → ρ → Prop :=
  ByKey (fun x y => y < x) (fun i j => j ≤ i) time

/-- In the order of a listing two rows of different ids do not stand before each other. -/
def Separates (le : ρ → ρ → Prop) : Prop := ∀ a b, le a b → le b a → Row.id a = Row.id b

/-- No two ids share a place in a sorted listing. -/
theorem separates_inOrder (key : ρ → SortKey) (order : SortOrder) :
    Separates (InOrder key order) :=
  fun _ _ => ByKey.id_eq order.isLine_puts Int.le_antisymm

/-- No two ids share a place in a listing by time. -/
theorem separates_newestFirst (time : ρ → String) : Separates (NewestFirst time) :=
  fun _ _ => ByKey.id_eq isLine_text.flip fun hij hji => Int.le_antisymm hji hij

/-- Sorting by a test for the order of a key puts rows into that order. -/
theorem pairwise_mergeSort_byKey {lt : κ → κ → Prop} {ids : Int → Int → Prop} {key : ρ → κ}
    (hlt : IsLine lt) (htotal : ∀ i j, ids i j ∨ ids j i)
    (htrans : ∀ i j k, ids i j → ids j k → ids i k) {le : ρ → ρ → Bool}
    (hle : ∀ a b, le a b = true ↔ ByKey lt ids key a b) (rows : List ρ) :
    (rows.mergeSort le).Pairwise (ByKey lt ids key) := by
  have hsorted := @List.pairwise_mergeSort ρ le
    (fun a b c hab hbc => (hle a c).mpr (.trans hlt htrans ((hle a b).mp hab) ((hle b c).mp hbc)))
    (fun a b => by
      rw [Bool.or_eq_true, hle, hle]
      exact ByKey.total hlt htotal a b) rows
  exact hsorted.imp (hle _ _).mp

/-- A sorted listing is in order. -/
theorem pairwise_sortedBy (key : ρ → SortKey) (order : SortOrder) (rows : List ρ) :
    (sortedBy key order rows).Pairwise (InOrder key order) := by
  show (rows.mergeSort _).Pairwise (ByKey order.Puts (fun i j => i ≤ j) key)
  refine pairwise_mergeSort_byKey order.isLine_puts Int.le_total (fun _ _ _ => Int.le_trans) ?_ rows
  intro a b
  by_cases hkey : key a = key b
  · rw [if_pos hkey, ByKey.of_key_eq order.isLine_puts hkey, decide_eq_true_iff]
  · rw [if_neg hkey, ByKey.of_key_ne hkey]
    cases order <;> rfl

/-- A listing by time is in order. -/
theorem pairwise_newestFirst (time : ρ → String) (rows : List ρ) :
    (newestFirst time rows).Pairwise (NewestFirst time) := by
  show (rows.mergeSort _).Pairwise (ByKey (fun x y => y < x) (fun i j => j ≤ i) time)
  refine pairwise_mergeSort_byKey isLine_text.flip (fun i j => Int.le_total j i)
    (fun _ _ _ hij hjk => Int.le_trans hjk hij) ?_ rows
  intro a b
  by_cases hkey : time a = time b
  · rw [ByKey.of_key_eq isLine_text.flip hkey]
    simp only [if_pos hkey, decide_eq_true_eq]
  · rw [ByKey.of_key_ne hkey]
    simp only [if_neg hkey, decide_eq_true_eq]

/-- Sorting rows loses none and adds none. -/
theorem perm_sortedBy (key : ρ → SortKey) (order : SortOrder) (rows : List ρ) :
    (sortedBy key order rows).Perm rows :=
  List.mergeSort_perm _ _

/-- Sorting rows by time loses none and adds none. -/
theorem perm_newestFirst (time : ρ → String) (rows : List ρ) :
    (newestFirst time rows).Perm rows :=
  List.mergeSort_perm _ _

end Orders

/-! ## Pages -/

section Pages

variable {ρ : Type} {n : Nat} {rows : List ρ} {j : Nat}

/-- The rows of page `j`, if each page holds `n` of them. -/
def slice (n : Nat) (rows : List ρ) (j : Nat) : List ρ := (rows.drop (j * n)).take n

/-- The number of pages. -/
def pageCount (n total : Nat) : Nat := (total + n - 1) / n

/-- The first pages together are the first rows. -/
theorem flatten_slice (n : Nat) (rows : List ρ) (k : Nat) :
    ((List.range k).map (slice n rows)).flatten = rows.take (k * n) := by
  induction k with
  | zero => simp
  | succ k ih =>
      rw [List.range_succ, List.map_append, List.flatten_append, ih, Nat.succ_mul, List.take_add]
      simp [slice]

variable (hn : 0 < n)
include hn

/-- There are at most so many pages if these hold all rows. -/
theorem pageCount_le {total : Nat} : pageCount n total ≤ j ↔ total ≤ j * n := by
  simp only [pageCount]
  rw [Nat.div_le_iff_le_mul_add_pred hn, Nat.mul_comm n j]
  omega

/-- All pages together are the listing. -/
theorem flatten_slice_pageCount (rows : List ρ) :
    ((List.range (pageCount n rows.length)).map (slice n rows)).flatten = rows := by
  rw [flatten_slice]
  exact List.take_of_length_le ((pageCount_le hn).mp (Nat.le_refl _))

/-- All pages before the last one are full. -/
theorem length_slice (h : j + 1 < pageCount n rows.length) : (slice n rows j).length = n := by
  have hmore : ¬ rows.length ≤ (j + 1) * n := fun hle =>
    Nat.not_le_of_lt h ((pageCount_le hn).mpr hle)
  rw [Nat.succ_mul] at hmore
  simp only [slice, List.length_take, List.length_drop]
  omega

/-- The pages from the number of pages on are empty, and only they are. -/
theorem slice_eq_nil : slice n rows j = [] ↔ pageCount n rows.length ≤ j := by
  rw [pageCount_le hn, slice, List.take_eq_nil_iff, List.drop_eq_nil_iff]
  omega

/-- A page is the last one unless some page after it has rows. -/
theorem exists_later_slice :
    (∃ i, j < i ∧ slice n rows i ≠ []) ↔ j + 1 < pageCount n rows.length := by
  constructor
  · rintro ⟨i, hi, hrows⟩
    rw [ne_eq, slice_eq_nil hn] at hrows
    omega
  · intro h
    refine ⟨j + 1, Nat.lt_succ_self j, ?_⟩
    rw [ne_eq, slice_eq_nil hn]
    omega

end Pages

/-! ## Reading -/

/-- All of a list can be computed if each of its elements can. -/
theorem mapM_ok_iff {ε α β : Type} {f : α → Except ε β} {as : List α} {bs : List β} :
    as.mapM f = .ok bs ↔ List.Forall₂ (fun a b => f a = .ok b) as bs := by
  induction as generalizing bs with
  | nil =>
      rw [List.mapM_nil, List.forall₂_nil_left_iff]
      exact ⟨fun h => (Except.ok.inj h).symm, fun h => h ▸ rfl⟩
  | cons a as ih =>
      rw [List.mapM_cons, List.forall₂_cons_left_iff]
      constructor
      · intro h
        obtain ⟨b, hb, h⟩ := ok_of_bind h
        obtain ⟨cs, hcs, h⟩ := ok_of_bind h
        exact ⟨b, cs, hb, ih.mp hcs, (Except.ok.inj h).symm⟩
      · rintro ⟨b, cs, hb, hcs, rfl⟩
        rw [hb, ih.mpr hcs]
        rfl

/-- Every outcome is that of some element. -/
theorem exists_of_forall₂ {α β : Type} {R : α → β → Prop} {as : List α} {bs : List β}
    (h : List.Forall₂ R as bs) {b : β} (hb : b ∈ bs) : ∃ a ∈ as, R a b := by
  induction h with
  | nil => cases hb
  | @cons a first as bs hab _ ih =>
      rcases List.mem_cons.mp hb with rfl | hb
      · exact ⟨a, List.mem_cons_self, hab⟩
      · obtain ⟨a, ha, hab⟩ := ih hb
        exact ⟨a, List.mem_cons_of_mem _ ha, hab⟩

/-- Every element has an outcome. -/
theorem exists_of_mem_forall₂ {α β : Type} {R : α → β → Prop} {as : List α} {bs : List β}
    (h : List.Forall₂ R as bs) {a : α} (ha : a ∈ as) : ∃ b ∈ bs, R a b :=
  exists_of_forall₂ (List.Forall₂.flip h) ha

/-- What agrees for every element and its outcome agrees for the lists of them. -/
theorem map_eq_of_forall₂ {α β γ : Type} {R : α → β → Prop} {f : α → γ} {g : β → γ} {as : List α}
    {bs : List β} (h : List.Forall₂ R as bs) (hsame : ∀ a ∈ as, ∀ b, R a b → g b = f a) :
    bs.map g = as.map f := by
  induction h with
  | nil => rfl
  | @cons a b as bs hab _ ih =>
      rw [List.map_cons, List.map_cons, hsame a List.mem_cons_self b hab,
        ih fun c hc => hsame c (List.mem_cons_of_mem a hc)]

/-- A list is mapped as a whole exactly if each of its members is. -/
theorem exists_mapM_iff {ε α β : Type} {f : α → Except ε β} {as : List α} :
    (∃ bs, as.mapM f = .ok bs) ↔ ∀ a ∈ as, ∃ b, f a = .ok b := by
  induction as with
  | nil => exact ⟨fun _ _ h => (by cases h), fun _ => ⟨[], rfl⟩⟩
  | cons a as ih =>
      rw [List.forall_mem_cons, ← ih]
      constructor
      · rintro ⟨bs, h⟩
        obtain ⟨b, cs, hb, hcs, -⟩ := List.forall₂_cons_left_iff.mp (mapM_ok_iff.mp h)
        exact ⟨⟨b, hb⟩, cs, mapM_ok_iff.mpr hcs⟩
      · rintro ⟨⟨b, hb⟩, cs, hcs⟩
        exact ⟨b :: cs, mapM_ok_iff.mpr (.cons hb (mapM_ok_iff.mp hcs))⟩

/-! ## Rows that are replaced -/

/-- What comes after a computation goes on in step with what comes after the same computation. -/
theorem bind_eq_map_bind {ε α β γ : Type} {x : Except ε α} {f : α → Except ε γ}
    {g : α → Except ε β} {h : β → γ} (hfg : ∀ a, f a = (g a).map h) :
    (x >>= f) = (x >>= g).map h := by
  cases x with
  | ok a => exact hfg a
  | error e => rfl

namespace Table

variable {ρ : Type} {f : ρ → ρ}

/-- The table with each row replaced. -/
def mapRows (f : ρ → ρ) (t : Table ρ) : Table ρ := { t with rows := t.rows.map f }

variable [Row ρ] (hid : ∀ r : ρ, Row.id (f r) = Row.id r) (t : Table ρ)
include hid

/-- A row is found under its id after its replacement as before. -/
theorem find?_mapRows (id : Int) : (t.mapRows f).find? id = (t.find? id).map f := by
  simp only [mapRows, find?, List.find?_map, Function.comp_def, hid]

/-- The other rows are replaced like all. -/
theorem others_mapRows (id : Int) : (t.mapRows f).others id = (t.others id).map f := by
  simp only [mapRows, others, List.filter_map, Function.comp_def, hid]

/-- Replacing rows uses up no id. -/
theorem nextId?_mapRows : (t.mapRows f).nextId? = t.nextId? := by
  have htop : (t.mapRows f).topId? = t.topId? := by
    rw [topId?, topId?, mapRows, List.map_map]
    exact congrArg _ (List.map_congr_left fun r _ => hid r)
  simp only [nextId?, htop]
  rfl

/-- Inserting a replaced row into replaced rows is inserting the row and then replacing. -/
theorem insert_mapRows (make : Int → ρ) {acceptable : ρ → List ρ → Bool}
    (hacceptable : ∀ r rows, acceptable (f r) (rows.map f) = acceptable r rows) :
    (t.mapRows f).insert (fun id => f (make id)) acceptable
      = (t.insert make acceptable).map (Prod.map f (mapRows f)) := by
  simp only [insert, nextId?_mapRows hid]
  cases t.nextId? with
  | none => rfl
  | some id =>
      show (if acceptable (f (make id)) (t.rows.map f) then _ else _) = _
      rw [hacceptable]
      by_cases h : acceptable (make id) t.rows = true
      · simp only [if_pos h, Except.map, Prod.map, append, mapRows, List.map_append, List.map_cons,
          List.map_nil, hid]
      · simp only [if_neg h, Except.map]

/-- A change that goes with the replacement can be made after it as well as before. -/
theorem modify_mapRows (target : Int) {condition condition' : ρ → Bool} {change change' : ρ → ρ}
    {acceptable : ρ → List ρ → Bool} (hcondition : ∀ r, condition' (f r) = condition r)
    (hchange : ∀ r, change' (f r) = f (change r))
    (hacceptable : ∀ r rows, acceptable (f r) (rows.map f) = acceptable r rows) :
    (t.mapRows f).modify target condition' change' acceptable
      = (t.modify target condition change acceptable).map (Prod.map id (mapRows f)) := by
  simp only [modify, find?_mapRows hid]
  cases t.find? target with
  | none => rfl
  | some r =>
      simp only [Option.map_some, hcondition, hchange, others_mapRows hid, hacceptable]
      by_cases hr : condition r = true
      · by_cases h : acceptable (change r) (t.others target) = true
        · simp only [if_pos hr, if_pos h, Except.map, Prod.map, mapRows, List.map_map]
          congr 4
          funext s
          simp only [Function.comp_apply, hid]
          split <;> simp [hchange]
        · simp only [if_pos hr, if_neg h, Except.map]
      · simp only [if_neg hr, Except.map, Prod.map, id]

end Table

/-- An order that does not look at what is replaced stays as it is. -/
theorem sortedBy_map {ρ : Type} [Row ρ] {f : ρ → ρ} (hid : ∀ r : ρ, Row.id (f r) = Row.id r)
    {key : ρ → SortKey} (hkey : ∀ r, key (f r) = key r) (order : SortOrder) (rows : List ρ) :
    sortedBy key order (rows.map f) = (sortedBy key order rows).map f := by
  refine (List.map_mergeSort fun a _ b _ => ?_).symm
  simp only [hkey, hid]

/-- Nor does the order by time. -/
theorem newestFirst_map {ρ : Type} [Row ρ] {f : ρ → ρ} (hid : ∀ r : ρ, Row.id (f r) = Row.id r)
    {time : ρ → String} (htime : ∀ r, time (f r) = time r) (rows : List ρ) :
    newestFirst time (rows.map f) = (newestFirst time rows).map f := by
  refine (List.map_mergeSort fun a _ b _ => ?_).symm
  simp only [htime, hid]

/-- The rows of a page are replaced like those that it is cut from. -/
theorem pageOf_map {ρ : Type} (f : ρ → ρ) (p : PageRequest) (rows : List ρ) :
    pageOf p (rows.map f) = (pageOf p rows).map (List.map f) := by
  simp only [pageOf]
  split
  · simp only [Except.map, List.map_drop, List.map_take]
  · rfl

end RobotMaze
