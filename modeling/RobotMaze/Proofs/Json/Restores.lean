import RobotMaze.Proofs.Json.Items
import RobotMaze.Proofs.Json.Layout
import RobotMaze.Proofs.Json.Records
import RobotMaze.Proofs.Keyed
import RobotMaze.Proofs.Ranges
import RobotMaze.Proofs.Time.Order
import RobotMaze.Proofs.Time.Written

/-! # Writing and reading back

    A decoder restores a value from its JSON form if it takes that form for the
    value and no number is lost when the form becomes a text.

    * `Decoder.Restores` — a value is restored, with one rule for each kind of
      value (`Restores.string`, `Restores.optional`, `Restores.list`, …);
    * `Record.Writes` — each field of a record restores its part of the value;
    * `Restores.record` — so the record restores the whole;
    * `Restores.decode_eq` — what is restored is decoded from either text.

    A text may also be parsed to a value first, whose members are in key order, if values
    do not nest too deeply in it:

    * `NestsWithin` — how deeply a value nests;
    * `value?_ofJson` — what is read is the value with its members sorted;
    * `parse?_laidOut` — so a text of a value is parsed to it, sorted;
    * `perm_sortedMembers` — sorting keeps members of different names;
    * `decodeValue_sorted` — so a record takes its object sorted as well. -/

namespace RobotMaze

namespace Json

open Reading (ofJson)
open Time (Instant)

variable {α β κ : Type}

/-- A value is restored from its JSON form: nothing of the form is lost in its texts, and it is
    taken for the value. -/
structure Decoder.Restores (d : Decoder α) (j : Json) (a : α) : Prop where
  exact : j.Exact
  decoded : decodeValue d j = .ok a

/-- What both texts of a JSON form are decoded to. -/
def TextsDecodeTo (d : Decoder α) (j : Json) (a : α) : Prop :=
  decode d j.render = .ok a ∧ decode d j.renderIndented = .ok a

namespace Decoder

/-- What is restored is decoded from either text. -/
theorem Restores.decode_eq {d : Decoder α} {j : Json} {a : α} (h : d.Restores j a) :
    TextsDecodeTo d j a := by
  have htext := fun l => decode_laidOut d l h.exact (List.forall_mem_nil _)
  simp only [List.append_nil] at htext
  refine ⟨?_, ?_⟩
  · rw [render_eq, htext, h.decoded]
  · rw [renderIndented_eq, htext, h.decoded]

namespace Restores

/-! ## One value -/

theorem string (s : String) : Decoder.string.Restores (.string s) s := ⟨trivial, rfl⟩

theorem bool (b : Bool) : Decoder.bool.Restores (.bool b) b := ⟨trivial, rfl⟩

/-- A number of 64 bits with a sign is restored. -/
theorem int64 {n : Int} (h : IsInt64 n) : Decoder.int64.Restores (.whole n) n :=
  ⟨⟨h.1, Int.le_trans (Int.le_of_lt h.2) (by decide)⟩,
    within_whole h.1 (Int.le_of_lt_add_one h.2)⟩

/-- A number of 32 bits with a sign is restored. -/
theorem int32 {n : Int} (h : IsInt32 n) : Decoder.int32.Restores (.whole n) n :=
  ⟨⟨Int.le_trans (by decide) h.1, Int.le_trans (Int.le_of_lt h.2) (by decide)⟩,
    within_whole h.1 (Int.le_of_lt_add_one h.2)⟩

/-- A natural number below a bound is restored, if the bound is within 64 bits. -/
theorem below {n bound : Nat} (h : n < bound) (hbound : bound ≤ 0x10000000000000000) :
    (Decoder.below bound).Restores (.count n) n := by
  refine ⟨⟨by omega, by omega⟩, ?_⟩
  show (if 0 ≤ (n : Int) ∧ (n : Int) < bound then _ else _) = _
  rw [if_pos ⟨Int.natCast_nonneg n, Int.ofNat_lt.mpr h⟩]
  rfl

/-- A number of 64 bits without a sign is restored. -/
theorem count {n : Nat} (h : IsCount64 n) : Decoder.count.Restores (.count n) n :=
  below h (Nat.le_refl _)

/-- A number of 32 bits is the count that is read. -/
theorem uint32_of_below {j : Json} {n : UInt32}
    (h : decodeValue (Decoder.below 0x100000000) j = .ok n.toNat) :
    decodeValue Decoder.uint32 j = .ok n := by
  show (decodeValue (Decoder.below 0x100000000) j).map UInt32.ofNat = _
  rw [h, Except.map, UInt32.ofNat_toNat]

theorem uint32 (n : UInt32) : Decoder.uint32.Restores (.count n.toNat) n := by
  have hlt : n.toNat < 0x100000000 := n.toNat_lt
  obtain ⟨hexact, hdecoded⟩ := below hlt (by decide)
  exact ⟨hexact, uint32_of_below hdecoded⟩

/-- A value of an enumeration is restored from its name. -/
theorem name [Named α] {a : α} (h : Named.ofName? (Named.name a) = some a) :
    Named.decoder.Restores (Named.toJson a) a :=
  ⟨trivial, name_toJson h⟩

/-- A clock reading is restored from its text. -/
theorem instant {t : Instant} (h : t.IsReading) : Instant.decoder.Restores t.toJson t := by
  refine ⟨trivial, Instant.decoder_string ?_⟩
  rw [Instant.ofLoose?_render h.1, Instant.written_eq h.2]

/-- A value that may be missing is restored if it is when it is there, as no form of one is
    `null`. -/
theorem optional {d : Decoder α} {encode : α → Json} {a : Option α}
    (hnull : ∀ x, encode x ≠ .null) (h : ∀ x ∈ a, d.Restores (encode x) x) :
    (nullable d).Restores (.optional encode a) a := by
  refine ⟨?_, nullable_optional fun x hx => ⟨(h x hx).decoded, hnull x⟩⟩
  cases a with
  | none => trivial
  | some x => exact (h x rfl).exact

/-- A text that may be missing. -/
theorem text (s : Option String) : (nullable Decoder.string).Restores (.optional .string s) s :=
  optional (fun _ => Json.noConfusion) fun x _ => string x

/-! ## Many values -/

/-- A list is restored if its items are. -/
theorem list {d : Decoder α} {encode : α → Json} {items : List α}
    (h : ∀ a ∈ items, d.Restores (encode a) a) : (list d).Restores (.list encode items) items := by
  refine ⟨exactItems_iff.mpr fun j hj => ?_, ?_⟩
  · obtain ⟨a, ha, rfl⟩ := List.mem_map.mp hj
    exact (h a ha).exact
  · show Decoder.list d (.array (Reading.ofItems (items.map encode)) true) = _
    rw [Reading.ofItems_eq_map, List.map_map]
    refine (list_array fun a ha => (h a ha).decoded).trans ?_
    rw [List.map_id']

/-- The entries of an object with arbitrary keys, if each key is read back from its name. -/
theorem table {key : String → Option κ} {d : Decoder α} {name : κ → String} {encode : α → Json}
    {entries : List (κ × α)} (hkey : ∀ e ∈ entries, key (name e.1) = some e.1)
    (h : ∀ e ∈ entries, d.Restores (encode e.2) e.2) :
    (table key d).Restores (.object (entries.map fun e => (name e.1, encode e.2))) entries := by
  refine ⟨exactMembers_iff.mpr fun m hm => ?_, ?_⟩
  · obtain ⟨e, he, rfl⟩ := List.mem_map.mp hm
    exact (h e he).exact
  · have hentries : Decoder.entries key d
        (Reading.ofMembers (entries.map fun e => (name e.1, encode e.2))) = .ok entries := by
      induction entries with
      | nil => rfl
      | cons e rest ih =>
          obtain ⟨hfirst, hrest⟩ := List.forall_mem_cons.mp hkey
          obtain ⟨hvalue, hmore⟩ := List.forall_mem_cons.mp h
          have hdecoded : d (ofJson (encode e.2)) = .ok e.2 := hvalue.decoded
          simp only [List.map_cons, Reading.ofMembers, Decoder.entries, hfirst]
          rw [hdecoded, ih hrest hmore]
          rfl
    show Decoder.table key d (.object (Reading.ofMembers _) true) = _
    simp only [Decoder.table]
    rw [hentries]
    rfl

/-- Entries that are in key order stay as they are. -/
theorem keyed [LT κ] [DecidableLT κ] [DecidableEq κ] {d : Decoder (List (κ × α))} {j : Json}
    {entries : List (κ × α)} (hasymm : ∀ {k l : κ}, k < l → ¬ l < k)
    (hsorted : (entries.map Prod.fst).Pairwise (· < ·)) (h : d.Restores j entries) :
    Restores (fun r => (d r).map Keyed.ofList) j entries := by
  refine ⟨h.exact, ?_⟩
  show (decodeValue d j).map Keyed.ofList = _
  rw [h.decoded]
  exact congrArg _ (Keyed.ofList_eq_self hasymm hsorted)

end Restores

end Decoder

/-! ## Records -/

namespace Record

/-- Each field of a record restores its part of a value from the member of its name, or does without
    one. -/
structure Writes (r : Record α) (slots : List (String × Option Json)) (a : α) : Prop where
  exact : ∀ m ∈ present slots, m.2.Exact
  takes : r.Takes (slots.map fun slot => (slot.1, slot.2.map ofJson)) a

/-- A record without fields is written as no members. -/
theorem writes_pure (a : α) : Writes (Pure.pure a : Record α) [] a :=
  ⟨List.forall_mem_nil _, takes_pure a⟩

/-- Two parts of a record write their members one after the other. -/
theorem Writes.seq {f : Record (α → β)} {x : Record α} {slots more : List (String × Option Json)}
    {g : α → β} {a : α} (hf : f.Writes slots g) (hx : x.Writes more a) :
    Writes (f <*> x) (slots ++ more) (g a) := by
  refine ⟨fun m hm => ?_, ?_⟩
  · simp only [present, List.filterMap_append, List.mem_append] at hm
    exact hm.elim (hf.exact m) (hx.exact m)
  · rw [List.map_append]
    exact hf.takes.seq hx.takes

/-- A mapped part writes the same members. -/
theorem Writes.map {x : Record α} {slots : List (String × Option Json)} {a : α}
    (hx : x.Writes slots a) (f : α → β) : Writes (f <$> x) slots (f a) :=
  (writes_pure f).seq hx

section Fields

variable (name : String) {d : Decoder α} {j : Json} {a : α}

/-- A field restores its value from the member of its name, whatever a missing one means. -/
theorem writes_field {ifAbsent ifShort : Except Fault α} (h : d.Restores j a) :
    Writes (field name d ifAbsent ifShort) [(name, some j)] a :=
  ⟨List.forall_mem_singleton.mpr h.exact, takes_field h.decoded⟩

/-- A field that is needed is written with its value. -/
theorem writes_required (h : d.Restores j a) : Writes (required name d) [(name, some j)] a :=
  writes_field name h

/-- A field with a standard value is written all the same. -/
theorem writes_defaulted (value : α) (h : d.Restores j a) :
    Writes (defaulted name d value) [(name, some j)] a :=
  writes_field name h

/-- A field that may be null is written, as null where it is missing. -/
theorem writes_optional {a : Option α} (h : (Decoder.nullable d).Restores j a) :
    Writes (optional name d) [(name, some j)] a :=
  writes_field name h

/-- A field that may be left out is written all the same. -/
theorem writes_omittable {a : Option α} (h : (Decoder.nullable d).Restores j a) :
    Writes (omittable name d) [(name, some j)] a :=
  writes_field name h

/-- A field whose member is left out when there is no value. -/
theorem writes_skipped {encode : α → Json} {a : Option α} (hnull : ∀ x, encode x ≠ .null)
    (h : ∀ x ∈ a, d.Restores (encode x) x) :
    Writes (omittable name d) [(name, a.map encode)] a := by
  cases a with
  | none => exact ⟨List.forall_mem_nil _, takes_absent name _ _ none⟩
  | some x => exact writes_omittable name (.optional hnull h)

end Fields

end Record

/-- A record takes the members that are there in any order, if no two fields have one name. -/
theorem Record.Writes.decoder_object {r : Record α} {slots : List (String × Option Json)} {a : α}
    {members : List (String × Json)} (h : r.Writes slots a) (hnames : (slots.map Prod.fst).Nodup)
    (hmembers : members.Perm (Record.present slots)) :
    decodeValue r.decoder (.object members) = .ok a := by
  have hread : (slots.map fun slot => (slot.1, slot.2.map ofJson)).map Prod.fst
      = slots.map Prod.fst := by
    rw [List.map_map]
    rfl
  show r.decoder (.object (Reading.ofMembers members) true) = _
  refine Record.decoder_of_takes h.takes (hread ▸ hnames) ?_
  rw [Reading.ofMembers_eq_map, Record.present_map]
  exact hmembers.map _

/-- A record restores a value from the members that are there. -/
theorem Decoder.Restores.record {r : Record α} {slots : List (String × Option Json)}
    {members : List (String × Json)} {a : α} (h : r.Writes slots a)
    (hnames : (slots.map Prod.fst).Nodup) (hmembers : Record.present slots = members) :
    r.decoder.Restores (.object members) a :=
  ⟨exactMembers_iff.mpr (hmembers ▸ h.exact), h.decoder_object hnames (hmembers ▸ List.Perm.refl _)⟩

end Json

end RobotMaze

/-! ## Nested and in key order -/

namespace RobotMaze.Json

open Reading

/-- Values nest at most so many levels deep. -/
def NestsWithin : Nat → Json → Prop
  | 0, .array _ => False
  | 0, .object _ => False
  | depth + 1, .array items => ∀ item ∈ items, NestsWithin depth item
  | depth + 1, .object members => ∀ m ∈ members, NestsWithin depth m.2
  | _, _ => True

namespace Reading

/-- Items become values one by one. -/
theorem values?_ofItems {depth : Nat} {items : List Json}
    (h : ∀ item ∈ items, (ofJson item).value? depth = some item.sorted) :
    values? depth (ofItems items) = some (sortedItems items) := by
  induction items with
  | nil => rfl
  | cons item rest ih =>
      simp only [ofItems, values?, sortedItems]
      rw [h item List.mem_cons_self, ih fun j hj => h j (List.mem_cons_of_mem item hj)]

/-- Members become values one by one and are put in order. -/
theorem members?_ofMembers {depth : Nat} {done members : List (String × Json)}
    (h : ∀ m ∈ members, (ofJson m.2).value? depth = some m.2.sorted) :
    members? depth done (ofMembers members) = some (sortedMembers done members) := by
  induction members generalizing done with
  | nil => rfl
  | cons m rest ih =>
      simp only [ofMembers, members?, sortedMembers]
      rw [h m List.mem_cons_self]
      exact ih fun n hn => h n (List.mem_cons_of_mem m hn)

/-- What is read of a value is the value with its members in key order. -/
theorem value?_ofJson {j : Json} {depth : Nat} (h : j.NestsWithin depth) :
    (ofJson j).value? depth = some j.sorted := by
  induction j using Json.inductionOn generalizing depth with
  | null => rfl
  | bool b => rfl
  | number n => rfl
  | string s => rfl
  | array items ih =>
      cases depth with
      | zero => exact h.elim
      | succ depth =>
          have hitems := @values?_ofItems depth items fun item hitem =>
            ih item hitem (h item hitem)
          simp only [ofJson, value?, sorted, hitems]
          rfl
  | object members ih =>
      cases depth with
      | zero => exact h.elim
      | succ depth =>
          have hmembers := @members?_ofMembers depth [] members fun m hm =>
            ih m hm (h m hm)
          simp only [ofJson, value?, sorted, hmembers]
          rfl

end Reading

/-- Either text of a value is parsed to the value with its members in key order. -/
theorem parse?_laidOut (l : Layout) {j : Json} (hj : j.Exact) (hdepth : j.NestsWithin maxDepth) :
    parse? (String.ofList (laidOut l 0 j)) = some j.sorted := by
  have hread := ofChars_laidOut l hj (List.forall_mem_nil _)
  rw [List.append_nil] at hread
  simp only [parse?]
  rw [String.toList_ofList, hread]
  exact value?_ofJson hdepth

/-! ### Key order -/

/-- Items are put in order each by itself. -/
theorem sortedItems_eq_map (items : List Json) : sortedItems items = items.map sorted := by
  induction items with
  | nil => rfl
  | cons item rest ih => rw [sortedItems, ih, List.map_cons]

/-- Members of different names are all kept. -/
theorem perm_sortedMembers {done members : List (String × Json)}
    (hnames : ((members ++ done).map Prod.fst).Nodup) :
    (sortedMembers done members).Perm (members.map (fun m => (m.1, m.2.sorted)) ++ done) := by
  induction members generalizing done with
  | nil => exact List.Perm.refl _
  | cons m rest ih =>
      obtain ⟨k, v⟩ := m
      rw [List.cons_append, List.map_cons, List.nodup_cons] at hnames
      obtain ⟨hk, hrest⟩ := hnames
      have hinsert : (Keyed.insert k v.sorted done).Perm ((k, v.sorted) :: done) :=
        Keyed.perm_insert fun hdone => hk (by
          rw [List.map_append]
          exact List.mem_append_right _ hdone)
      have hperm : (rest ++ Keyed.insert k v.sorted done).Perm ((k, v.sorted) :: (rest ++ done)) :=
        (hinsert.append_left rest).trans List.perm_middle
      have hnext : ((rest ++ Keyed.insert k v.sorted done).map Prod.fst).Nodup := by
        rw [(hperm.map Prod.fst).nodup_iff, List.map_cons, List.nodup_cons]
        exact ⟨hk, hrest⟩
      simp only [sortedMembers]
      refine (ih hnext).trans ?_
      exact (hinsert.append_left _).trans List.perm_middle

/-- In what is neither array nor object there is nothing to be sorted. -/
theorem sorted_of_flat {j : Json} (h : j.NestsWithin 0) : j.sorted = j := by
  cases j <;> first | rfl | exact h.elim

/-- What does not nest at all nests within every depth. -/
theorem nestsWithin_of_flat {j : Json} (h : j.NestsWithin 0) (depth : Nat) :
    j.NestsWithin depth := by
  cases j <;> cases depth <;> trivial

/-- A record takes the members of its object in key order, if none of them is an array or an
    object. -/
theorem decodeValue_sorted {α : Type} {r : Record α} {slots : List (String × Option Json)} {a : α}
    (h : r.Writes slots a) (hnames : (slots.map Prod.fst).Nodup)
    (hflat : ∀ m ∈ Record.present slots, m.2.NestsWithin 0) :
    decodeValue r.decoder (Json.object (Record.present slots)).sorted = .ok a := by
  generalize hmembers : Record.present slots = members at hflat
  have hnodup : (members.map Prod.fst).Nodup :=
    hnames.sublist (hmembers ▸ Record.names_present slots)
  have hsame : members.map (fun m => (m.1, m.2.sorted)) = members := by
    refine (List.map_congr_left fun m hm => ?_).trans (List.map_id members)
    rw [sorted_of_flat (hflat m hm)]
    rfl
  have hperm : (sortedMembers [] members).Perm members := by
    have hsorted := @perm_sortedMembers [] members (by rwa [List.append_nil])
    rwa [hsame, List.append_nil] at hsorted
  exact h.decoder_object hnames (hmembers ▸ hperm)

end RobotMaze.Json
