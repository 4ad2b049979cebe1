import RobotMaze.Json.Decoder

/-! # Arrays — reading back what is written item by item

    An array is written as its items with commas between them, in brackets.
    Whatever the items are, if each of them is read back in front of a comma or
    a bracket then so are all of them in a row (`itemsAt_intersperse`) and the
    array (`valueAt_brackets`), and a decoder that takes every item takes the
    list (`items_map`). -/

namespace RobotMaze.Json

namespace Reading

theorem ofItems_eq_map (items : List Json) : ofItems items = items.map ofJson := by
  induction items with
  | nil => rfl
  | cons item rest ih => rw [ofItems, ih, List.map_cons]

theorem ofMembers_eq_map (members : List (String × Json)) :
    ofMembers members = members.map fun m => (m.1, ofJson m.2) := by
  induction members with
  | nil => rfl
  | cons m rest ih => rw [ofMembers, ih, List.map_cons]

/-- The characters that end an item of an array. -/
def endsItem (c : Char) : Prop := c = ',' ∨ c = ']'

/-- A reader of items reads each in front of what ends an item, given so much fuel. -/
def ReadsBack {α : Type} (chars : α → List Char) (reading : α → Reading) (need : Nat)
    (items : List α) : Prop :=
  ∀ a ∈ items, ∀ (fuel : Nat) (c : Char) (rest : List Char), need ≤ fuel → endsItem c →
    valueAt fuel (chars a ++ c :: rest) = (reading a, c :: rest)

variable {α : Type} {chars : α → List Char} {reading : α → Reading} {need : Nat}

theorem skipSpace_of_endsItem {c : Char} (h : endsItem c) (rest : List Char) :
    skipSpace (c :: rest) = c :: rest := by
  rcases h with rfl | rfl <;> rfl

/-- One item and the bracket after it. -/
theorem itemsAt_last {a : α} {items : List α} (h : ReadsBack chars reading need (a :: items))
    {fuel : Nat} (hfuel : need + 1 ≤ fuel) (rest : List Char) :
    itemsAt fuel (chars a ++ ']' :: rest) = ([reading a], true, rest) := by
  obtain ⟨k, rfl⟩ : ∃ k, fuel = k + 1 := ⟨fuel - 1, by omega⟩
  have hread := h a List.mem_cons_self k ']' rest (by omega) (Or.inr rfl)
  rw [itemsAt, hread]
  simp only [skipSpace_of_endsItem (Or.inr rfl)]

/-- One item, the comma after it and the items after that. -/
theorem itemsAt_cons {a : α} {items : List α} (h : ReadsBack chars reading need (a :: items))
    {fuel : Nat} (hfuel : need ≤ fuel) (rest : List Char) :
    itemsAt (fuel + 1) (chars a ++ ',' :: rest)
      = (reading a :: (itemsAt fuel rest).1, (itemsAt fuel rest).2) := by
  have hread := h a List.mem_cons_self fuel ',' rest hfuel (Or.inl rfl)
  rw [itemsAt, hread]
  simp only [skipSpace_of_endsItem (Or.inl rfl)]

/-- Items with commas between them are read back up to the bracket that closes the array. -/
theorem itemsAt_intersperse {a : α} {items : List α}
    (h : ReadsBack chars reading need (a :: items)) {fuel : Nat}
    (hfuel : need + items.length + 1 ≤ fuel) (rest : List Char) :
    itemsAt fuel ((((a :: items).map chars).intersperse [',']).flatten ++ ']' :: rest)
      = ((a :: items).map reading, true, rest) := by
  induction items generalizing a fuel with
  | nil =>
      have hone : ((([a].map chars).intersperse [',']).flatten) = chars a := by simp
      rw [hone]
      exact itemsAt_last h (by simpa using hfuel) rest
  | cons b items ih =>
      obtain ⟨k, rfl⟩ : ∃ k, fuel = k + 1 := ⟨fuel - 1, by omega⟩
      have htail : ReadsBack chars reading need (b :: items) :=
        fun x hx => h x (List.mem_cons_of_mem a hx)
      have hsplit : ((((a :: b :: items).map chars).intersperse [',']).flatten ++ ']' :: rest)
          = chars a ++ ',' :: ((((b :: items).map chars).intersperse [',']).flatten
            ++ ']' :: rest) := by
        simp
      rw [List.length_cons] at hfuel
      rw [hsplit, itemsAt_cons h (by omega), ih htail (by omega)]
      rfl

/-- What follows an opening bracket is the closing one or the items. -/
theorem valueAt_open (fuel : Nat) (cs : List Char) :
    valueAt (fuel + 1) ('[' :: cs) =
      match skipSpace cs with
      | ']' :: rest => (.array [] true, rest)
      | _ => (.array (itemsAt fuel cs).1 (itemsAt fuel cs).2.1, (itemsAt fuel cs).2.2) :=
  rfl

/-- Items in brackets are read back as an array, if the first begins like a value. -/
theorem valueAt_brackets {a : α} {items : List α}
    (h : ReadsBack chars reading need (a :: items)) {first : Char} {more : List Char}
    (hfirst : chars a = first :: more) (hspace : isSpace first = false) (hclose : first ≠ ']')
    {fuel : Nat} (hfuel : need + items.length + 2 ≤ fuel) (rest : List Char) :
    valueAt fuel ('[' :: (((a :: items).map chars).intersperse [',']).flatten ++ ']' :: rest)
      = (.array ((a :: items).map reading) true, rest) := by
  obtain ⟨k, rfl⟩ : ∃ k, fuel = k + 1 := ⟨fuel - 1, by omega⟩
  have hitems := itemsAt_intersperse h (show need + items.length + 1 ≤ k by omega) rest
  generalize hbody : (((a :: items).map chars).intersperse [',']).flatten ++ ']' :: rest = body
    at hitems
  -- the first item begins like a value, so the array is not taken for an empty one
  obtain ⟨tail, hhead⟩ : ∃ tail, body = first :: tail := by
    rw [← hbody]
    cases items <;> simp [hfirst]
  have hskip : skipSpace body = first :: tail := by
    rw [hhead]
    simp [skipSpace, hspace]
  rw [List.cons_append, hbody]
  show valueAt (k + 1) ('[' :: body) = _
  rw [valueAt_open, hskip, hitems]
  split
  · rename_i heq
    exact absurd (List.cons.inj heq).1 hclose
  · rfl

end Reading

/-- A decoder that takes every item takes the list of them. -/
theorem Decoder.items_map {α β : Type} {d : Decoder β} {reading : α → Reading} {value : α → β}
    {items : List α} (h : ∀ a ∈ items, d (reading a) = .ok (value a)) :
    Decoder.items d (items.map reading) = .ok (items.map value) := by
  induction items with
  | nil => rfl
  | cons a items ih =>
      obtain ⟨ha, hitems⟩ := List.forall_mem_cons.mp h
      rw [List.map_cons, List.map_cons, Decoder.items, ha, ih hitems]
      rfl

/-- A decoder that takes every item takes the array of them. -/
theorem Decoder.list_array {α β : Type} {d : Decoder β} {reading : α → Reading} {value : α → β}
    {items : List α} (h : ∀ a ∈ items, d (reading a) = .ok (value a)) :
    Decoder.list d (.array (items.map reading) true) = .ok (items.map value) := by
  rw [Decoder.list, Decoder.items_map h]
  rfl

end RobotMaze.Json
