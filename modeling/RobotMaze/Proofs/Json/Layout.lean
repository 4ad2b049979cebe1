import RobotMaze.Proofs.Json.Items
import RobotMaze.Proofs.Json.Number

/-! # Layouts — values written in different ways and read back

    The compact and the indented text of a value differ in their white space
    only, and the reader passes over that.  Strings may be written with other
    escapes too, as long as they are read back.

    * `Layout` — the white space of a text and its way to write strings, `laidOut` the
      text of a value with it;
    * `laidOut_compact`, `laidOut_indented` — the two printers are layouts;
    * `readingOf` — a value as it is read, which is the value itself where its numbers
      are exact (`readingOf_of_exact`);
    * `valueAt_laidOut` — it is read from the text of the value in any layout, in front
      of what ends a value;
    * `ofChars_readingOf`, `ofChars_laidOut` — and from the text alone. -/

namespace RobotMaze.Json

open Reading

/-- The white space of a text — in front of what stands at a depth, and between a name and its
    value — and its strings. -/
structure Layout where
  gap : Nat → List Char
  blanks : List Char
  text : String → List Char
  isSpace_gap : ∀ depth, ∀ c ∈ gap depth, isSpace c = true
  isSpace_blanks : ∀ c ∈ blanks, isSpace c = true
  /-- A string is read back from its text. -/
  quoted_text : ∀ s rest,
    ∃ body, text s ++ rest = '"' :: body ∧ quoted body = .closed (some s.toList) rest

namespace Layout

/-- No white space at all. -/
def compact : Layout where
  gap _ := []
  blanks := []
  text := quote
  isSpace_gap _ _ h := nomatch h
  isSpace_blanks _ h := nomatch h
  quoted_text := quoted_quote

/-- One item or member to a line. -/
def indented : Layout where
  gap := lineBreak
  blanks := [' ']
  text := quote
  quoted_text := quoted_quote
  isSpace_gap := by
    intro depth c hc
    rcases List.mem_cons.mp hc with rfl | hc
    · rfl
    · rw [List.eq_of_mem_replicate hc]
      rfl
  isSpace_blanks := by
    intro c hc
    rw [List.mem_singleton.mp hc]
    rfl

end Layout

section Printer

variable (l : Layout)

mutual

/-- The characters of a value at a depth. -/
def laidOut (depth : Nat) : Json → List Char
  | .array [] => ['[', ']']
  | .array (item :: rest) =>
      '[' :: (l.gap (depth + 1) ++ laidOut (depth + 1) item ++ laidItems depth rest)
  | .object [] => [openBrace, closeBrace]
  | .object ((k, v) :: rest) =>
      openBrace :: (l.gap (depth + 1) ++ l.text k ++ ':' :: (l.blanks ++ laidOut (depth + 1) v
        ++ laidMembers depth rest))
  | .null => chars .null
  | .bool b => chars (.bool b)
  | .number n => numberChars n
  | .string s => l.text s

/-- The items after the first, and the closing bracket. -/
def laidItems (depth : Nat) : List Json → List Char
  | [] => l.gap depth ++ [']']
  | item :: rest =>
      ',' :: (l.gap (depth + 1) ++ laidOut (depth + 1) item ++ laidItems depth rest)

/-- The members after the first, and the closing brace. -/
def laidMembers (depth : Nat) : List (String × Json) → List Char
  | [] => l.gap depth ++ [closeBrace]
  | (k, v) :: rest =>
      ',' :: (l.gap (depth + 1) ++ l.text k ++ ':' :: (l.blanks ++ laidOut (depth + 1) v
        ++ laidMembers depth rest))

end

end Printer

mutual

/-- Laid out without blanks, a value is its compact text. -/
theorem laidOut_compact (depth : Nat) : ∀ j, laidOut .compact depth j = chars j
  | .array [] => rfl
  | .array (item :: rest) => by
      simp only [laidOut, chars, laidOut_compact (depth + 1) item, laidItems_compact depth rest]
      rfl
  | .object [] => rfl
  | .object ((k, v) :: rest) => by
      simp only [laidOut, chars, laidOut_compact (depth + 1) v, laidMembers_compact depth rest]
      rfl
  | .null => rfl
  | .bool _ => rfl
  | .number _ => rfl
  | .string _ => rfl

theorem laidItems_compact (depth : Nat) : ∀ items, laidItems .compact depth items = itemChars items
  | [] => rfl
  | item :: rest => by
      simp only [laidItems, itemChars, laidOut_compact (depth + 1) item,
        laidItems_compact depth rest]
      rfl

theorem laidMembers_compact (depth : Nat) :
    ∀ members, laidMembers .compact depth members = memberChars members
  | [] => rfl
  | (k, v) :: rest => by
      simp only [laidMembers, memberChars, laidOut_compact (depth + 1) v,
        laidMembers_compact depth rest]
      rfl

end

mutual

/-- Laid out over lines, a value is its indented text. -/
theorem laidOut_indented (depth : Nat) : ∀ j, laidOut .indented depth j = indentedChars depth j
  | .array [] => rfl
  | .array (item :: rest) => by
      simp only [laidOut, indentedChars, laidOut_indented (depth + 1) item,
        laidItems_indented depth rest]
      rfl
  | .object [] => rfl
  | .object ((k, v) :: rest) => by
      simp only [laidOut, indentedChars, laidOut_indented (depth + 1) v,
        laidMembers_indented depth rest, List.append_assoc, List.cons_append, List.nil_append]
      rfl
  | .null => rfl
  | .bool _ => rfl
  | .number _ => rfl
  | .string _ => rfl

theorem laidItems_indented (depth : Nat) :
    ∀ items, laidItems .indented depth items = indentedItems depth items
  | [] => rfl
  | item :: rest => by
      simp only [laidItems, indentedItems, laidOut_indented (depth + 1) item,
        laidItems_indented depth rest]
      rfl

theorem laidMembers_indented (depth : Nat) :
    ∀ members, laidMembers .indented depth members = indentedMembers depth members
  | [] => rfl
  | (k, v) :: rest => by
      simp only [laidMembers, indentedMembers, laidOut_indented (depth + 1) v,
        laidMembers_indented depth rest, List.append_assoc, List.cons_append, List.nil_append]
      rfl

end

/-! ## Values that are read back -/

/-- What holds of an array if it holds of its items, and of an object if it holds of the values of
    its members, holds of every value. -/
@[elab_as_elim]
theorem inductionOn {P : Json → Prop} (j : Json) (null : P .null) (bool : ∀ b, P (.bool b))
    (number : ∀ n, P (.number n)) (string : ∀ s, P (.string s))
    (array : ∀ items, (∀ item ∈ items, P item) → P (.array items))
    (object : ∀ members, (∀ m ∈ members, P m.2) → P (.object members)) : P j := by
  refine @Json.rec P (fun items => ∀ item ∈ items, P item) (fun members => ∀ m ∈ members, P m.2)
    (fun m => P m.2) null bool number string array object ?_ ?_ ?_ ?_ ?_ j
  · exact fun _ h => nomatch h
  · exact fun item rest hitem hrest => List.forall_mem_cons.mpr ⟨hitem, hrest⟩
  · exact fun _ h => nomatch h
  · exact fun m rest hm hrest => List.forall_mem_cons.mpr ⟨hm, hrest⟩
  · exact fun _ _ hv => hv

mutual

/-- All numbers of a value are exact, so its text stands for it. -/
def Exact : Json → Prop
  | .number (.whole n) => IsExact n
  | .number (.float _) => False
  | .array items => ExactItems items
  | .object members => ExactMembers members
  | .null => True
  | .bool _ => True
  | .string _ => True

/-- All numbers of the items are exact. -/
def ExactItems : List Json → Prop
  | [] => True
  | item :: rest => Exact item ∧ ExactItems rest

/-- All numbers of the members are exact. -/
def ExactMembers : List (String × Json) → Prop
  | [] => True
  | (_, v) :: rest => Exact v ∧ ExactMembers rest

end

/-- Items are exact if each of them is. -/
theorem exactItems_iff {items : List Json} : ExactItems items ↔ ∀ j ∈ items, j.Exact := by
  induction items with
  | nil => simp [ExactItems]
  | cons j rest ih => simp [ExactItems, ih]

/-- Members are exact if the value of each of them is. -/
theorem exactMembers_iff {members : List (String × Json)} :
    ExactMembers members ↔ ∀ m ∈ members, m.2.Exact := by
  induction members with
  | nil => simp [ExactMembers]
  | cons m rest ih => simp [ExactMembers, ih]

/-! ## Values as they are read -/

mutual

/-- What a value is read as: the value itself, but for its numbers, which are read from their
    texts. -/
def readingOf : Json → Reading
  | .null => .null
  | .bool b => .bool b
  | .number n => readNumber n
  | .string s => .string s
  | .array items => .array (readingItems items) true
  | .object members => .object (readingMembers members) true

/-- What the items of an array are read as. -/
def readingItems : List Json → List Reading
  | [] => []
  | item :: rest => readingOf item :: readingItems rest

/-- What the members of an object are read as. -/
def readingMembers : List (String × Json) → List (String × Reading)
  | [] => []
  | (k, v) :: rest => (k, readingOf v) :: readingMembers rest

end

/-- Items are read one by one. -/
theorem readingItems_eq_map (items : List Json) : readingItems items = items.map readingOf := by
  induction items with
  | nil => rfl
  | cons item rest ih => rw [readingItems, ih, List.map_cons]

/-- Members are read one by one, under their names. -/
theorem readingMembers_eq_map (members : List (String × Json)) :
    readingMembers members = members.map fun m => (m.1, readingOf m.2) := by
  induction members with
  | nil => rfl
  | cons m rest ih => rw [readingMembers, ih, List.map_cons]

/-- Where all numbers are exact, a value is read as itself. -/
theorem readingOf_of_exact {j : Json} (hj : j.Exact) : readingOf j = ofJson j := by
  induction j using Json.inductionOn with
  | null => rfl
  | bool b => rfl
  | number n =>
      cases n with
      | whole n => exact readNumber_whole hj
      | float x => exact hj.elim
  | string s => rfl
  | array items ih =>
      have hitems : readingItems items = ofItems items := by
        rw [readingItems_eq_map, ofItems_eq_map]
        exact List.map_congr_left fun item hitem =>
          ih item hitem (exactItems_iff.mp hj item hitem)
      rw [readingOf, ofJson, hitems]
  | object members ih =>
      have hmembers : readingMembers members = ofMembers members := by
        rw [readingMembers_eq_map, ofMembers_eq_map]
        refine List.map_congr_left fun m hm => ?_
        rw [ih m hm (exactMembers_iff.mp hj m hm)]
      rw [readingOf, ofJson, hmembers]

/-- Items are read whole if each of them is. -/
theorem wholeItems_iff {items : List Reading} :
    wholeItems items = true ↔ ∀ r ∈ items, r.isWhole = true := by
  induction items with
  | nil => simp [wholeItems]
  | cons r rest ih => simp [wholeItems, ih]

/-- Members are read whole if each of them is. -/
theorem wholeMembers_iff {members : List (String × Reading)} :
    wholeMembers members = true ↔ ∀ m ∈ members, m.2.isWhole = true := by
  induction members with
  | nil => simp [wholeMembers]
  | cons m rest ih => simp [wholeMembers, ih]

/-- The text of a value is JSON to its end. -/
theorem isWhole_readingOf (j : Json) : (readingOf j).isWhole = true := by
  induction j using Json.inductionOn with
  | null => rfl
  | bool b => rfl
  | number n => exact isWhole_readNumber n
  | string s => rfl
  | array items ih =>
      have hitems : wholeItems (readingItems items) = true := by
        rw [wholeItems_iff, readingItems_eq_map]
        exact List.forall_mem_map.mpr ih
      rw [readingOf, isWhole, hitems, Bool.and_self]
  | object members ih =>
      have hmembers : wholeMembers (readingMembers members) = true := by
        rw [wholeMembers_iff, readingMembers_eq_map]
        exact List.forall_mem_map.mpr ih
      rw [readingOf, isWhole, hmembers, Bool.and_self]

/-- So is the value itself. -/
theorem isWhole_ofJson (j : Json) : (Reading.ofJson j).isWhole = true := by
  induction j using Json.inductionOn with
  | null => rfl
  | bool b => rfl
  | number n => rfl
  | string s => rfl
  | array items ih =>
      have hitems : wholeItems (ofItems items) = true := by
        rw [wholeItems_iff, ofItems_eq_map]
        exact List.forall_mem_map.mpr ih
      rw [ofJson, isWhole, hitems, Bool.and_self]
  | object members ih =>
      have hmembers : wholeMembers (ofMembers members) = true := by
        rw [wholeMembers_iff, ofMembers_eq_map]
        exact List.forall_mem_map.mpr ih
      rw [ofJson, isWhole, hmembers, Bool.and_self]

namespace Reading

/-- White space in front of a value is passed over. -/
theorem valueAt_gap {gap : List Char} (hgap : ∀ c ∈ gap, isSpace c = true) (fuel : Nat)
    (cs : List Char) : valueAt fuel (gap ++ cs) = valueAt fuel cs := by
  cases fuel with
  | zero => rfl
  | succ fuel => rw [valueAt, valueAt, skipSpace_append hgap]

/-- Blanks before a member are skipped. -/
theorem membersAt_gap {gap : List Char} (hgap : ∀ c ∈ gap, isSpace c = true) (fuel : Nat)
    (cs : List Char) : membersAt fuel (gap ++ cs) = membersAt fuel cs := by
  cases fuel with
  | zero => rfl
  | succ fuel => rw [membersAt, membersAt, skipSpace_append hgap]

/-- What follows a quotation mark is the inside of a text. -/
theorem valueAt_quotationMark (fuel : Nat) (cs : List Char) :
    valueAt (fuel + 1) ('"' :: cs) =
      match quoted cs with
      | .closed (some s) rest => (.string (String.ofList s), rest)
      | .closed none rest => (.valueless, rest)
      | .broken => (.broken, []) :=
  rfl

/-- What follows an opening brace is the closing one or the members. -/
theorem valueAt_brace (fuel : Nat) (cs : List Char) :
    valueAt (fuel + 1) (openBrace :: cs) =
      match skipSpace cs with
      | d :: more =>
          if d.toNat = 0x7D then (.object [] true, more)
          else (.object (membersAt fuel (d :: more)).1 (membersAt fuel (d :: more)).2.1,
            (membersAt fuel (d :: more)).2.2)
      | [] => (.object [] false, []) :=
  rfl

section Reader

variable (l : Layout)

/-- A text is read back, whichever way its characters are written. -/
theorem valueAt_layout_text (s : String) (fuel : Nat) (rest : List Char) :
    valueAt (fuel + 1) (l.text s ++ rest) = (.string s, rest) := by
  obtain ⟨body, htext, hbody⟩ := l.quoted_text s rest
  rw [htext, valueAt_quotationMark, hbody]
  simp only [String.ofList_toList]

/-- A text of a value begins neither with white space nor like the end of an array. -/
theorem laidOut_begins (j : Json) (depth : Nat) :
    ∃ c more, laidOut l depth j = c :: more ∧ isSpace c = false ∧ c ≠ ']' := by
  cases j with
  | null => exact ⟨_, _, rfl, rfl, by decide⟩
  | bool b => cases b <;> exact ⟨_, _, rfl, rfl, by decide⟩
  | number n => exact numberChars_begins n
  | string s =>
      obtain ⟨body, htext, -⟩ := l.quoted_text s []
      rw [List.append_nil] at htext
      exact ⟨'"', body, htext, rfl, by decide⟩
  | array items => cases items <;> exact ⟨_, _, rfl, rfl, by decide⟩
  | object members => cases members <;> exact ⟨_, _, rfl, rfl, by decide⟩

/-- A blank ends a number. -/
theorem endsValue_of_isSpace {c : Char} (hc : isSpace c = true) (rest : List Char) :
    EndsValue (c :: rest) := by
  simp only [isSpace, Bool.or_eq_true, beq_iff_eq] at hc
  rcases hc with ((rfl | rfl) | rfl) | rfl <;>
    exact endsValue_cons rfl (by decide) (by decide) (by decide) rest

/-- White space ends a value, and so does what follows it. -/
theorem endsValue_gap {gap : List Char} (hgap : ∀ c ∈ gap, isSpace c = true) {rest : List Char}
    (hrest : EndsValue rest) : EndsValue (gap ++ rest) := by
  cases gap with
  | nil => exact hrest
  | cons c gap => exact endsValue_of_isSpace (hgap c List.mem_cons_self) _

/-- Whatever follows an item ends a number. -/
theorem endsValue_laidItems (depth : Nat) (items : List Json) (rest : List Char) :
    EndsValue (laidItems l depth items ++ rest) := by
  cases items with
  | nil =>
      simp only [laidItems, List.append_assoc]
      exact endsValue_gap (l.isSpace_gap depth)
        (endsValue_cons rfl (by decide) (by decide) (by decide) rest)
  | cons item items => exact endsValue_cons rfl (by decide) (by decide) (by decide) _

/-- Whatever follows a member ends a number. -/
theorem endsValue_laidMembers (depth : Nat) (members : List (String × Json)) (rest : List Char) :
    EndsValue (laidMembers l depth members ++ rest) := by
  cases members with
  | nil =>
      simp only [laidMembers, List.append_assoc]
      exact endsValue_gap (l.isSpace_gap depth)
        (endsValue_cons rfl (by decide) (by decide) (by decide) rest)
  | cons member members => exact endsValue_cons rfl (by decide) (by decide) (by decide) _

/-- A value is read back from its text at any depth. -/
def IsReadBack (j : Json) : Prop :=
  ∀ (depth fuel : Nat) (rest : List Char), EndsValue rest → (laidOut l depth j).length ≤ fuel →
    valueAt fuel (laidOut l depth j ++ rest) = (readingOf j, rest)

/-- Items that are read back each are read back together. -/
theorem itemsAt_laidItems {item : Json} {items : List Json}
    (h : ∀ j ∈ item :: items, IsReadBack l j) (depth fuel : Nat) (rest : List Char)
    (hfuel : (laidOut l (depth + 1) item ++ laidItems l depth items).length ≤ fuel) :
    itemsAt fuel (l.gap (depth + 1) ++ (laidOut l (depth + 1) item
      ++ (laidItems l depth items ++ rest))) = (readingItems (item :: items), true, rest) := by
  induction items generalizing item fuel with
  | nil =>
      simp only [laidItems, List.length_append, List.length_singleton] at hfuel
      obtain ⟨fuel, rfl⟩ : ∃ k, fuel = k + 1 := ⟨fuel - 1, by omega⟩
      have hitem := h item List.mem_cons_self (depth + 1) fuel (laidItems l depth [] ++ rest)
        (endsValue_laidItems l depth [] rest) (by omega)
      rw [itemsAt, valueAt_gap (l.isSpace_gap _), hitem]
      simp only [laidItems, List.append_assoc, skipSpace_append (l.isSpace_gap depth)]
      rfl
  | cons next items ih =>
      simp only [laidItems, List.length_append, List.length_cons] at hfuel
      obtain ⟨fuel, rfl⟩ : ∃ k, fuel = k + 1 := ⟨fuel - 1, by omega⟩
      have hitem := h item List.mem_cons_self (depth + 1) fuel
        (laidItems l depth (next :: items) ++ rest) (endsValue_laidItems l depth _ rest) (by omega)
      have hmore := @ih next (fun j hj => h j (List.mem_cons_of_mem item hj)) fuel
        (by rw [List.length_append]; omega)
      rw [itemsAt, valueAt_gap (l.isSpace_gap _), hitem]
      simp only [laidItems, List.append_assoc, List.cons_append]
      rw [skipSpace_cons rfl]
      simp only [hmore]
      rfl

/-- A member is read up to the end of its value, and what follows shows whether there are more. -/
theorem membersAt_step {k : String} {r : Reading} {fuel : Nat} {text tail : List Char}
    (hvalue : valueAt fuel (text ++ tail) = (r, tail)) (depth : Nat) :
    membersAt (fuel + 1) (l.gap depth ++ (l.text k ++ ':' :: (l.blanks ++ (text ++ tail))))
      = match skipSpace tail with
        | ',' :: rest =>
            ((k, r) :: (membersAt fuel rest).1, (membersAt fuel rest).2.1,
              (membersAt fuel rest).2.2)
        | c :: rest =>
            if c.toNat = 0x7D then ([(k, r)], true, rest) else ([(k, r)], false, [])
        | [] => ([(k, r)], false, []) := by
  obtain ⟨body, htext, hbody⟩ := l.quoted_text k (':' :: (l.blanks ++ (text ++ tail)))
  rw [htext, membersAt, skipSpace_append (l.isSpace_gap depth), skipSpace_cons rfl]
  simp only [hbody]
  rw [skipSpace_cons rfl]
  simp only [valueAt_gap l.isSpace_blanks, hvalue]
  rewrite [String.ofList_toList]
  rfl

/-- Members whose values are read back each are read back together. -/
theorem membersAt_laidMembers {k : String} {v : Json} {members : List (String × Json)}
    (h : ∀ m ∈ (k, v) :: members, IsReadBack l m.2) (depth fuel : Nat) (rest : List Char)
    (hfuel : (laidOut l (depth + 1) v ++ laidMembers l depth members).length ≤ fuel) :
    membersAt fuel (l.gap (depth + 1) ++ (l.text k ++ ':' :: (l.blanks ++ (laidOut l (depth + 1) v
      ++ (laidMembers l depth members ++ rest))))) = (readingMembers ((k, v) :: members), true, rest) := by
  have hv : IsReadBack l v := h (k, v) List.mem_cons_self
  induction members generalizing k v fuel with
  | nil =>
      simp only [laidMembers, List.length_append, List.length_singleton] at hfuel
      obtain ⟨fuel, rfl⟩ : ∃ k, fuel = k + 1 := ⟨fuel - 1, by omega⟩
      have hvalue := hv (depth + 1) fuel (laidMembers l depth [] ++ rest)
        (endsValue_laidMembers l depth [] rest) (by omega)
      rw [membersAt_step l hvalue]
      simp only [laidMembers, List.append_assoc, skipSpace_append (l.isSpace_gap depth)]
      rfl
  | cons next members ih =>
      obtain ⟨name, value⟩ := next
      simp only [laidMembers, List.length_append, List.length_cons] at hfuel
      obtain ⟨fuel, rfl⟩ : ∃ k, fuel = k + 1 := ⟨fuel - 1, by omega⟩
      have hvalue := hv (depth + 1) fuel (laidMembers l depth ((name, value) :: members) ++ rest)
        (endsValue_laidMembers l depth _ rest) (by omega)
      have hmore := ih (k := name) (v := value) (fun m hm => h m (List.mem_cons_of_mem _ hm)) fuel
        (by rw [List.length_append]; omega) (h (name, value) (by simp))
      rw [membersAt_step l hvalue]
      simp only [laidMembers, List.append_assoc, List.cons_append]
      rw [skipSpace_cons rfl]
      simp only [hmore]
      rfl

/-- Reading a value takes some fuel. -/
theorem exists_fuel {j : Json} {depth fuel : Nat}
    (hfuel : (laidOut l depth j).length ≤ fuel) : ∃ k, fuel = k + 1 := by
  obtain ⟨first, more, htext, -, -⟩ := laidOut_begins l j depth
  rw [htext, List.length_cons] at hfuel
  exact ⟨fuel - 1, by omega⟩

/-- An array is read back if its items are. -/
theorem isReadBack_array {items : List Json} (h : ∀ item ∈ items, IsReadBack l item) :
    IsReadBack l (.array items) := by
  intro depth fuel rest hrest hfuel
  obtain ⟨fuel, rfl⟩ := exists_fuel l (j := .array items) hfuel
  cases items with
  | nil => rfl
  | cons item items =>
      simp only [laidOut, List.length_cons, List.length_append] at hfuel
      have hitems := itemsAt_laidItems l h depth fuel rest (by rw [List.length_append]; omega)
      -- the first item does not begin like the end of the array
      obtain ⟨c, text, hitem, hspace, hclose⟩ := laidOut_begins l item (depth + 1)
      simp only [laidOut, List.append_assoc, List.cons_append]
      rw [valueAt_open, skipSpace_append (l.isSpace_gap _), hitems, hitem, List.cons_append,
        skipSpace_cons hspace]
      split
      · rename_i heq
        exact absurd (List.cons.inj heq).1 hclose
      · rfl

/-- An object is read back if the values of its members are. -/
theorem isReadBack_object {members : List (String × Json)}
    (h : ∀ m ∈ members, IsReadBack l m.2) : IsReadBack l (.object members) := by
  intro depth fuel rest hrest hfuel
  obtain ⟨fuel, rfl⟩ := exists_fuel l (j := .object members) hfuel
  cases members with
  | nil => rfl
  | cons m members =>
      obtain ⟨k, v⟩ := m
      simp only [laidOut, List.length_cons, List.length_append] at hfuel
      have hmembers := membersAt_laidMembers l h depth fuel rest
        (by rw [List.length_append]; omega)
      -- the first name begins with a quote, not with the closing brace
      obtain ⟨body, hname, -⟩ := l.quoted_text k (':' :: (l.blanks ++ (laidOut l (depth + 1) v
        ++ (laidMembers l depth members ++ rest))))
      have hskip : skipSpace (l.gap (depth + 1) ++ '"' :: body) = '"' :: body := by
        rw [skipSpace_append (l.isSpace_gap _), skipSpace_cons rfl]
      rw [membersAt_gap (l.isSpace_gap _), hname] at hmembers
      simp only [laidOut, List.append_assoc, List.cons_append]
      rw [valueAt_brace, hname, hskip]
      show (if '"'.toNat = 0x7D then _ else _) = _
      rw [if_neg (by decide), hmembers]
      rfl

/-- Every value is read back from its text. -/
theorem valueAt_laidOut (j : Json) : IsReadBack l j := by
  induction j using Json.inductionOn with
  | null =>
      intro depth fuel rest hrest hfuel
      obtain ⟨fuel, rfl⟩ := exists_fuel l (j := .null) hfuel
      rfl
  | bool b =>
      intro depth fuel rest hrest hfuel
      obtain ⟨fuel, rfl⟩ := exists_fuel l (j := .bool b) hfuel
      cases b <;> rfl
  | number n =>
      intro depth fuel rest hrest hfuel
      obtain ⟨fuel, rfl⟩ := exists_fuel l (j := .number n) hfuel
      exact valueAt_numberChars n fuel hrest
  | string s =>
      intro depth fuel rest hrest hfuel
      obtain ⟨fuel, rfl⟩ := exists_fuel l (j := .string s) hfuel
      exact valueAt_layout_text l s fuel rest
  | array items ih => exact isReadBack_array l ih
  | object members ih => exact isReadBack_object l ih

/-- A text of a value, with white space after it, is read to its end. -/
theorem ofChars_readingOf (j : Json) {blanks : List Char}
    (hblanks : ∀ c ∈ blanks, isSpace c = true) :
    ofChars (laidOut l 0 j ++ blanks) = (readingOf j, blanks) := by
  refine valueAt_laidOut l j 0 _ blanks ?_ ?_
  · rw [← List.append_nil blanks]
    exact endsValue_gap hblanks endsValue_nil
  · rw [List.length_append]
    omega

/-- A value is read back from its text, up to blanks at the end. -/
theorem ofChars_laidOut {j : Json} (hj : j.Exact) {blanks : List Char}
    (hblanks : ∀ c ∈ blanks, isSpace c = true) :
    ofChars (laidOut l 0 j ++ blanks) = (ofJson j, blanks) := by
  rw [ofChars_readingOf l j hblanks, readingOf_of_exact hj]

end Reader

end Reading

/-- Both printers write texts that decode as the value does. -/
theorem decode_laidOut {α : Type} (d : Decoder α) (l : Layout) {j : Json} (hj : j.Exact)
    {blanks : List Char} (hblanks : ∀ c ∈ blanks, isSpace c = true) :
    decode d (String.ofList (laidOut l 0 j ++ blanks)) = decodeValue d j := by
  simp only [decode, decodeValue]
  rw [String.toList_ofList, ofChars_laidOut l hj hblanks]
  have hall : blanks.all isSpace = true := List.all_eq_true.mpr hblanks
  simp only [hall, if_true]
  cases d (ofJson j) <;> rfl

/-! ## One line -/

/-- A text without blanks is one line. -/
theorem newline_not_mem_chars (j : Json) : '\n' ∉ chars j := by
  induction j using Json.inductionOn with
  | null => decide
  | bool b => cases b <;> decide
  | number n => exact not_mem_numberChars rfl (by decide) n
  | string s => exact newline_not_mem_quote s
  | array items ih =>
      have hrest : ∀ rest : List Json, (∀ item ∈ rest, '\n' ∉ chars item) →
          '\n' ∉ itemChars rest := by
        intro rest hrest
        induction rest with
        | nil => decide
        | cons item rest ih =>
            obtain ⟨hitem, hmore⟩ := List.forall_mem_cons.mp hrest
            simp [itemChars, hitem, ih hmore]
      cases items with
      | nil => decide
      | cons item rest =>
          obtain ⟨hitem, hmore⟩ := List.forall_mem_cons.mp ih
          simp [chars, hitem, hrest rest hmore]
  | object members ih =>
      have hrest : ∀ rest : List (String × Json), (∀ m ∈ rest, '\n' ∉ chars m.2) →
          '\n' ∉ memberChars rest := by
        intro rest hrest
        induction rest with
        | nil => decide
        | cons m rest ih =>
            obtain ⟨hm, hmore⟩ := List.forall_mem_cons.mp hrest
            simp [memberChars, newline_not_mem_quote, hm, ih hmore]
      cases members with
      | nil => decide
      | cons m rest =>
          obtain ⟨hm, hmore⟩ := List.forall_mem_cons.mp ih
          have hbrace : '\n' ≠ openBrace := by decide
          simp [chars, hbrace, newline_not_mem_quote, hm, hrest rest hmore]

/-- The compact text of a value is one of its layouts. -/
theorem render_eq (j : Json) : j.render = String.ofList (laidOut .compact 0 j) := by
  rw [laidOut_compact]
  rfl

/-- The indented text of a value is one of its layouts. -/
theorem renderIndented_eq (j : Json) : j.renderIndented = String.ofList (laidOut .indented 0 j) := by
  rw [laidOut_indented]
  rfl

end RobotMaze.Json
