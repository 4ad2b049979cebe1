import Mathlib.Data.List.Forall2
import Mathlib.Data.List.Nodup
import RobotMaze.Json.Decoder
import RobotMaze.Named
import RobotMaze.Proofs.Keyed

/-! # Records — what they take

    A record takes members if each of its fields takes the member of its name,
    or does without one.  It takes them in any order, as long as no name comes
    twice.

    * `Record.Takes` — a record takes members, each field its own or none;
    * `takes_field`, `takes_absent` — one rule for either kind of field;
    * `decoder_of_takes` — so the decoder of the record takes the object. -/

namespace RobotMaze.Json

open Reading

namespace Record

variable {α β γ : Type}

/-- The members that are there. -/
def present (slots : List (String × Option γ)) : List (String × γ) :=
  slots.filterMap fun slot => slot.2.map fun v => (slot.1, v)

@[simp] theorem present_nil : present ([] : List (String × Option γ)) = [] := rfl

theorem present_cons (k : String) (v : Option γ) (slots : List (String × Option γ)) :
    present ((k, v) :: slots) = (v.map fun v => (k, v)).toList ++ present slots := by
  cases v <;> rfl

@[simp] theorem present_some (k : String) (v : γ) (slots : List (String × Option γ)) :
    present ((k, some v) :: slots) = (k, v) :: present slots := rfl

theorem mem_present {slots : List (String × Option γ)} {m : String × γ} :
    m ∈ present slots ↔ (m.1, some m.2) ∈ slots := by
  simp only [present, List.mem_filterMap, Option.map_eq_some_iff]
  constructor
  · rintro ⟨⟨k, v⟩, hslot, w, rfl, rfl⟩
    exact hslot
  · exact fun h => ⟨_, h, m.2, rfl, rfl⟩

theorem names_present (slots : List (String × Option γ)) :
    ((present slots).map Prod.fst).Sublist (slots.map Prod.fst) := by
  induction slots with
  | nil => exact .slnil
  | cons slot rest ih =>
      obtain ⟨k, v⟩ := slot
      cases v with
      | none => exact ih.cons k
      | some v => exact ih.cons_cons k

theorem present_map (f : γ → β) (slots : List (String × Option γ)) :
    present (slots.map fun slot => (slot.1, slot.2.map f))
      = (present slots).map fun m => (m.1, f m.2) := by
  simp only [present, List.filterMap_map, List.map_filterMap]
  congr 1
  funext slot
  simp only [Function.comp_apply, Option.map_map]
  rfl

/-- A record takes members, one or none for each of its fields: they pass their tests, and wherever
    they are found under their names, and nothing is found under the others, the record has a
    value. -/
structure Takes (r : Record α) (slots : List (String × Option Reading)) (a : α) : Prop where
  tests : List.Forall₂ (fun f slot => f.1 = slot.1 ∧ ∀ v ∈ slot.2, f.2 v = .ok ()) r.fields slots
  value : ∀ all : List (String × Reading), (∀ slot ∈ slots, all.lookup slot.1 = slot.2) →
    r.ofMembers all = .ok a

theorem takes_pure (a : α) : Takes (Pure.pure a : Record α) [] a :=
  ⟨.nil, fun _ _ => rfl⟩

/-- Fields take their members one after the other. -/
theorem Takes.seq {f : Record (α → β)} {x : Record α} {slots more : List (String × Option Reading)}
    {g : α → β} {a : α} (hf : f.Takes slots g) (hx : x.Takes more a) :
    Takes (f <*> x) (slots ++ more) (g a) := by
  refine ⟨List.rel_append hf.tests hx.tests, fun all hall => ?_⟩
  have hg := hf.value all fun m hm => hall m (List.mem_append_left more hm)
  have ha := hx.value all fun m hm => hall m (List.mem_append_right slots hm)
  show (f.ofMembers all >>= fun g => x.ofMembers all >>= fun a => .ok (g a)) = _
  rw [hg, ha]
  rfl

/-- A field takes the member of its name that its decoder takes. -/
theorem takes_field {name : String} {d : Decoder α} {ifAbsent ifShort : Except Fault α}
    {r : Reading} {a : α} (h : d r = .ok a) :
    Takes (field name d ifAbsent ifShort) [(name, some r)] a := by
  refine ⟨.cons ⟨rfl, ?_⟩ .nil, fun all hall => ?_⟩
  · rintro v hv
    obtain rfl := Option.some.inj hv
    show (d r).map _ = _
    rw [h]
    rfl
  · simp only [field]
    rw [hall _ List.mem_cons_self]
    exact h

/-- A field that has a value of its own takes no member of its name. -/
theorem takes_absent (name : String) (d : Decoder α) (ifShort : Except Fault α) (a : α) :
    Takes (field name d (.ok a) ifShort) [(name, none)] a := by
  refine ⟨.cons ⟨rfl, fun _ hv => nomatch hv⟩ .nil, fun all hall => ?_⟩
  simp only [field]
  rw [hall _ List.mem_cons_self]

/-! ## The decoder of a record -/

/-- Under the name of a slot there is what is in the slot, if no name comes twice. -/
theorem lookup_present {slots : List (String × Option γ)} {all : List (String × γ)}
    (hnames : (slots.map Prod.fst).Nodup) (hall : all.Perm (present slots))
    {slot : String × Option γ} (hslot : slot ∈ slots) : all.lookup slot.1 = slot.2 := by
  have hpresent : ((present slots).map Prod.fst).Nodup := hnames.sublist (names_present slots)
  have hnodup : (all.map Prod.fst).Nodup := (hall.map Prod.fst).nodup_iff.mpr hpresent
  obtain ⟨k, v⟩ := slot
  cases v with
  | some v =>
      have hmem : (k, v) ∈ present slots := mem_present.mpr hslot
      exact Keyed.lookup_of_mem hnodup (hall.mem_iff.mpr hmem)
  | none =>
      rw [List.lookup_eq_none_iff]
      intro m hm
      have hfilled := mem_present.mp (hall.mem_iff.mp hm)
      refine bne_iff_ne.mpr fun hname => ?_
      -- a slot cannot be both empty and filled
      have hsame := List.inj_on_of_nodup_map hnames hslot hfilled hname
      cases (Prod.mk.inj hsame).2

/-- Each member passes the test of its own field. -/
theorem exists_test {fields : List (String × (Reading → Except Fault Unit))}
    {slots : List (String × Option Reading)}
    (htests : List.Forall₂ (fun f slot => f.1 = slot.1 ∧ ∀ v ∈ slot.2, f.2 v = .ok ()) fields slots)
    (hnames : (slots.map Prod.fst).Nodup) {m : String × Reading} (hm : m ∈ present slots) :
    ∃ test, fields.lookup m.1 = some test ∧ test m.2 = .ok () := by
  have hslot := mem_present.mp hm
  have hsame : fields.map Prod.fst = slots.map Prod.fst := by
    clear hnames hm hslot
    induction htests with
    | nil => rfl
    | cons h _ ih => rw [List.map_cons, List.map_cons, h.1, ih]
  obtain ⟨f, hf, hname, htest⟩ : ∃ f ∈ fields, f.1 = m.1 ∧ f.2 m.2 = .ok () := by
    clear hnames hsame hm
    induction htests with
    | nil => cases hslot
    | @cons f first fields rest h _ ih =>
        rcases List.mem_cons.mp hslot with rfl | hslot
        · exact ⟨f, List.mem_cons_self, h.1, h.2 _ rfl⟩
        · obtain ⟨g, hg, hpass⟩ := ih hslot
          exact ⟨g, List.mem_cons_of_mem f hg, hpass⟩
  refine ⟨f.2, ?_, htest⟩
  rw [← hname]
  exact Keyed.lookup_of_mem (hsame ▸ hnames) hf

/-- Members that pass their tests pass them in any order, if no name comes twice; those without a
    test need only be JSON. -/
theorem check_ok {fields : List (String × (Reading → Except Fault Unit))} {seen : List String}
    {members : List (String × Reading)}
    (htests : ∀ m ∈ members, match fields.lookup m.1 with
      | some test => test m.2 = .ok ()
      | none => m.2.isWhole = true)
    (hnames : (members.map Prod.fst).Nodup) (hseen : ∀ m ∈ members, m.1 ∉ seen) :
    check fields seen members = .ok () := by
  induction members generalizing seen with
  | nil => rfl
  | cons m rest ih =>
      obtain ⟨k, r⟩ := m
      obtain ⟨hk, hnames⟩ := List.nodup_cons.mp hnames
      obtain ⟨hfirst, hrest⟩ := List.forall_mem_cons.mp htests
      obtain ⟨hnew, hlater⟩ := List.forall_mem_cons.mp hseen
      simp only [check]
      split
      · rename_i test hfound
        simp only [hfound] at hfirst
        have hunseen : seen.contains k = false := by simpa using hnew
        have hmore := @ih (k :: seen) hrest hnames fun m hm => by
          rw [List.mem_cons, not_or]
          refine ⟨fun hsame => hk ?_, hlater m hm⟩
          exact List.mem_map.mpr ⟨m, hm, hsame⟩
        rw [hunseen, if_neg Bool.false_ne_true, hfirst]
        exact hmore
      · rename_i hunknown
        simp only [hunknown] at hfirst
        rw [if_pos hfirst]
        exact ih hrest hnames hlater

/-- The decoder of a record takes an object of the members that the record takes, in any order. -/
theorem decoder_of_takes {r : Record α} {slots : List (String × Option Reading)}
    {all : List (String × Reading)} {a : α} (h : r.Takes slots a)
    (hnames : (slots.map Prod.fst).Nodup) (hall : all.Perm (present slots)) :
    r.decoder (.object all true) = .ok a := by
  have hpresent : ((present slots).map Prod.fst).Nodup := hnames.sublist (names_present slots)
  have hnodup : (all.map Prod.fst).Nodup := (hall.map Prod.fst).nodup_iff.mpr hpresent
  have hcheck : check r.fields [] all = .ok () :=
    check_ok (fun m hm => by
      obtain ⟨test, hfound, hpass⟩ := exists_test h.tests hnames (hall.mem_iff.mp hm)
      rw [hfound]
      exact hpass) hnodup fun m _ => List.not_mem_nil
  have hvalue := h.value all fun slot hslot => lookup_present hnames hall hslot
  simp only [decoder]
  rw [hcheck]
  exact hvalue

end Record

/-! ## Values that are taken -/

namespace Decoder

theorem within_whole {low high n : Int} (hlow : low ≤ n) (hhigh : n ≤ high) :
    within low high (.number (.whole n)) = .ok n := by
  simp only [within]
  rw [if_pos ⟨hlow, hhigh⟩]

theorem nullable_of_ne {α : Type} {d : Decoder α} {r : Reading} (h : r ≠ .null) :
    nullable d r = (d r).map some := by
  cases r <;> first | exact absurd rfl h | rfl

/-- A value that may be missing is taken if it is when it is there, and is not written as `null`. -/
theorem nullable_optional {α : Type} {d : Decoder α} {encode : α → Json} {a : Option α}
    (h : ∀ x ∈ a, decodeValue d (encode x) = .ok x ∧ encode x ≠ .null) :
    decodeValue (nullable d) (.optional encode a) = .ok a := by
  cases a with
  | none => rfl
  | some x =>
      obtain ⟨hvalue, hnull⟩ := h x rfl
      have hread : ofJson (encode x) ≠ .null := by
        cases hencode : encode x <;> simp_all [ofJson]
      show nullable d (ofJson (encode x)) = _
      rw [nullable_of_ne hread]
      show (decodeValue d (encode x)).map some = _
      rw [hvalue]
      rfl

theorem name_toJson {α : Type} [Named α] {a : α}
    (h : Named.ofName? (Named.name a) = some a) :
    decodeValue Named.decoder (Named.toJson a) = .ok a := by
  show name Named.ofName? (.string (Named.name a)) = _
  simp only [name]
  rw [h]

end Decoder

end RobotMaze.Json
