import Mathlib.Data.List.Nodup
import RobotMaze.Config.Variable
import RobotMaze.Proofs.Keyed

/-! # Layers — what shows through

    Layers lie one over another.  Of each leaf the highest layer that says
    something counts, if no layer has something else in the place of a table that
    leads to it.

    * `Json.at?` — the value under a path of names;
    * `Json.HasTablesAlong` — what leads down a path is a table, as far as there
      is something;
    * `Json.HasDistinctNames` — no table has two members of one name;
    * `leaf?_overlay` — one layer over another;
    * `leaf?_stack`, `at?_stack` — any number of layers;
    * `Beside` — the paths that leave another one with their last name, in which a
      value under that one has nothing (`Beside.at?_nested`). -/

namespace RobotMaze

open Config (put overlay overlayMembers)

namespace Json

/-- The value under a path of names. -/
def at? : List String → Json → Option Json
  | [], j => some j
  | name :: rest, j => (j.get? name).bind (at? rest)

/-- Down a path there are tables, as far as there is something. -/
def HasTablesAlong : List String → Json → Prop
  | [], _ => True
  | name :: rest, .object members => ∀ v ∈ members.lookup name, HasTablesAlong rest v
  | _ :: _, _ => False

instance decidableHasTablesAlong : (path : List String) → (j : Json) →
    Decidable (j.HasTablesAlong path)
  | [], _ => inferInstanceAs (Decidable True)
  | name :: rest, .object members =>
      match h : members.lookup name with
      | none => .isTrue fun v hv => by rw [h] at hv; cases hv
      | some w =>
          have hmember : (∀ v ∈ members.lookup name, HasTablesAlong rest v)
              ↔ HasTablesAlong rest w := by
            rw [h]
            exact ⟨fun hall => hall w rfl, fun hw v hv => Option.some.inj hv ▸ hw⟩
          @decidable_of_iff' _ _ hmember (decidableHasTablesAlong rest w)
  | _ :: _, .null => inferInstanceAs (Decidable False)
  | _ :: _, .bool _ => inferInstanceAs (Decidable False)
  | _ :: _, .number _ => inferInstanceAs (Decidable False)
  | _ :: _, .string _ => inferInstanceAs (Decidable False)
  | _ :: _, .array _ => inferInstanceAs (Decidable False)

/-- No table has two members of one name, nor has any table in it. -/
inductive HasDistinctNames : Json → Prop where
  | object {members : List (String × Json)} (names : (members.map Prod.fst).Nodup)
      (values : ∀ m ∈ members, HasDistinctNames m.2) : HasDistinctNames (.object members)
  | leaf {j : Json} (h : ∀ members, j ≠ .object members) : HasDistinctNames j

/-- A value with tables along a path is one itself, if the path goes anywhere. -/
theorem HasTablesAlong.exists_object {name : String} {rest : List String} {j : Json}
    (h : j.HasTablesAlong (name :: rest)) :
    ∃ members, j = .object members ∧ ∀ v ∈ members.lookup name, v.HasTablesAlong rest := by
  cases j with
  | object members => exact ⟨members, rfl, h⟩
  | _ => exact h.elim

/-- The members of an object have different names, and so inside each of them. -/
theorem HasDistinctNames.of_object {members : List (String × Json)}
    (h : HasDistinctNames (.object members)) :
    (members.map Prod.fst).Nodup ∧ ∀ m ∈ members, m.2.HasDistinctNames := by
  cases h with
  | object names values => exact ⟨names, values⟩
  | leaf hleaf => exact absurd rfl (hleaf members)

/-- What of a value lies at its place: of a table nothing but that it is one. -/
def trunk : Json → Json
  | .object _ => .object []
  | j => j

/-- What lies under a path, without the members of a table. -/
def leaf? (path : List String) (j : Json) : Option Json := (j.at? path).map trunk

/-- What is no table is its own trunk. -/
theorem eq_of_trunk_eq {j leaf : Json} (hleaf : ∀ members, leaf ≠ .object members)
    (h : j.trunk = leaf) : j = leaf := by
  cases j with
  | object members => exact absurd h.symm (hleaf [])
  | _ => exact h

/-- What is no object is left as it is. -/
theorem trunk_of_leaf {leaf : Json} (hleaf : ∀ members, leaf ≠ .object members) :
    leaf.trunk = leaf := by
  cases leaf with
  | object members => exact absurd rfl (hleaf members)
  | _ => rfl

end Json

namespace Config

open Json (HasTablesAlong HasDistinctNames leaf? trunk)

variable {name other : String} {j low high : Json} {members below : List (String × Json)}

/-! ## Members -/

/-- A member that is put is found, and the others are as before. -/
theorem lookup_put : (put name j members).lookup other
    = if other = name then some j else members.lookup other := by
  by_cases hother : other = name
  · subst hother
    rw [if_pos rfl]
    induction members with
    | nil => simp [put]
    | cons first rest ih =>
        simp only [put]
        split
        · exact List.lookup_cons_self
        · rename_i hne
          have hbeq : (other == first.1) = false := beq_eq_false_iff_ne.mpr (Ne.symm hne)
          rw [List.lookup_cons, hbeq]
          exact ih
  · have hbeq : (other == name) = false := beq_eq_false_iff_ne.mpr hother
    rw [if_neg hother]
    induction members with
    | nil => simp [put, List.lookup_cons, hbeq]
    | cons first rest ih =>
        simp only [put]
        split
        · rename_i heq
          rw [List.lookup_cons, List.lookup_cons, heq, hbeq]
        · rw [List.lookup_cons, List.lookup_cons, ih]

/-- Putting a member adds that one only. -/
theorem mem_put {m : String × Json} (h : m ∈ put name j members) : m = (name, j) ∨ m ∈ members := by
  induction members with
  | nil => exact Or.inl (List.mem_singleton.mp h)
  | cons first rest ih =>
      rw [put] at h
      split at h
      · exact (List.mem_cons.mp h).imp_right (List.mem_cons_of_mem first)
      · rcases List.mem_cons.mp h with rfl | h
        · exact Or.inr List.mem_cons_self
        · exact (ih h).imp_right (List.mem_cons_of_mem first)

/-- Putting a member adds its name only. -/
theorem mem_names_put (h : other ∈ (put name j members).map Prod.fst) :
    other = name ∨ other ∈ members.map Prod.fst := by
  obtain ⟨m, hm, rfl⟩ := List.mem_map.mp h
  exact (mem_put hm).imp (congrArg Prod.fst) fun hm => List.mem_map.mpr ⟨m, hm, rfl⟩

/-- Putting a member adds no name twice. -/
theorem nodup_put (h : (members.map Prod.fst).Nodup) :
    ((put name j members).map Prod.fst).Nodup := by
  induction members with
  | nil => exact List.nodup_singleton name
  | cons first rest ih =>
      obtain ⟨n, old⟩ := first
      obtain ⟨hfirst, hrest⟩ := List.nodup_cons.mp h
      simp only [put]
      split
      · rename_i hn
        subst hn
        exact List.nodup_cons.mpr ⟨hfirst, hrest⟩
      · rename_i hn
        refine List.nodup_cons.mpr ⟨fun hmem => ?_, ih hrest⟩
        rcases mem_names_put hmem with hname | hmem
        · exact hn hname
        · exact hfirst hmem

theorem distinct_nil : HasDistinctNames (.object []) :=
  .object List.nodup_nil (List.forall_mem_nil _)

/-- An object stays without a name twice when such a value is put. -/
theorem distinct_put (hmembers : HasDistinctNames (.object members)) (hj : j.HasDistinctNames) :
    HasDistinctNames (.object (put name j members)) := by
  obtain ⟨hnames, hvalues⟩ := hmembers.of_object
  refine .object (nodup_put hnames) fun m hm => ?_
  rcases mem_put hm with rfl | hm
  · exact hj
  · exact hvalues m hm

/-! ## One layer over another -/

/-- A value over the one below it, if there is one. -/
def overlayOn (low : Option Json) (high : Json) : Json :=
  match low with
  | some low => overlay low high
  | none => high

/-- An object over an object goes in member by member. -/
theorem overlay_object (below members : List (String × Json)) :
    overlay (.object below) (.object members) = .object (overlayMembers below members) := by
  rw [overlay]

/-- Each member lies over the one of its name. -/
theorem lookup_overlayMembers (hnames : (members.map Prod.fst).Nodup) :
    (overlayMembers below members).lookup name
      = match members.lookup name with
        | some high => some (overlayOn (below.lookup name) high)
        | none => below.lookup name := by
  induction members generalizing below with
  | nil => rw [overlayMembers]; rfl
  | cons first rest ih =>
      obtain ⟨n, high⟩ := first
      obtain ⟨hfirst, hrest⟩ := List.nodup_cons.mp hnames
      rw [overlayMembers]
      show (overlayMembers (put n (overlayOn (below.lookup n) high) below) rest).lookup name = _
      rw [ih hrest, lookup_put, List.lookup_cons]
      by_cases hname : name = n
      · subst hname
        -- no member after the first has its name, so none lies over it again
        have hnone : rest.lookup name = none := by
          rw [List.lookup_eq_none_iff]
          intro m hm
          refine bne_iff_ne.mpr fun hsame => hfirst ?_
          exact List.mem_map.mpr ⟨m, hm, hsame.symm⟩
        simp [hnone]
      · have hbeq : (name == n) = false := beq_eq_false_iff_ne.mpr hname
        rw [if_neg hname, hbeq]

/-- No name comes twice in a layer over another one. -/
theorem distinct_overlay (hlow : low.HasDistinctNames) (hhigh : high.HasDistinctNames) :
    (overlay low high).HasDistinctNames := by
  induction hhigh generalizing low with
  | leaf hleaf =>
      rename_i j
      have hsame : overlay low j = j := by
        cases j with
        | object members => exact absurd rfl (hleaf members)
        | _ => rw [overlay]; exact fun members => hleaf members
      rw [hsame]
      exact .leaf hleaf
  | @object members names values ih =>
      cases low with
      | object below =>
          -- the members go over those below one at a time, so the table below changes
          rw [overlay_object]
          clear names
          induction members generalizing below with
          | nil => rw [overlayMembers]; exact hlow
          | cons first rest ihrest =>
              obtain ⟨hfirst, hrest⟩ := List.forall_mem_cons.mp ih
              obtain ⟨hvalue, hvalues⟩ := List.forall_mem_cons.mp values
              rw [overlayMembers]
              refine ihrest hvalues hrest _ (distinct_put hlow ?_)
              cases hbelow : below.lookup first.1 with
              | none => exact hvalue
              | some old =>
                  exact hfirst (hlow.of_object.2 _ (Keyed.mem_of_lookup hbelow))
      | _ =>
          rw [overlay]
          · exact .object names values
          · exact fun _ => Json.noConfusion

/-- A value over a leaf is there as it is. -/
theorem overlay_of_leaf {leaf : Json} (hleaf : ∀ members, leaf ≠ .object members) (x : Json) :
    overlay leaf x = x := by
  cases x with
  | object members =>
      rw [overlay]
      exact hleaf
  | _ => rw [overlay]; exact fun _ => Json.noConfusion

theorem overlayOn_none (high : Json) : overlayOn none high = high := rfl

/-- A value over another is a table if it is one itself, and is there as it is if not. -/
theorem trunk_overlay (low high : Json) : (overlay low high).trunk = high.trunk := by
  cases high with
  | object members => cases low <;> rw [overlay] <;> first | rfl | exact fun _ => Json.noConfusion
  | _ => rw [overlay]; exact fun _ => Json.noConfusion

/-- What lies under a path is what lies there above, over what lies there below. -/
theorem at?_overlay {path : List String} (hdistinct : high.HasDistinctNames)
    (hlow : low.HasTablesAlong path) (hhigh : high.HasTablesAlong path) :
    (overlay low high).at? path
      = match high.at? path with
        | some h => some (overlayOn (low.at? path) h)
        | none => low.at? path := by
  induction path generalizing low high with
  | nil => rfl
  | cons name rest ih =>
      obtain ⟨below, rfl, hbelow⟩ := hlow.exists_object
      obtain ⟨members, rfl, hmembers⟩ := hhigh.exists_object
      obtain ⟨hnames, hvalues⟩ := hdistinct.of_object
      simp only [overlay_object, Json.at?, Json.get?]
      rw [lookup_overlayMembers hnames]
      cases habove : members.lookup name with
      | none => rfl
      | some above =>
          cases hunder : below.lookup name with
          | none => cases hrest : above.at? rest <;> simp [overlayOn_none, hrest]
          | some under =>
              exact ih (hvalues _ (Keyed.mem_of_lookup habove)) (hbelow under hunder)
                (hmembers above habove)

/-- A layer over another one has tables along a path if both have. -/
theorem hasTablesAlong_overlay {path : List String} (hdistinct : high.HasDistinctNames)
    (hlow : low.HasTablesAlong path) (hhigh : high.HasTablesAlong path) :
    (overlay low high).HasTablesAlong path := by
  induction path generalizing low high with
  | nil => trivial
  | cons name rest ih =>
      obtain ⟨below, rfl, hbelow⟩ := hlow.exists_object
      obtain ⟨members, rfl, hmembers⟩ := hhigh.exists_object
      obtain ⟨hnames, hvalues⟩ := hdistinct.of_object
      rw [overlay_object]
      intro v hv
      rw [lookup_overlayMembers hnames] at hv
      cases habove : members.lookup name with
      | none =>
          rw [habove] at hv
          exact hbelow v hv
      | some above =>
          rw [habove] at hv
          obtain rfl := Option.some.inj hv
          cases hunder : below.lookup name with
          | none => exact hmembers above habove
          | some under =>
              exact ih (hvalues _ (Keyed.mem_of_lookup habove)) (hbelow under hunder)
                (hmembers above habove)

/-- Of a leaf the upper layer counts, if it says something. -/
theorem leaf?_overlay {path : List String} (hdistinct : high.HasDistinctNames)
    (hlow : low.HasTablesAlong path) (hhigh : high.HasTablesAlong path) :
    leaf? path (overlay low high) = (leaf? path high).or (leaf? path low) := by
  simp only [leaf?]
  rw [at?_overlay hdistinct hlow hhigh]
  cases high.at? path with
  | none => rfl
  | some h =>
      cases low.at? path with
      | none => rfl
      | some l => exact congrArg some (trunk_overlay l h)

/-! ## Any number of layers -/

/-- Layers over another one, the lowest first. -/
def stack (low : Json) (layers : List Json) : Json := layers.foldl overlay low

/-- A layer that can lie over others and under others: no name comes twice in it, and what leads to
    a leaf is a table. -/
structure IsLayer (path : List String) (j : Json) : Prop where
  distinct : j.HasDistinctNames
  tables : j.HasTablesAlong path

/-- A layer over a layer is a layer. -/
theorem IsLayer.overlay {path : List String} (hlow : IsLayer path low) (hhigh : IsLayer path high) :
    IsLayer path (overlay low high) where
  distinct := distinct_overlay hlow.distinct hhigh.distinct
  tables := hasTablesAlong_overlay hhigh.distinct hlow.tables hhigh.tables

/-- Layers one over another are a layer. -/
theorem isLayer_stack {path : List String} {layers : List Json} (hlow : IsLayer path low)
    (hlayers : ∀ layer ∈ layers, IsLayer path layer) : IsLayer path (stack low layers) := by
  induction layers generalizing low with
  | nil => exact hlow
  | cons layer rest ih =>
      obtain ⟨hlayer, hrest⟩ := List.forall_mem_cons.mp hlayers
      exact ih (hlow.overlay hlayer) hrest

/-- What is found in a list is found at its head or else in the rest. -/
theorem findSome?_cons_eq_or {α β : Type} (f : α → Option β) (a : α) (l : List α) :
    (a :: l).findSome? f = (f a).or (l.findSome? f) := by
  rw [List.findSome?_cons]
  cases f a <;> rfl

/-- Of a leaf the highest layer counts that says something. -/
theorem leaf?_stack {path : List String} {layers : List Json} (hlow : IsLayer path low)
    (hlayers : ∀ layer ∈ layers, IsLayer path layer) :
    leaf? path (stack low layers) = (layers.reverse ++ [low]).findSome? (leaf? path) := by
  induction layers generalizing low with
  | nil => exact List.findSome?_singleton.symm
  | cons layer rest ih =>
      obtain ⟨hlayer, hrest⟩ := List.forall_mem_cons.mp hlayers
      have hlast : [overlay low layer].findSome? (leaf? path)
          = ([layer] ++ [low]).findSome? (leaf? path) := by
        rw [List.findSome?_append, List.findSome?_singleton, List.findSome?_singleton,
          List.findSome?_singleton, leaf?_overlay hlayer.distinct hlow.tables hlayer.tables]
      show leaf? path (stack (overlay low layer) rest) = _
      rw [ih (hlow.overlay hlayer) hrest, List.reverse_cons, List.append_assoc, List.findSome?_append,
        List.findSome?_append, hlast]

/-- Under a path a stack has what the layers have there, one over the other. -/
theorem at?_stack {path : List String} {layers : List Json} (hlow : IsLayer path low)
    (hlayers : ∀ layer ∈ layers, IsLayer path layer) :
    (stack low layers).at? path
      = (layers.filterMap (Json.at? path)).foldl (fun below above => some (overlayOn below above))
        (low.at? path) := by
  induction layers generalizing low with
  | nil => rfl
  | cons layer rest ih =>
      obtain ⟨hlayer, hrest⟩ := List.forall_mem_cons.mp hlayers
      show (stack (overlay low layer) rest).at? path = _
      rw [ih (hlow.overlay hlayer) hrest, at?_overlay hlayer.distinct hlow.tables hlayer.tables]
      cases habove : layer.at? path with
      | none => rw [List.filterMap_cons_none habove]
      | some above =>
          rw [List.filterMap_cons_some habove]
          rfl

/-- One layer more changes nothing under a path where it says nothing. -/
theorem at?_stack_insert {path : List String} {before after : List Json} {layer : Json}
    (hlow : IsLayer path low)
    (hlayers : ∀ layer ∈ before ++ after, IsLayer path layer) (hlayer : IsLayer path layer)
    (hnone : layer.at? path = none) :
    (stack low (before ++ layer :: after)).at? path = (stack low (before ++ after)).at? path := by
  rw [at?_stack hlow hlayers, at?_stack hlow, List.filterMap_append, List.filterMap_append,
    List.filterMap_cons_none hnone]
  simp only [List.forall_mem_append, List.forall_mem_cons] at hlayers ⊢
  exact ⟨hlayers.1, hlayer, hlayers.2⟩

/-- What only one layer sets is that layer's. -/
theorem at?_stack_of_one {path : List String} {before after : List Json} {layer x : Json}
    (hlow : IsLayer path low)
    (hlayers : ∀ layer ∈ before ++ after, IsLayer path layer ∧ layer.at? path = none)
    (hlayer : IsLayer path layer) (hx : layer.at? path = some x) :
    (stack low (before ++ layer :: after)).at? path = some (overlayOn (low.at? path) x) := by
  simp only [List.forall_mem_append] at hlayers
  have hnone : ∀ {layers : List Json},
      (∀ layer ∈ layers, IsLayer path layer ∧ layer.at? path = none) →
      layers.filterMap (Json.at? path) = [] :=
    fun h => List.filterMap_eq_nil_iff.mpr fun layer hlayer => (h layer hlayer).2
  rw [at?_stack hlow, List.filterMap_append, List.filterMap_cons_some hx, hnone hlayers.1,
    hnone hlayers.2]
  · rfl
  · simp only [List.forall_mem_append, List.forall_mem_cons]
    exact ⟨fun l hl => (hlayers.1 l hl).1, hlayer, fun l hl => (hlayers.2 l hl).1⟩

/-! ## Beside a path -/

variable {path q : List String}

/-- A path that leaves another one with its last name. -/
inductive Beside : List String → List String → Prop where
  | here {name other : String} {rest : List String} (h : other ≠ name) :
      Beside (name :: rest) [other]
  | deeper {name : String} {rest q : List String} (h : Beside rest q) :
      Beside (name :: rest) (name :: q)

/-- Tables along a path are tables along the path beside it. -/
theorem Beside.hasTablesAlong (h : Beside path q) (hj : j.HasTablesAlong path) :
    j.HasTablesAlong q := by
  induction h generalizing j with
  | here _ =>
      obtain ⟨members, rfl, -⟩ := hj.exists_object
      exact fun _ _ => trivial
  | deeper _ ih =>
      obtain ⟨members, rfl, hmembers⟩ := hj.exists_object
      exact fun v hv => ih (hmembers v hv)

/-- A layer for a path is one for the path beside it. -/
theorem Beside.isLayer (h : Beside path q) (hj : IsLayer path j) : IsLayer q j :=
  ⟨hj.distinct, h.hasTablesAlong hj.tables⟩

/-- A value that is nested along a path is not beside it. -/
theorem Beside.at?_nested (h : Beside path q) (x : Json) : (nested path x).at? q = none := by
  induction h with
  | here h =>
      show (List.lookup _ [(_, _)]).bind _ = none
      rw [List.lookup_cons, beq_eq_false_iff_ne.mpr h]
      rfl
  | deeper _ ih =>
      show (List.lookup _ [(_, _)]).bind _ = none
      rw [List.lookup_cons_self]
      exact ih

/-- A value that is nested along a path stands there. -/
theorem at?_nested (path : List String) (x : Json) : (nested path x).at? path = some x := by
  induction path with
  | nil => rfl
  | cons name rest ih =>
      show (List.lookup _ [(_, _)]).bind _ = _
      rw [List.lookup_cons_self]
      exact ih

/-- Nesting a value makes a table at each step of the path. -/
theorem hasTablesAlong_nested (path : List String) (x : Json) :
    (nested path x).HasTablesAlong path := by
  induction path with
  | nil => trivial
  | cons name rest ih =>
      intro v hv
      rw [List.lookup_cons_self] at hv
      obtain rfl := Option.some.inj hv
      exact ih

end Config

end RobotMaze
