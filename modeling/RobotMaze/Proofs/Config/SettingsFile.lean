import RobotMaze.Proofs.Config.Overlay
import RobotMaze.Toml.Document

/-! # Settings files — no name twice

    A file that sets a key twice, or states a table twice, is not read.  So no
    table of a file that is read has two members of one name.

    * `Table.IsDistinct` — the tables read so far, as one object;
    * `isDistinct_put`, `isDistinct_within` — a key that is set, a table that is
      changed in its place;
    * `distinct_value?` — the tables that stand on one line;
    * `distinct_parse?` — the whole file. -/

namespace RobotMaze.Toml

open Json (HasDistinctNames)

variable {name : String} {t : Table} {node : Node}

/-! ## Tables -/

namespace Table

/-- No name comes twice in a table, nor in a table in it. -/
def IsDistinct (t : Table) : Prop := t.toJson.HasDistinctNames

/-- The members of a table are those of its entries. -/
theorem entriesJson_eq_map (t : Table) : entriesJson t = t.map fun e => (e.1, nodeJson e.2) := by
  induction t with
  | nil => rfl
  | cons e rest ih => rw [entriesJson, ih, List.map_cons]

/-- No name comes twice in a table if none does at its top nor in one of its entries. -/
theorem isDistinct_iff :
    t.IsDistinct ↔ (t.map Prod.fst).Nodup ∧ ∀ e ∈ t, (nodeJson e.2).HasDistinctNames := by
  have hnames : (entriesJson t).map Prod.fst = t.map Prod.fst := by
    rw [entriesJson_eq_map, List.map_map]
    rfl
  constructor
  · intro h
    obtain ⟨hnodup, hvalues⟩ := Json.HasDistinctNames.of_object h
    refine ⟨hnames ▸ hnodup, fun e he => hvalues (e.1, nodeJson e.2) ?_⟩
    rw [entriesJson_eq_map]
    exact List.mem_map.mpr ⟨e, he, rfl⟩
  · rintro ⟨hnodup, hvalues⟩
    refine .object (hnames ▸ hnodup) fun m hm => ?_
    rw [entriesJson_eq_map] at hm
    obtain ⟨e, he, rfl⟩ := List.mem_map.mp hm
    exact hvalues e he

theorem isDistinct_nil : IsDistinct [] := Config.distinct_nil

/-- A series is an array, in which names do not matter. -/
theorem distinct_series (newest : List (String × Node)) (older : List (List (String × Node))) :
    (nodeJson (.series newest older)).HasDistinctNames := by
  rw [nodeJson]
  exact .leaf fun _ => Json.noConfusion

/-- A table stays without a name twice, whatever stated it. -/
theorem distinct_table {origin : Origin} {inner : Table} (h : inner.IsDistinct) :
    (nodeJson (.table origin inner)).HasDistinctNames := by
  rw [nodeJson]
  exact h

/-- No name comes twice in a table within. -/
theorem isDistinct_of_lookup {origin : Origin} {inner : Table} (h : t.IsDistinct)
    (hlookup : t.lookup name = some (.table origin inner)) : inner.IsDistinct := by
  have hinner := (isDistinct_iff.mp h).2 _ (Keyed.mem_of_lookup hlookup)
  rwa [nodeJson] at hinner

/-- Replacing an entry leaves the names. -/
theorem names_replace (name : String) (node : Node) (t : Table) :
    (replace name node t).map Prod.fst = t.map Prod.fst := by
  induction t with
  | nil => rfl
  | cons e rest ih =>
      rw [replace]
      split
      · rfl
      · rw [List.map_cons, List.map_cons, ih]

/-- An entry is replaced by one in which no name comes twice. -/
theorem isDistinct_replace (h : t.IsDistinct) (hnode : (nodeJson node).HasDistinctNames) :
    IsDistinct (replace name node t) := by
  obtain ⟨hnames, hvalues⟩ := isDistinct_iff.mp h
  refine isDistinct_iff.mpr ⟨(names_replace name node t).symm ▸ hnames, ?_⟩
  clear h hnames
  induction t with
  | nil => exact List.forall_mem_nil _
  | cons e rest ih =>
      obtain ⟨hfirst, hrest⟩ := List.forall_mem_cons.mp hvalues
      rw [replace]
      split
      · exact List.forall_mem_cons.mpr ⟨hnode, hrest⟩
      · exact List.forall_mem_cons.mpr ⟨hfirst, ih hrest⟩

/-- A new name is added with an entry in which no name comes twice. -/
theorem isDistinct_concat (h : t.IsDistinct) (hname : t.lookup name = none)
    (hnode : (nodeJson node).HasDistinctNames) : IsDistinct (t ++ [(name, node)]) := by
  obtain ⟨hnames, hvalues⟩ := isDistinct_iff.mp h
  refine isDistinct_iff.mpr ⟨?_, fun e he => ?_⟩
  · rw [List.map_append, List.nodup_append]
    refine ⟨hnames, List.nodup_singleton name, fun k hk l hl hkl => ?_⟩
    obtain ⟨e, he, rfl⟩ := List.mem_map.mp hk
    have hother := List.lookup_eq_none_iff.mp hname e he
    exact bne_iff_ne.mp hother ((hkl.trans (List.mem_singleton.mp hl)).symm)
  · rcases List.mem_append.mp he with he | he
    · exact hvalues e he
    · obtain rfl := List.mem_singleton.mp he
      exact hnode

/-- A table that is changed in its place. -/
theorem isDistinct_within {change : Table → Option Table} {path : List String} {t' : Table}
    (hchange : ∀ {t t' : Table}, t.IsDistinct → change t = some t' → t'.IsDistinct)
    (ht : t.IsDistinct) (h : within change path t = some t') : t'.IsDistinct := by
  induction path generalizing t t' with
  | nil => exact hchange ht h
  | cons step rest ih =>
      rw [within] at h
      split at h
      · rename_i hnew
        obtain ⟨inner, hinner, rfl⟩ := Option.map_eq_some_iff.mp h
        exact isDistinct_concat ht hnew (distinct_table (ih isDistinct_nil hinner))
      · rename_i hold
        obtain ⟨inner, hinner, rfl⟩ := Option.map_eq_some_iff.mp h
        exact isDistinct_replace ht (distinct_table (ih (isDistinct_of_lookup ht hold) hinner))
      · obtain ⟨newest, -, rfl⟩ := Option.map_eq_some_iff.mp h
        exact isDistinct_replace ht (distinct_series _ _)
      · cases h

/-- Stating a table adds no name twice. -/
theorem isDistinct_state {t' : Table} (ht : t.IsDistinct) (h : state name t = some t') :
    t'.IsDistinct := by
  rw [state] at h
  split at h
  · rename_i hnew
    cases h
    exact isDistinct_concat ht hnew (distinct_table isDistinct_nil)
  · rename_i hold
    cases h
    exact isDistinct_replace ht (distinct_table (isDistinct_of_lookup ht hold))
  · cases h

/-- One more table in a series adds no name twice. -/
theorem isDistinct_append {t' : Table} (ht : t.IsDistinct) (h : append name t = some t') :
    t'.IsDistinct := by
  rw [append] at h
  split at h
  · rename_i hnew
    cases h
    exact isDistinct_concat ht hnew (distinct_series _ _)
  · cases h
    exact isDistinct_replace ht (distinct_series _ _)
  · cases h

/-- A key that is set. -/
theorem isDistinct_put {path : List String} {j : Json} {t' : Table} (hj : j.HasDistinctNames)
    (ht : t.IsDistinct) (h : t.put path name j = some t') : t'.IsDistinct := by
  have hvalue : (nodeJson (.value j)).HasDistinctNames := by rwa [nodeJson]
  induction path generalizing t t' with
  | nil =>
      rw [put, putHere] at h
      split at h
      · rename_i hnew
        cases h
        exact isDistinct_concat ht hnew hvalue
      · cases h
  | cons step rest ih =>
      rw [put] at h
      split at h
      · rename_i hnew
        obtain ⟨inner, hinner, rfl⟩ := Option.map_eq_some_iff.mp h
        exact isDistinct_concat ht hnew (distinct_table (ih isDistinct_nil hinner))
      · rename_i hold
        split at h
        · cases h
        · obtain ⟨inner, hinner, rfl⟩ := Option.map_eq_some_iff.mp h
          exact isDistinct_replace ht (distinct_table (ih (isDistinct_of_lookup ht hold) hinner))
      · split at h
        · cases h
        · obtain ⟨newest, -, rfl⟩ := Option.map_eq_some_iff.mp h
          exact isDistinct_replace ht (distinct_series _ _)
      · cases h

end Table

/-! ## Values -/

theorem distinct_moment (text : String) : (moment text).HasDistinctNames :=
  .object (List.nodup_singleton _) (List.forall_mem_singleton.mpr (.leaf fun _ => Json.noConfusion))

/-- A word stands for a value with no name twice. -/
theorem distinct_meaning? {cs : List Char} {j : Json} (h : meaning? cs = some j) :
    j.HasDistinctNames := by
  rw [meaning?] at h
  split at h
  · cases h
    exact .leaf fun _ => Json.noConfusion
  split at h
  · cases h
    exact .leaf fun _ => Json.noConfusion
  simp only [] at h
  split at h
  · cases h
    exact distinct_moment _
  · cases h

theorem distinct_spacedMoment? {date cs rest : List Char} {j : Json}
    (h : spacedMoment? date cs = some (j, rest)) : j.HasDistinctNames := by
  simp only [spacedMoment?] at h
  split at h
  · split at h
    · cases h
      exact distinct_moment _
    · cases h
  · cases h

theorem distinct_word? {cs rest : List Char} {j : Json} (h : word? cs = some (j, rest)) :
    j.HasDistinctNames := by
  simp only [word?] at h
  split at h
  · rename_i hspaced
    cases h
    exact distinct_spacedMoment? hspaced
  · obtain ⟨v, hv, heq⟩ := Option.map_eq_some_iff.mp h
    cases heq
    exact distinct_meaning? hv

theorem distinct_textValue {found : Option (List Char × List Char)} {rest : List Char} {j : Json}
    (h : textValue found = some (j, rest)) : j.HasDistinctNames := by
  obtain ⟨text, -, heq⟩ := Option.map_eq_some_iff.mp h
  cases heq
  exact .leaf fun _ => Json.noConfusion

/-- No table that stands on one line has two entries of one key. -/
theorem distinct_value? (fuel : Nat) (cs : List Char) :
    (∀ j rest, value? fuel cs = some (j, rest) → j.HasDistinctNames)
    ∧ ∀ t t' rest, Table.IsDistinct t → entries? fuel t cs = some (t', rest) →
      Table.IsDistinct t' := by
  -- as with variables, values and entries go down the same fuel
  induction fuel generalizing cs with
  | zero => exact ⟨fun _ _ h => (nomatch h), fun _ _ _ _ h => (nomatch h)⟩
  | succ fuel ih =>
      refine ⟨fun j rest h => ?_, fun t t' rest ht h => ?_⟩
      · -- the four kinds of quotes, then an array, a table and a word
        rw [value?.eq_def] at h
        simp only [] at h
        split at h
        · exact distinct_textValue h
        · exact distinct_textValue h
        · exact distinct_textValue h
        · exact distinct_textValue h
        · obtain ⟨items, -, heq⟩ := Option.map_eq_some_iff.mp h
          cases heq
          exact .leaf fun _ => Json.noConfusion
        · split at h
          · split at h
            · split at h
              · cases h
                exact Config.distinct_nil
              · obtain ⟨⟨t, more⟩, hentries, heq⟩ := Option.map_eq_some_iff.mp h
                cases heq
                exact (ih _).2 _ _ _ Table.isDistinct_nil hentries
            · cases h
          · exact distinct_word? h
        · cases h
      · -- an entry, after which there is a comma or the end of the table
        rw [entries?] at h
        obtain ⟨⟨path, name, more⟩, -, h⟩ := Option.bind_eq_some_iff.mp h
        obtain ⟨value, -, h⟩ := Option.bind_eq_some_iff.mp h
        obtain ⟨⟨j, more⟩, hvalue, h⟩ := Option.bind_eq_some_iff.mp h
        obtain ⟨next, hput, h⟩ := Option.bind_eq_some_iff.mp h
        have hnext := Table.isDistinct_put ((ih _).1 _ _ hvalue) ht hput
        split at h
        · exact (ih _).2 _ _ _ hnext h
        · split at h
          · cases h
            exact hnext
          · cases h
        · cases h

/-- What a line assigns has no name twice. -/
theorem distinct_assignment? {cs rest : List Char} {path : List String} {j : Json}
    (h : assignment? cs = some (path, name, j, rest)) : j.HasDistinctNames := by
  obtain ⟨⟨path, name, more⟩, -, h⟩ := Option.bind_eq_some_iff.mp h
  obtain ⟨_, -, h⟩ := Option.bind_eq_some_iff.mp h
  obtain ⟨⟨j, more⟩, hvalue, h⟩ := Option.bind_eq_some_iff.mp h
  cases h
  exact (distinct_value? _ _).1 _ _ hvalue

/-! ## Lines -/

namespace Document

/-- The head of a table adds no name twice. -/
theorem isDistinct_openTable {d d' : Document} {isSeries : Bool} {path : List String}
    (hd : d.root.IsDistinct) (h : d.openTable isSeries path name = some d') :
    d'.root.IsDistinct := by
  obtain ⟨root, hroot, rfl⟩ := Option.map_eq_some_iff.mp h
  refine Table.isDistinct_within ?_ hd hroot
  cases isSeries
  · exact Table.isDistinct_state
  · exact Table.isDistinct_append

/-- A value that is assigned adds no name twice. -/
theorem isDistinct_assign {d d' : Document} {path : List String} {j : Json}
    (hj : j.HasDistinctNames) (hd : d.root.IsDistinct) (h : d.assign path name j = some d') :
    d'.root.IsDistinct := by
  obtain ⟨root, hroot, rfl⟩ := Option.map_eq_some_iff.mp h
  exact Table.isDistinct_within (fun ht hput => Table.isDistinct_put hj ht hput) hd hroot

/-- A line adds no name twice. -/
theorem isDistinct_line? {d d' : Document} {cs rest : List Char} (hd : d.root.IsDistinct)
    (h : d.line? cs = some (d', rest)) : d'.root.IsDistinct := by
  rw [line?] at h
  split at h
  -- the heading of a series, that of a table, an empty line, and a key that is set
  · obtain ⟨⟨path, name, more⟩, -, h⟩ := Option.bind_eq_some_iff.mp h
    obtain ⟨_, -, h⟩ := Option.bind_eq_some_iff.mp h
    obtain ⟨_, -, h⟩ := Option.bind_eq_some_iff.mp h
    obtain ⟨_, -, h⟩ := Option.bind_eq_some_iff.mp h
    obtain ⟨d, hopen, h⟩ := Option.bind_eq_some_iff.mp h
    cases h
    exact isDistinct_openTable hd hopen
  · obtain ⟨⟨path, name, more⟩, -, h⟩ := Option.bind_eq_some_iff.mp h
    obtain ⟨_, -, h⟩ := Option.bind_eq_some_iff.mp h
    obtain ⟨_, -, h⟩ := Option.bind_eq_some_iff.mp h
    obtain ⟨d, hopen, h⟩ := Option.bind_eq_some_iff.mp h
    cases h
    exact isDistinct_openTable hd hopen
  · split at h
    · cases h
      exact hd
    · obtain ⟨⟨path, name, j, more⟩, hassign, h⟩ := Option.bind_eq_some_iff.mp h
      obtain ⟨next, hnext, h⟩ := Option.bind_eq_some_iff.mp h
      obtain ⟨_, -, h⟩ := Option.bind_eq_some_iff.mp h
      cases h
      exact isDistinct_assign (distinct_assignment? hassign) hd hnext

/-- Line by line, no name comes twice. -/
theorem isDistinct_lines? {d d' : Document} {fuel : Nat} {cs : List Char}
    (hd : d.root.IsDistinct) (h : lines? fuel d cs = some d') : d'.root.IsDistinct := by
  induction fuel generalizing d cs with
  | zero =>
      cases cs with
      | nil =>
          cases h
          exact hd
      | cons c rest => cases h
  | succ fuel ih =>
      cases cs with
      | nil =>
          cases h
          exact hd
      | cons c rest =>
          rw [lines?] at h
          · split at h
            · rename_i hline
              exact ih (isDistinct_line? hd hline) h
            · cases h
          · exact List.cons_ne_nil c rest

end Document

/-- No table of a file that is read has two members of one name. -/
theorem distinct_parse? {text : String} {j : Json} (h : parse? text = some j) :
    j.HasDistinctNames := by
  obtain ⟨d, hlines, rfl⟩ := Option.map_eq_some_iff.mp h
  exact Document.isDistinct_lines? Table.isDistinct_nil hlines

end RobotMaze.Toml
