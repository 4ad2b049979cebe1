import RobotMaze.Proofs.Json.Restores
import RobotMaze.Proofs.Keyed
import RobotMaze.Proofs.Text.Split
import RobotMaze.Proofs.Time.Written
import RobotMaze.Store.Trail

/-! # The audit trail — lines in files

    * `Trail.Holds` — the lines of a text decode to entries;
    * `Trail.Files` — what its files hold after entries were added. -/

/-! ## Lines — entries as text

    An entry is written as one line of JSON, and a file is such lines one after
    another.

    * `AuditEntry.Writable` — an entry of which nothing is lost in its line;
    * `AuditEntry.restores` — it is restored from its line;
    * `Trail.Holds` — the lines of a text decode to entries, one by one;
    * `Trail.holds_join` — so it is of the lines that were written. -/

namespace RobotMaze

open Json.Decoder (Restores)
open Json.Record
open Time (Instant)

namespace AuditEntry

/-- An entry of which nothing is lost when it is written: its id fits 64 bits, and its time is one
    that is read back. -/
structure Writable (e : AuditEntry) : Prop where
  id_low : -0x8000000000000000 ≤ e.id
  id_high : e.id ≤ 0x7FFFFFFFFFFFFFFF
  timestamp : Instant.ofLoose? e.timestamp.render = some e.timestamp

variable {e : AuditEntry}

theorem ofName?_kind (kind : AuditAction) : Named.ofName? (Named.name kind) = some kind := by
  cases kind <;> rfl

theorem ofName?_status (status : AuditStatus) : Named.ofName? (Named.name status) = some status := by
  cases status <;> rfl

/-- Every member of an entry is restored by the field of its name. -/
theorem restores (h : e.Writable) : decoder.Restores e.toJson e := by
  have hid := Restores.int64 ⟨h.id_low, Int.lt_add_one_of_le h.id_high⟩
  have htime : Instant.decoder.Restores e.timestamp.toJson e.timestamp :=
    ⟨trivial, Instant.decoder_string h.timestamp⟩
  have hwrites := (writes_required "id" hid).map AuditEntry.mk
    |>.seq (writes_required "username" (.string e.username))
    |>.seq (writes_required "action" (.string e.action))
    |>.seq (writes_required "actionType" (.name (ofName?_kind e.kind)))
    |>.seq (writes_required "resourceType" (.string e.resourceType))
    |>.seq (writes_optional "resourceId" (.text e.resourceId))
    |>.seq (writes_optional "resourceName" (.text e.resourceName))
    |>.seq (writes_optional "details" (.text e.details))
    |>.seq (writes_required "timestamp" htime)
    |>.seq (writes_optional "ipAddress" (.text e.ipAddress))
    |>.seq (writes_optional "userAgent" (.text e.userAgent))
    |>.seq (writes_required "status" (.name (ofName?_status e.status)))
    |>.seq (writes_optional "errorMessage" (.text e.errorMessage))
  exact .record hwrites (by simp) (by simp)

end AuditEntry

/-! ## Files -/

/-- The lines of a text decode to entries, one by one, and nothing comes after the last line. -/
def Trail.Holds (text : String) (entries : List AuditEntry) : Prop :=
  ∃ lines, Text.split '\n' text = lines ++ [""]
    ∧ lines.map (Json.decode AuditEntry.decoder) = entries.map .ok

namespace Trail

variable {entries : List AuditEntry}

/-- The line of an entry is split off. -/
theorem split_line (e : AuditEntry) (rest : String) :
    Text.split '\n' (line e ++ rest) = e.toJson.render :: Text.split '\n' rest := by
  have hone : '\n' ∉ e.toJson.render.toList := by
    simp only [Json.render]
    rw [String.toList_ofList]
    exact Json.newline_not_mem_chars e.toJson
  have htext : (line e ++ rest).toList = e.toJson.render.toList ++ '\n' :: rest.toList := by
    simp only [line]
    rw [String.toList_append, String.toList_append, List.append_assoc]
    rfl
  simp only [Text.split]
  rw [htext, Text.splitChars_append hone, List.map_cons, String.ofList_toList]

/-- The lines that were written for entries hold those entries. -/
theorem holds_join (h : ∀ e ∈ entries, e.Writable) :
    Holds (String.join (entries.map line)) entries := by
  refine ⟨entries.map fun e => e.toJson.render, ?_, ?_⟩
  · induction entries with
    | nil => rfl
    | cons e rest ih =>
        have hrest := (List.forall_mem_cons.mp h).2
        rw [List.map_cons, String.join_cons, split_line, ih hrest]
        rfl
  · rw [List.map_map]
    refine List.map_congr_left fun e he => ?_
    rw [Function.comp_apply, (AuditEntry.restores (h e he)).decode_eq.1]

end Trail

end RobotMaze

/-! ## The trail — its files after entries were added

    Each file holds the lines of the entries of its day, in the order in which
    they were added, wherever the days lie.

    * `Trail.textOf?` — the text that the entries make up under a name;
    * `Trail.Files` — files in the order of their names, each with that text;
    * `Files.append` — adding an entry keeps them so. -/

namespace RobotMaze.Trail

/-- The name of the file for a day. -/
def fileOfDay (day : Time.Date) : String := "audit-" ++ day.render ++ ".jsonl"

/-- The entries whose lines are in the file of a name. -/
def ofFile (name : String) (entries : List AuditEntry) : List AuditEntry :=
  entries.filter fun e => fileName e == name

/-- The text of the file of a name, if any of the entries belongs there. -/
def textOf? (name : String) (entries : List AuditEntry) : Option String :=
  if ofFile name entries = [] then none else some (String.join ((ofFile name entries).map line))

/-- The files that entries make up: each name once, with the text of its entries. -/
structure Files (texts : List (String × String)) (entries : List AuditEntry) : Prop where
  ordered : (texts.map Prod.fst).Pairwise (· < ·)
  lookup : ∀ name, texts.lookup name = textOf? name entries

variable {e : AuditEntry} {entries : List AuditEntry} {texts : List (String × String)}
  {name : String}

theorem files_nil : Files [] [] := ⟨List.Pairwise.nil, fun _ => rfl⟩

/-- The line of an entry comes last in the file of its name. -/
theorem textOf?_append_self :
    textOf? (fileName e) (entries ++ [e])
      = some ((textOf? (fileName e) entries).getD "" ++ line e) := by
  have hown : ofFile (fileName e) (entries ++ [e]) = ofFile (fileName e) entries ++ [e] := by
    simp [ofFile, List.filter_append]
  simp only [textOf?]
  rw [hown, if_neg (List.append_ne_nil_of_right_ne_nil _ (List.cons_ne_nil _ _)), List.map_append,
    String.join_append]
  split
  · rename_i hempty
    rw [hempty]
    rfl
  · rfl

theorem textOf?_append_of_ne (hname : name ≠ fileName e) :
    textOf? name (entries ++ [e]) = textOf? name entries := by
  have hother : ofFile name (entries ++ [e]) = ofFile name entries := by
    simp [ofFile, List.filter_append, Ne.symm hname]
  simp only [textOf?]
  rw [hother]

/-- Adding an entry writes to the file of its day and to no other. -/
theorem Files.append (h : Files texts entries) (e : AuditEntry) :
    Files (Keyed.insert (fileName e) ((texts.lookup (fileName e)).getD "" ++ line e) texts)
      (entries ++ [e]) := by
  refine ⟨Keyed.pairwise_insert h.ordered, fun name => ?_⟩
  by_cases hname : name = fileName e
  · rw [hname, Keyed.lookup_insert, textOf?_append_self, h.lookup]
  · rw [Keyed.lookup_insert_of_ne hname, textOf?_append_of_ne hname, h.lookup]

/-- There is no file but those of the entries. -/
theorem Files.exists_entry (h : Files texts entries) (hname : name ∈ texts.map Prod.fst) :
    ∃ e ∈ entries, name = fileName e := by
  by_contra hnone
  have hempty : ofFile name entries = [] := by
    refine List.filter_eq_nil_iff.mpr fun e he hfile => hnone ⟨e, he, ?_⟩
    exact (beq_iff_eq.mp hfile).symm
  have hmissing : texts.lookup name = none := by
    rw [h.lookup, textOf?, if_pos hempty]
  obtain ⟨m, hm, rfl⟩ := List.mem_map.mp hname
  have hother := List.lookup_eq_none_iff.mp hmissing m hm
  rw [bne_self_eq_false] at hother
  cases hother

/-- In the file of a day are the entries of that day. -/
theorem ofFile_fileOfDay {day : Time.Date} (hday : day.IsValid) (entries : List AuditEntry) :
    ofFile (fileOfDay day) entries = entries.filter fun e => e.timestamp.date = day := by
  refine List.filter_congr fun e _ => ?_
  rw [Bool.eq_iff_iff, beq_iff_eq, decide_eq_true_iff]
  constructor
  · intro hsame
    have hrender : e.timestamp.date.render = day.render := by
      have hchars := congrArg String.toList hsame
      simp only [fileName, fileOf, fileOfDay, String.toList_append, List.append_cancel_left_eq,
        List.append_cancel_right_eq] at hchars
      exact String.toList_injective hchars
    exact Time.Date.render_injective (Time.Date.isValid_ofDayNumber _) hday hrender
  · rintro rfl
    rfl

end RobotMaze.Trail
