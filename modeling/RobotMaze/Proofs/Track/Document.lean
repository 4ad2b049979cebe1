import RobotMaze.Console.Work
import RobotMaze.Proofs.Json.Items
import RobotMaze.Proofs.Json.Restores
import RobotMaze.Proofs.Time.Written
import RobotMaze.Proofs.Track.Rules

/-! # Transfer documents — written and read

    A document is written as JSON, alone or in a list, and whoever takes it in
    reads either.

    * `TrackDocument.Portable` — a document that can be written and read;
    * `decodeValue_sorted_toJson` — its members are read in key order;
    * `tracksOf_toJson`, `tracksOf_list` — so are the texts of one document and of
      a list. -/

namespace RobotMaze

open Json (Layout laidOut)
open Json.Record
open Time (Instant)

namespace TrackDocument

/-- A document whose numbers fit 32 bits and whose time has a year of four digits. -/
structure Portable (d : TrackDocument) : Prop where
  startX : IsInt32 d.startX
  startY : IsInt32 d.startY
  difficulty : IsInt32 d.difficulty
  exportedAt : ∀ t ∈ d.exportedAt, t.HasFourDigitYear

/-- A document as it is read: its time is the one that the text shows. -/
def readBack (d : TrackDocument) : TrackDocument :=
  { d with exportedAt := d.exportedAt.map Instant.written }

variable {d : TrackDocument} {docs : List TrackDocument}

theorem ofName?_heading (heading : Heading) :
    Named.ofName? (Named.name heading) = some heading := by
  cases heading <;> rfl

/-- The members of a document. -/
def slots (d : TrackDocument) : List (String × Option Json) :=
  [("name", some (.string d.name)),
    ("gridConfig", some (.string d.gridConfig)),
    ("startX", some (.whole d.startX)),
    ("startY", some (.whole d.startY)),
    ("startDirection", some (Named.toJson d.heading)),
    ("difficultyLevel", some (.whole d.difficulty)),
    ("description", some (.optional .string d.description)),
    ("exportVersion", some (.string d.version)),
    ("exportDate", some (.optional Instant.toJson d.exportedAt))]

theorem toJson_eq (d : TrackDocument) : d.toJson = .object (present d.slots) := rfl

theorem nodup_slots (d : TrackDocument) : (d.slots.map Prod.fst).Nodup := by simp [slots]

/-- No member of a document is an array or an object. -/
theorem flat_slots (d : TrackDocument) : ∀ m ∈ present d.slots, m.2.NestsWithin 0 := by
  have hdescription : (Json.optional .string d.description).NestsWithin 0 := by
    cases d.description <;> trivial
  have hdate : (Json.optional Instant.toJson d.exportedAt).NestsWithin 0 := by
    cases d.exportedAt <;> trivial
  simp only [slots, present_some, present_nil, List.forall_mem_cons]
  exact ⟨trivial, trivial, trivial, trivial, trivial, trivial, hdescription, trivial, hdate,
    fun _ h => nomatch h⟩

/-- Every member of a document is read by the field of its name. -/
theorem writes (h : d.Portable) :
    ∃ r : Json.Record TrackDocument, decoder = r.decoder ∧ r.Writes d.slots d.readBack := by
  have hdate : (Json.Decoder.nullable Instant.exportDecoder).Restores
      (.optional Instant.toJson d.exportedAt) (d.exportedAt.map Instant.written) := by
    cases hexported : d.exportedAt with
    | none => exact ⟨trivial, rfl⟩
    | some t =>
        have hread := Instant.exportDecoder_string
          (Instant.ofExportDate?_render (h.exportedAt t hexported))
        refine ⟨trivial, ?_⟩
        show (Instant.exportDecoder (.string t.render)).map some = _
        rw [hread]
        rfl
  have hwrites := (writes_required "name" (.string d.name)).map TrackDocument.mk
    |>.seq (writes_required "gridConfig" (.string d.gridConfig))
    |>.seq (writes_required "startX" (.int32 h.startX))
    |>.seq (writes_required "startY" (.int32 h.startY))
    |>.seq (writes_required "startDirection" (.name (ofName?_heading d.heading)))
    |>.seq (writes_defaulted "difficultyLevel" NewTrack.defaultDifficulty (.int32 h.difficulty))
    |>.seq (writes_omittable "description" (.text d.description))
    |>.seq (writes_defaulted "exportVersion" currentVersion (.string d.version))
    |>.seq (writes_omittable "exportDate" hdate)
  exact ⟨_, rfl, hwrites⟩

theorem restores (h : d.Portable) : decoder.Restores d.toJson d.readBack := by
  obtain ⟨r, hr, hwrites⟩ := writes h
  rw [hr]
  exact .record hwrites d.nodup_slots rfl

/-- In whatever order the members of a document come, they are read. -/
theorem decodeValue_sorted_toJson (h : d.Portable) :
    Json.decodeValue decoder d.toJson.sorted = .ok d.readBack := by
  obtain ⟨r, hr, hwrites⟩ := writes h
  rw [hr, toJson_eq]
  exact Json.decodeValue_sorted hwrites d.nodup_slots d.flat_slots

theorem nestsWithin_toJson (d : TrackDocument) (depth : Nat) : d.toJson.NestsWithin (depth + 1) :=
  fun m hm => Json.nestsWithin_of_flat (d.flat_slots m hm) depth

/-! ## Texts -/

theorem tracksOf_object {text : String} {ms : List (String × Json)} {doc : TrackDocument}
    (hparse : Json.parse? text = some (.object ms))
    (hdoc : Json.decodeValue decoder (.object ms) = .ok doc) :
    Console.tracksOf text = .ok [doc] := by
  simp only [Console.tracksOf, hparse, hdoc]
  rfl

theorem tracksOf_array {text : String} {items : List Json} {docs : List TrackDocument}
    (hparse : Json.parse? text = some (.array items))
    (hdocs : Json.decodeValue (.list decoder) (.array items) = .ok docs) :
    Console.tracksOf text = .ok docs := by
  simp only [Console.tracksOf, hparse, hdocs]

/-- A text of one document is read as that document. -/
theorem tracksOf_toJson (l : Layout) (h : d.Portable) :
    Console.tracksOf (String.ofList (laidOut l 0 d.toJson)) = .ok [d.readBack] :=
  tracksOf_object (Json.parse?_laidOut l (restores h).exact (d.nestsWithin_toJson _))
    (decodeValue_sorted_toJson h)

/-- A text of a list of documents is read as those documents. -/
theorem tracksOf_list (l : Layout) (h : ∀ d ∈ docs, d.Portable) :
    Console.tracksOf (String.ofList (laidOut l 0 (.list toJson docs)))
      = .ok (docs.map readBack) := by
  have hexact : (Json.list toJson docs).Exact := by
    refine Json.exactItems_iff.mpr fun j hj => ?_
    obtain ⟨d, hd, rfl⟩ := List.mem_map.mp hj
    exact (restores (h d hd)).exact
  have hnests : (Json.list toJson docs).NestsWithin Json.maxDepth := by
    intro j hj
    obtain ⟨d, -, rfl⟩ := List.mem_map.mp hj
    exact d.nestsWithin_toJson _
  have hlist : Json.decodeValue (.list decoder) (Json.list toJson docs).sorted
      = .ok (docs.map readBack) := by
    show Json.Decoder.list decoder (.array (Json.Reading.ofItems
      (Json.sortedItems (docs.map toJson))) true) = _
    rw [Json.Reading.ofItems_eq_map, Json.sortedItems_eq_map, List.map_map, List.map_map]
    exact Json.Decoder.list_array fun d hd => decodeValue_sorted_toJson (h d hd)
  exact tracksOf_array (Json.parse?_laidOut l hexact hnests) hlist

end TrackDocument

end RobotMaze
