import RobotMaze.Proofs.Track.Document
import RobotMaze.Proofs.Track.Import

/-! # Transfer — tracks taken to another store

    What one store exports another one imports, by way of a text.

    * `Tracks.Carries` — a JSON value takes tracks of some contents to an empty
      store;
    * `portable_ofTrack`, `importable_readBack` — the document of a stored track
      can be written and read, and what was read can be imported;
    * `Tracks.transfer` — so the active tracks that a run left behind arrive in another
      store, and so does any single track.  (Two changes that overlap can leave a start that
      lies off the path, which no other store takes.) -/

namespace RobotMaze.Tracks

open Json (Layout laidOut)
open Time (Instant)

/-- A JSON value takes tracks of some contents to an empty store.  Either of its texts is read as
    documents.  Whoever imports these one after another, at whatever time, succeeds with each of
    them, and then the tracks of the store have those contents, in this order. -/
def Carries (fresh : Trail) (j : Json) (contents : List NewTrack) : Prop :=
  ∀ text, text = j.render ∨ text = j.renderIndented → ∃ docs, Console.tracksOf text = .ok docs
    ∧ ∀ imports : List Event, List.Forall₂ Event.Imports imports docs →
      (∀ e ∈ imports, e.now.HasFourDigitYear) → (Store.empty fresh).Succeeds imports
        ∧ ∃ tracks, all.answer ((Store.empty fresh).after imports) = .ok tracks
          ∧ tracks.Pairwise (fun t u => t.id < u.id) ∧ tracks.map Track.content = contents

/-- What is read as documents that can be imported, all of different names, is carried. -/
theorem carries_of_tracksOf {j : Json} {docs : List TrackDocument} (fresh : Trail)
    (hread : ∀ l : Layout, Console.tracksOf (String.ofList (laidOut l 0 j)) = .ok docs)
    (hdocs : ∀ doc ∈ docs, Importable doc) (hnames : (docs.map TrackDocument.name).Nodup)
    (hfits : (docs.length : Int) ≤ maxId) :
    Carries fresh j (docs.map TrackDocument.toNewTrack) := by
  rintro text htext
  obtain ⟨l, rfl⟩ : ∃ l : Layout, text = String.ofList (laidOut l 0 j) := by
    rcases htext with rfl | rfl
    · exact ⟨_, Json.render_eq j⟩
    · exact ⟨_, Json.renderIndented_eq j⟩
  refine ⟨docs, hread l, fun imports himports hclock => ?_⟩
  obtain ⟨hsucceeds, himported⟩ := (Imported.empty fresh).after himports hclock hdocs hnames
    (by simpa using hfits)
  obtain ⟨tracks, hall, -, hrising, hcontents⟩ :=
    himported.stored.readAll_answer (List.Sublist.refl _)
  rw [← all_answer] at hall
  exact ⟨hsucceeds, tracks, hall, hrising, hcontents.trans himported.contents_eq⟩

/-! ## The documents of stored tracks -/

section Documents

variable {r : TrackRow} {t : Track} {now : Instant}

theorem portable_ofTrack (hr : r.Sound) (hread : r.read = .ok t) (hnow : now.HasFourDigitYear) :
    (TrackDocument.ofTrack t now).Portable := by
  obtain ⟨hxRange, hyRange, hlevelRange⟩ := hr.isInt32
  have hcontent := hr.content_of_read hread
  have hx : t.startX = r.startX := congrArg NewTrack.startX hcontent
  have hy : t.startY = r.startY := congrArg NewTrack.startY hcontent
  have hlevel : t.difficulty = r.difficulty :=
    Option.some.inj (congrArg NewTrack.difficulty hcontent)
  refine ⟨?_, ?_, ?_, fun u hu => Option.some.inj hu ▸ hnow⟩
  · show IsInt32 t.startX
    exact hx ▸ hxRange
  · show IsInt32 t.startY
    exact hy ▸ hyRange
  · show IsInt32 t.difficulty
    exact hlevel ▸ hlevelRange

theorem importable_readBack (hr : r.Sound) (hread : r.read = .ok t) (now : Instant) :
    Importable (TrackDocument.ofTrack t now).readBack := by
  refine ⟨rfl, ?_⟩
  show t.content.Clean
  rw [hr.content_of_read hread]
  exact hr.clean

end Documents

/-! ## Exports -/

variable {s : Store} {now : Instant}

theorem exportAll_answer {tracks : List Track} (hactive : active.answer s = .ok tracks)
    (actor : Actor) (now : Instant) : (exportAll true actor now).answer s
      = .ok (tracks.map fun t => TrackDocument.ofTrack t now) := by
  have hends : (exportAll true actor now).Ends s fun r _ =>
      r = .ok (tracks.map fun t => TrackDocument.ofTrack t now) := by
    simp only [exportAll]
    exact Op.Ends.reading_of_answer keeps_active hactive (Op.Ends.noting (Op.ends_pure rfl))
  exact hends

theorem exportOne_answer {id : Int} {t : Track} (hget : (get id).answer s = .ok t) (actor : Actor)
    (now : Instant) : (exportOne id actor now).answer s = .ok (.ofTrack t now) := by
  have hends : (exportOne id actor now).Ends s fun r _ => r = .ok (.ofTrack t now) := by
    simp only [exportOne]
    exact Op.Ends.reading_of_answer (keeps_get id) hget (Op.Ends.noting (Op.ends_pure rfl))
  exact hends

/-- The documents of the active tracks carry those tracks. -/
theorem carries_active (hs : Stored s) (hcounted : s.database.tracks.Counted)
    (hnow : now.HasFourDigitYear) {tracks : List Track}
    (hreads : List.Forall₂ (fun row t => row.read = .ok t) s.database.activeTracks tracks)
    (fresh : Trail) :
    Carries fresh (.list TrackDocument.toJson (tracks.map fun t => TrackDocument.ofTrack t now))
      (tracks.map Track.content) := by
  have hsound : ∀ t ∈ tracks, ∃ r : TrackRow, r.Sound ∧ r.read = .ok t := by
    intro t ht
    obtain ⟨r, hr, hread⟩ := exists_of_forall₂ hreads ht
    exact ⟨r, (hs.kept r ((activeTracks_sublist s.database).subset hr)).sound, hread⟩
  have hportable : ∀ doc ∈ tracks.map fun t => TrackDocument.ofTrack t now, doc.Portable := by
    intro doc hdoc
    obtain ⟨t, ht, rfl⟩ := List.mem_map.mp hdoc
    obtain ⟨r, hr, hread⟩ := hsound t ht
    exact portable_ofTrack hr hread hnow
  have hnames : tracks.map Track.name = s.database.activeTracks.map TrackRow.name :=
    map_eq_of_forall₂ hreads fun row _ t hread => by rw [TrackRow.eq_of_read hread]
  have hlength : (tracks.length : Int) ≤ maxId := by
    have hrows := (activeTracks_sublist s.database).length_le
    have hids := hcounted.length_le
    have hmax := hcounted.lastId_le
    rw [← hreads.length_eq]
    omega
  have hcarries := carries_of_tracksOf fresh
    (fun l => TrackDocument.tracksOf_list l hportable) ?_ ?_ ?_
  · rw [List.map_map, List.map_map] at hcarries
    exact hcarries
  · intro doc hdoc
    obtain ⟨source, hsource, rfl⟩ := List.mem_map.mp hdoc
    obtain ⟨t, ht, rfl⟩ := List.mem_map.mp hsource
    obtain ⟨r, hr, hread⟩ := hsound t ht
    exact importable_readBack hr hread now
  · rw [List.map_map, List.map_map]
    show (tracks.map Track.name).Nodup
    rw [hnames]
    exact hs.nodup_activeNames
  · rw [List.length_map, List.length_map]
    exact hlength

/-- The document of a track carries that track. -/
theorem carries_one {r : TrackRow} {t : Track} (hr : r.Sound) (hread : r.read = .ok t)
    (hnow : now.HasFourDigitYear) (fresh : Trail) :
    Carries fresh (TrackDocument.ofTrack t now).toJson [t.content] := by
  refine carries_of_tracksOf fresh
    (fun l => TrackDocument.tracksOf_toJson l (portable_ofTrack hr hread hnow)) ?_ ?_ ?_
  · intro doc hdoc
    rw [List.mem_singleton.mp hdoc]
    exact importable_readBack hr hread now
  · exact List.nodup_singleton _
  · show (1 : Int) ≤ maxId
    decide

theorem counted_after (trail : Trail) {run : List Event}
    (hclock : ∀ e ∈ run, e.now.HasFourDigitYear) :
    ((Store.empty trail).after run).database.tracks.Counted :=
  Store.after_invariant (P := fun s => s.database.tracks.Counted)
    (fun e he s hs => (writes_next (hclock e he) s).counted hs) Table.Counted.empty

/-- After any run the active tracks can be taken to an empty store: they are exported, and what was
    exported carries them there in the order of their ids.  So it is of every single track. -/
theorem transfer (trail fresh : Trail) {run : List Event}
    (hclock : ∀ e ∈ run, e.now.HasFourDigitYear) {now : Instant} (hnow : now.HasFourDigitYear)
    (actor : Actor) :
    let s := (Store.empty trail).after run
    (∃ tracks docs, active.answer s = .ok tracks ∧ tracks.Pairwise (fun t u => t.id < u.id)
        ∧ (exportAll true actor now).answer s = .ok docs
        ∧ Carries fresh (.list TrackDocument.toJson docs) (tracks.map Track.content))
      ∧ ∀ r ∈ s.database.allTracks, ∃ t doc, (get r.id).answer s = .ok t
        ∧ (exportOne r.id actor now).answer s = .ok doc
        ∧ Carries fresh doc.toJson [t.content] := by
  intro s
  have hs : Stored s := (stored_empty trail).after hclock
  constructor
  · obtain ⟨tracks, hactive, hreads, hrising, -⟩ :=
      hs.readAll_answer (activeTracks_sublist s.database)
    rw [← active_answer] at hactive
    exact ⟨tracks, _, hactive, hrising, exportAll_answer hactive actor now,
      carries_active hs (counted_after trail hclock) hnow hreads fresh⟩
  · intro r hr
    obtain ⟨t, hread, hget⟩ := hs.get_answer hr
    exact ⟨t, _, hget, exportOne_answer hget actor now,
      carries_one (hs.kept r hr).sound hread hnow fresh⟩

/-- Three tracks, of which the first is given up. -/
def threeTracks : List Event :=
  let noon : Instant := ⟨1772366400, 0⟩
  let corridor : NewTrack := ⟨" Corridor ", Grid.corridor.render, 0, 0, .east, none, none⟩
  [⟨noon, .tracks (.create { corridor with name := "Lobby" } .system)⟩,
    ⟨noon, .tracks (.create { corridor with description := some "a \"long\"\nhall" } .system)⟩,
    ⟨noon, .tracks (.create { corridor with name := "Stairs", difficulty := some 4 } .system)⟩,
    ⟨noon, .tracks (.delete 1 .system)⟩]

/-- The two tracks that are left arrive together, and each of the three by itself. -/
theorem transfer_threeTracks :
    let s := (Store.empty .disabled).after threeTracks
    let now : Instant := ⟨1772366460, 0⟩
    (∀ e ∈ threeTracks, e.now.HasFourDigitYear) ∧ now.HasFourDigitYear
      ∧ s.database.activeTracks.map TrackRow.name = ["Corridor", "Stairs"]
      ∧ (∃ tracks docs, active.answer s = .ok tracks ∧ tracks.Pairwise (fun t u => t.id < u.id)
        ∧ (exportAll true .system now).answer s = .ok docs
        ∧ Carries .disabled (.list TrackDocument.toJson docs) (tracks.map Track.content))
      ∧ ∀ r ∈ s.database.allTracks, ∃ t doc, (get r.id).answer s = .ok t
        ∧ (exportOne r.id .system now).answer s = .ok doc
        ∧ Carries .disabled doc.toJson [t.content] := by
  have hclock : ∀ e ∈ threeTracks, e.now.HasFourDigitYear := by decide
  have hnow : (⟨1772366460, 0⟩ : Instant).HasFourDigitYear := by decide
  exact ⟨hclock, hnow, by decide +kernel, transfer .disabled .disabled hclock hnow .system⟩

end RobotMaze.Tracks
