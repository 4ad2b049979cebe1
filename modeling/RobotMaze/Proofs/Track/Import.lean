import RobotMaze.Proofs.Service.Recorded
import RobotMaze.Proofs.Store.Listing
import RobotMaze.Proofs.Track.Stored

/-! # Imports — stored tracks pass their own rules

    A stored track could be made once more just as it is.  Taken in under a name
    that is free it therefore becomes the same track again.

    * `Track.content` — what a track is made of;
    * `NewTrack.Clean` — input that its rules accept and leave as it is, as they do
      with every stored track (`TrackRow.Sound.clean`);
    * `Tracks.importOne_ends` — the row that an import adds;
    * `Tracks.Imported` — a store into which some contents were imported;
    * `Imported.after` — the imports of clean contents of different names. -/

namespace RobotMaze

open Time (Instant)

/-! ## Contents -/

/-- What a track is made of, whoever made it and when. -/
def Track.content (t : Track) : NewTrack :=
  ⟨t.name, t.gridConfig, t.startX, t.startY, t.heading, some t.difficulty, t.description⟩

/-- What the track of a row is made of. -/
def TrackRow.content (r : TrackRow) : NewTrack :=
  ⟨r.name, r.gridConfig, r.startX, r.startY, r.heading, some r.difficulty, r.description⟩

/-- What a checked track will be made of. -/
def CheckedTrack.content (t : CheckedTrack) : NewTrack :=
  ⟨t.name, t.grid.render, t.startX, t.startY, t.heading, some t.difficulty, t.description⟩

/-- Input that the rules of its fields accept and leave as it is. -/
def NewTrack.Clean (c : NewTrack) : Prop := ∃ t, c.check = .ok t ∧ t.content = c

namespace Track

theorem checkName_eq {name : String} (htrimmed : Text.trim name = name)
    (hlength : 1 ≤ name.length ∧ name.length ≤ 100) : checkName name = .ok name := by
  have hempty : ¬ name.isEmpty = true := by
    rw [String.isEmpty_iff]
    rintro rfl
    exact absurd hlength.1 (by decide)
  have hshort : ¬ maxTrackName < name.length := Nat.not_lt.mpr hlength.2
  simp only [checkName]
  rw [htrimmed, if_neg hempty, if_neg hshort]

theorem cleanDescription_eq {description : Option String}
    (hclean : ∀ d ∈ description, Text.trim d = d ∧ d ≠ "") :
    cleanDescription description = description := by
  cases description with
  | none => rfl
  | some d =>
      obtain ⟨htrimmed, hne⟩ := hclean d rfl
      have hempty : d.isEmpty = false := by
        rw [Bool.eq_false_iff, ne_eq, String.isEmpty_iff]
        exact hne
      simp [cleanDescription, htrimmed, hempty]

end Track

namespace TrackRow

variable {r : TrackRow}

/-- A stored track could be made once more just as it is. -/
theorem Sound.clean (h : r.Sound) : r.content.Clean := by
  obtain ⟨grid, hparse, hrender, hpath⟩ := h.layout
  refine ⟨⟨r.name, grid, r.startX, r.startY, r.heading, r.difficulty, r.description⟩, ?_, ?_⟩
  · have hstart : grid.checkStart r.startX r.startY = .ok () := if_pos hpath
    have hlevel : Track.checkDifficulty r.difficulty = .ok r.difficulty :=
      if_pos h.difficulty_bounds
    simp only [NewTrack.check, content, Option.getD_some]
    rw [Track.checkName_eq h.name_trimmed h.name_length, hparse,
      Track.cleanDescription_eq h.description_clean]
    show (grid.checkStart r.startX r.startY >>= fun _ => _) = _
    rw [hstart]
    show (Track.checkDifficulty r.difficulty >>= fun _ => _) = _
    rw [hlevel]
    rfl
  · simp only [CheckedTrack.content, content]
    rw [hrender]

/-- The track that is read from a row has the content of the row. -/
theorem Sound.content_of_read (h : r.Sound) {t : Track} (hread : r.read = .ok t) :
    t.content = r.content := by
  have hdescription : readText r.description = r.description := by
    cases hsome : r.description with
    | none => rfl
    | some d =>
        have hne := (h.description_clean d hsome).2
        simp [readText, hne]
  simp only [read] at hread
  obtain ⟨x, hx, hread⟩ := ok_of_bind hread
  obtain ⟨y, hy, hread⟩ := ok_of_bind hread
  obtain ⟨createdAt, -, hread⟩ := ok_of_bind hread
  obtain ⟨updatedAt, -, hread⟩ := ok_of_bind hread
  obtain ⟨level, hlevel, hread⟩ := ok_of_bind hread
  injection hread with hread
  rw [← hread]
  simp only [Track.content, content]
  rw [readInt32_ok hx, readInt32_ok hy, readInt32_ok hlevel, hdescription]

end TrackRow

namespace Tracks

variable {s : Store} {now : Instant} {doc : TrackDocument}

/-- Rows of a store can be read, any of them, and in their order; the tracks that are read have their
    contents. -/
theorem Stored.readAll_answer (hs : Stored s) {rows : List TrackRow}
    (hrows : rows.Sublist s.database.tracks.rows) : ∃ tracks, (readAll rows).answer s = .ok tracks
      ∧ List.Forall₂ (fun row t => row.read = .ok t) rows tracks
      ∧ tracks.Pairwise (fun t u => t.id < u.id)
      ∧ tracks.map Track.content = rows.map TrackRow.content := by
  obtain ⟨tracks, htracks⟩ := exists_mapM_iff.mpr fun row hrow =>
    have hkept := hs.kept row (hrows.subset hrow)
    TrackRow.exists_read hkept.sound hkept.readable
  have hreads := mapM_ok_iff.mp htracks
  refine ⟨tracks, ?_, hreads, ?_, map_eq_of_forall₂ hreads fun row hrow t hread =>
    (hs.kept row (hrows.subset hrow)).sound.content_of_read hread⟩
  · simp only [readAll]
    rw [Op.answer_ofRead]
    exact htracks
  · have hids : tracks.map Track.id = rows.map Row.id :=
      map_eq_of_forall₂ hreads fun row _ t hread => by rw [TrackRow.eq_of_read hread]; rfl
    have hrising := List.pairwise_map.mpr (hs.numbered.rising.sublist hrows)
    rw [← hids] at hrising
    exact List.pairwise_map.mp hrising

theorem active_answer (s : Store) : active.answer s = (readAll s.database.activeTracks).answer s := by
  simp only [active]
  rw [Op.Reads.answer_bind (Op.keeps_query _), Op.answer_query]

theorem all_answer (s : Store) : all.answer s = (readAll s.database.tracks.rows).answer s := by
  simp only [all]
  rw [Op.Reads.answer_bind (Op.keeps_query _), Op.answer_query]
  rfl

theorem activeTracks_sublist (db : Database) : db.activeTracks.Sublist db.tracks.rows :=
  List.filter_sublist

/-- The name of input that passed the rules. -/
theorem checkName_of_check {c : NewTrack} {checked : CheckedTrack} (hcheck : c.check = .ok checked) :
    Track.checkName c.name = .ok checked.name := by
  simp only [NewTrack.check] at hcheck
  obtain ⟨name, hname, hcheck⟩ := ok_of_bind hcheck
  obtain ⟨grid, -, hcheck⟩ := ok_of_bind hcheck
  obtain ⟨u, -, hcheck⟩ := ok_of_bind hcheck
  obtain ⟨level, -, hcheck⟩ := ok_of_bind hcheck
  rw [hname, ← Except.ok.inj hcheck]

/-- The checks of clean input leave its name as it is. -/
theorem name_of_check {c : NewTrack} {checked : CheckedTrack} (hcheck : c.check = .ok checked)
    (hcontent : checked.content = c) : Track.checkName c.name = .ok c.name := by
  have hkept : checked.name = c.name := congrArg NewTrack.name hcontent
  rw [checkName_of_check hcheck, hkept]

/-- A new track is accepted beside tracks of other names. -/
theorem acceptable_newTrackRow {input : NewTrack} {checked : CheckedTrack}
    (hcheck : input.check = .ok checked) (createdBy : Option String) (now : Instant) (id : Int)
    {others : List TrackRow}
    (hname : ∀ r ∈ others.filter Database.trackIsActive, r.name ≠ checked.name) :
    Database.trackIsAcceptable (Database.newTrackRow checked createdBy now id) others = true := by
  obtain ⟨hlow, hhigh⟩ := (newTrackRow_sound hcheck createdBy now id).difficulty_bounds
  have hfree : (others.any fun o => Database.trackIsActive o && o.name == checked.name) = false := by
    rw [List.any_eq_false]
    intro o ho hsame
    rw [Bool.and_eq_true, beq_iff_eq] at hsame
    exact hname o (List.mem_filter.mpr ⟨ho, hsame.1⟩) hsame.2
  simp only [Database.trackIsAcceptable, Bool.and_eq_true, decide_eq_true_eq]
  refine ⟨⟨hlow, hhigh⟩, ?_⟩
  show (!(true && others.any fun o => Database.trackIsActive o && o.name == checked.name)) = true
  rw [hfree]
  rfl

/-- The names of the active tracks are those of their rows. -/
theorem names_of_reads {rows : List TrackRow} {tracks : List Track}
    (hreads : List.Forall₂ (fun row t => row.read = .ok t) rows tracks) :
    tracks.map Track.name = rows.map TrackRow.name :=
  map_eq_of_forall₂ hreads fun row _ t hread => by rw [TrackRow.eq_of_read hread]

section Importing

variable {base : String} {P : Except Failure Track → Store → Prop}

/-- An import looks at the version and the name of its document and at the active tracks; it then
    checks the input under the name that it has chosen. -/
theorem importOne_ends_of_checks (hs : Stored s)
    (hversion : doc.version = TrackDocument.currentVersion)
    (hbase : Track.checkName doc.name = .ok base) (actor : Actor) (now : Instant)
    (h : (do
        let checked ← Op.ofCheck { doc.toNewTrack with
          name := freeName (s.database.activeTracks.map TrackRow.name) base }.check
        let t ← store checked actor now
        AuditLog.note (event actor "Track imported" .imported t) now
        return t : Op Track).Ends s P) : (importOne doc actor now).Ends s P := by
  obtain ⟨tracks, hactive, hreads, -⟩ := hs.readAll_answer (activeTracks_sublist s.database)
  rw [← active_answer] at hactive
  rw [← names_of_reads hreads] at h
  have hversionOk : doc.checkVersion = .ok () := if_pos hversion
  simp only [importOne]
  refine Op.Ends.reading_of_answer (Op.keeps_ofCheck _) (Op.answer_ofCheck_ok hversionOk) ?_
  refine Op.Ends.reading_of_answer (Op.keeps_ofCheck _) (Op.answer_ofCheck_ok hbase) ?_
  exact Op.Ends.reading_of_answer keeps_active hactive h

/-- An import whose input is right under the first free name adds its row. -/
theorem importOne_stores (hs : Stored s) (hnow : now.HasFourDigitYear)
    (hversion : doc.version = TrackDocument.currentVersion)
    (hbase : Track.checkName doc.name = .ok base) {checked : CheckedTrack} {input : NewTrack}
    (hinput : input = { doc.toNewTrack with
      name := freeName (s.database.activeTracks.map TrackRow.name) base })
    (hcheck : input.check = .ok checked)
    (hname : checked.name ∉ s.database.activeTracks.map TrackRow.name) {id : Int}
    (hnext : s.database.tracks.nextId? = some id) (actor : Actor) :
    (importOne doc actor now).Ends s fun r u => ∃ t, r = .ok t
      ∧ (Database.newTrackRow checked actor.username now id).read = .ok t
      ∧ u.database.tracks
        = s.database.tracks.append (Database.newTrackRow checked actor.username now id) := by
  refine importOne_ends_of_checks hs hversion hbase actor now ?_
  rw [← hinput]
  refine Op.Ends.reading_of_answer (Op.keeps_ofCheck _) (Op.answer_ofCheck_ok hcheck) ?_
  have hother : ∀ row ∈ s.database.activeTracks, row.name ≠ checked.name :=
    fun row hrow hsame => hname (hsame ▸ List.mem_map_of_mem hrow)
  have hinsert : Database.insertTrack checked actor.username now s.database
      = .ok (Database.newTrackRow checked actor.username now id, { s.database with
        tracks := s.database.tracks.append
          (Database.newTrackRow checked actor.username now id) }) := by
    have hacceptable := acceptable_newTrackRow hcheck actor.username now id hother
    simp only [Database.insertTrack, Table.insert, hnext, hacceptable]
    rfl
  obtain ⟨t, hread⟩ := TrackRow.exists_read (newTrackRow_sound hcheck actor.username now id)
    (newTrackRow_readable hnow checked actor.username id)
  have hstore : (store checked actor now).Ends s fun r u => r = .ok t ∧ u.database.tracks
      = s.database.tracks.append (Database.newTrackRow checked actor.username now id) := by
    simp only [store]
    refine Op.Ends.changing (fun f hf => ?_) fun row db hdb => ?_
    · cases hinsert.symm.trans hf
    obtain ⟨rfl, rfl⟩ := Prod.mk.inj (Except.ok.inj (hinsert.symm.trans hdb))
    exact Op.Reads.ends (Op.keeps_ofRead _) (Op.answer_ofRead _) ⟨hread, rfl⟩
  refine hstore.bind ?_ ?_
  · rintro _ u ⟨ht, htracks⟩
    obtain rfl := Except.ok.inj ht
    exact Op.Ends.noting (Op.ends_pure ⟨_, rfl, hread, Store.noted_tracks.trans htracks⟩)
  · rintro f u ⟨ht, -⟩
    cases ht

end Importing

/-- An import of clean content under a free name adds a row of that content. -/
theorem importOne_ends (hs : Stored s) (hnow : now.HasFourDigitYear)
    (hversion : doc.version = TrackDocument.currentVersion) (hclean : doc.toNewTrack.Clean)
    (hname : ∀ r ∈ s.database.activeTracks, r.name ≠ doc.name) {id : Int}
    (hnext : s.database.tracks.nextId? = some id) (actor : Actor) :
    (importOne doc actor now).Ends s fun r u => (∃ t, r = .ok t) ∧ ∃ row, row.id = id
      ∧ u.database.tracks = s.database.tracks.append row ∧ row.content = doc.toNewTrack := by
  obtain ⟨checked, hcheck, hcontent⟩ := hclean
  have hfree : doc.name ∉ s.database.activeTracks.map TrackRow.name := by
    rw [List.mem_map]
    rintro ⟨row, hrow, hsame⟩
    exact hname row hrow hsame
  have hkeep : freeName (s.database.activeTracks.map TrackRow.name) doc.name = doc.name := by
    rw [freeName, freeName?, if_neg (mt List.contains_iff_mem.mp hfree)]
    rfl
  have hinput : doc.toNewTrack = { doc.toNewTrack with
      name := freeName (s.database.activeTracks.map TrackRow.name) doc.name } := by
    rw [hkeep]
    rfl
  have hsame : checked.name = doc.name := congrArg NewTrack.name hcontent
  have hbase : Track.checkName doc.toNewTrack.name = .ok doc.toNewTrack.name :=
    name_of_check hcheck hcontent
  rw [← hsame] at hfree
  refine (importOne_stores hs hnow hversion hbase hinput hcheck hfree hnext actor).imp ?_
  rintro r u ⟨t, ht, -, htracks⟩
  exact ⟨⟨t, ht⟩, _, rfl, htracks, hcontent⟩

end Tracks

/-! ## Imports one after another -/

/-- A call imports a document, on whoever's behalf. -/
def Event.Imports (e : Event) (doc : TrackDocument) : Prop :=
  ∃ actor, e.call = .tracks (.importOne doc actor)

/-- Every call of a run succeeds. -/
def Store.Succeeds (s : Store) (run : List Event) : Prop :=
  ∀ early e late, run = early ++ e :: late →
    ∃ a, (e.call.op e.now).2.answer (s.after early) = .ok a

theorem Store.succeeds_cons {s : Store} {e : Event} {rest : List Event}
    (hfirst : ∃ a, (e.call.op e.now).2.answer s = .ok a) (hrest : (s.next e).Succeeds rest) :
    s.Succeeds (e :: rest) := by
  intro early f late hsplit
  cases early with
  | nil =>
      obtain ⟨rfl, -⟩ := List.cons.inj hsplit
      exact hfirst
  | cons g early =>
      obtain ⟨rfl, hmore⟩ := List.cons.inj hsplit
      exact hrest early f late hmore

namespace Tracks

/-- A document of the current version whose content is clean. -/
structure Importable (doc : TrackDocument) : Prop where
  version : doc.version = TrackDocument.currentVersion
  clean : doc.toNewTrack.Clean

/-- A store with just the tracks of some contents, in this order. -/
structure Imported (s : Store) (contents : List NewTrack) : Prop where
  stored : Stored s
  counted : s.database.tracks.Counted
  lastId_eq : s.database.tracks.lastId = contents.length
  contents_eq : s.database.tracks.rows.map TrackRow.content = contents

namespace Imported

variable {s : Store} {done : List NewTrack} {doc : TrackDocument} {docs : List TrackDocument}

theorem empty (trail : Trail) : Imported (Store.empty trail) [] :=
  ⟨stored_empty trail, Table.Counted.empty, rfl, rfl⟩

/-- An import of a document whose name is free adds its content. -/
theorem next (h : Imported s done) (hdoc : Importable doc)
    (hname : doc.name ∉ done.map NewTrack.name) (hfree : (done.length : Int) < maxId) {e : Event}
    (he : e.Imports doc) (hnow : e.now.HasFourDigitYear) :
    (∃ a, (e.call.op e.now).2.answer s = .ok a)
      ∧ Imported (s.next e) (done ++ [doc.toNewTrack]) := by
  have hwrites := writes_next hnow s
  obtain ⟨now, call⟩ := e
  obtain ⟨actor, rfl⟩ : ∃ actor, call = .tracks (.importOne doc actor) := he
  have hnext : s.database.tracks.nextId? = some ((done.length : Int) + 1) := by
    rw [h.counted.nextId?_of_lt (h.lastId_eq ▸ hfree), h.lastId_eq]
  have hother : ∀ r ∈ s.database.activeTracks, r.name ≠ doc.name := by
    intro r hr hsame
    refine hname (List.mem_map.mpr ⟨r.content, ?_, hsame⟩)
    exact h.contents_eq ▸ List.mem_map_of_mem (List.mem_filter.mp hr).1
  obtain ⟨hok, row, hid, htracks, hcontent⟩ :=
    importOne_ends h.stored hnow hdoc.version hdoc.clean hother hnext actor
  have htracks : (s.next ⟨now, .tracks (.importOne doc actor)⟩).database.tracks
      = s.database.tracks.append row := htracks
  refine ⟨hok, h.stored.writes hwrites, hwrites.counted h.counted, ?_, ?_⟩
  · rw [htracks]
    show row.id = _
    rw [hid, List.length_append]
    rfl
  · rw [htracks]
    show (s.database.tracks.rows ++ [row]).map TrackRow.content = _
    rw [List.map_append, h.contents_eq, List.map_singleton, hcontent]

/-- Documents of different names are all imported, one after another, by anyone and at any time, as
    long as there are ids. -/
theorem after {imports : List Event} (h : Imported s done)
    (himports : List.Forall₂ Event.Imports imports docs)
    (hclock : ∀ e ∈ imports, e.now.HasFourDigitYear) (hdocs : ∀ doc ∈ docs, Importable doc)
    (hnames : (done.map NewTrack.name ++ docs.map TrackDocument.name).Nodup)
    (hfits : (done.length + docs.length : Int) ≤ maxId) :
    s.Succeeds imports ∧ Imported (s.after imports) (done ++ docs.map TrackDocument.toNewTrack) := by
  induction himports generalizing s done with
  | nil =>
      refine ⟨fun early e late hsplit => ?_, ?_⟩
      · cases early <;> cases hsplit
      · rw [List.map_nil, List.append_nil]
        exact h
  | @cons e doc imports docs he _ ih =>
      obtain ⟨hnow, hclock⟩ := List.forall_mem_cons.mp hclock
      obtain ⟨hdoc, hdocs⟩ := List.forall_mem_cons.mp hdocs
      rw [List.map_cons] at hnames
      rw [List.length_cons] at hfits
      have hname : doc.name ∉ done.map NewTrack.name := fun hmem =>
        (List.disjoint_of_nodup_append hnames) hmem List.mem_cons_self
      obtain ⟨hok, hnext⟩ := h.next hdoc hname (by omega) he hnow
      have hmore : ((done ++ [doc.toNewTrack]).map NewTrack.name
          ++ docs.map TrackDocument.name).Nodup := by
        rw [List.map_append, List.append_assoc]
        exact hnames
      obtain ⟨hrest, hend⟩ := ih hnext hclock hdocs hmore
        (by rw [List.length_append, List.length_singleton]; omega)
      refine ⟨Store.succeeds_cons hok hrest, ?_⟩
      rw [List.map_cons, List.append_cons]
      exact hend

end Imported

end Tracks

end RobotMaze
