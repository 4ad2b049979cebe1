import RobotMaze.Proofs.Track.FreeName
import RobotMaze.Proofs.Track.Transfer

/-! # Renamed tracks — imports under a name that is taken

    A document that an empty store takes in is taken in by any other store too,
    as a track of the same content under the first free name, unless that name
    has become too long.

    * `NewTrack.check_renamed` — the rules of a name do not depend on the rest of
      the input;
    * `Tracks.accepted_of_answer` — what an empty store takes in passes the rules;
    * `Tracks.importOne_renamed` — what any store does with it;
    * `Tracks.importOne_again` — a name that leaves no room for a number. -/

namespace RobotMaze

open Time (Instant)

/-- Input that is right stays so under another name that is right. -/
theorem NewTrack.check_renamed {c : NewTrack} {checked : CheckedTrack}
    (h : c.check = .ok checked) {name : String} (hname : Track.checkName name = .ok name) :
    { c with name }.check = .ok { checked with name } := by
  simp only [check] at h ⊢
  obtain ⟨old, -, h⟩ := ok_of_bind h
  obtain ⟨grid, hgrid, h⟩ := ok_of_bind h
  obtain ⟨u, hstart, h⟩ := ok_of_bind h
  obtain ⟨level, hlevel, h⟩ := ok_of_bind h
  obtain rfl := Except.ok.inj h
  rw [hname, hgrid]
  show (grid.checkStart c.startX c.startY >>= fun _ => _) = _
  rw [hstart]
  show (Track.checkDifficulty _ >>= fun _ => _) = _
  rw [hlevel]
  rfl

/-- A document whose version is accepted is of the current one. -/
theorem TrackDocument.version_of_check {doc : TrackDocument} {u : Unit}
    (h : doc.checkVersion = .ok u) : doc.version = currentVersion := by
  simp only [checkVersion] at h
  by_cases hversion : doc.version = currentVersion
  · exact hversion
  · rw [if_neg hversion] at h
    cases h

/-- Input whose name is too long is rejected for that, whatever else it holds. -/
theorem NewTrack.check_tooLong {c : NewTrack} (htrimmed : Text.trim c.name = c.name)
    (hlong : 100 < c.name.length) : c.check = .error .trackNameTooLong := by
  have hname : Track.checkName c.name = .error .trackNameTooLong := by
    have hne : ¬ c.name.isEmpty = true := by
      rw [String.isEmpty_iff]
      intro hempty
      rw [hempty] at hlong
      exact absurd hlong (by decide)
    simp only [Track.checkName]
    rw [htrimmed, if_neg hne, if_pos (show maxTrackName < c.name.length from hlong)]
  simp only [check]
  rw [hname]
  rfl

namespace Tracks

variable {doc : TrackDocument} {now : Instant}

/-- What is stored for input that passed the rules has its content. -/
theorem store_content {input : NewTrack} {checked : CheckedTrack}
    (hcheck : input.check = .ok checked) (actor : Actor) (now : Instant) (s : Store) :
    (store checked actor now).Ends s fun r _ => ∀ t, r = .ok t → t.content = checked.content := by
  simp only [store]
  refine Op.Ends.changing (fun _ _ => forall_ok_of_error) fun row db hdb => ?_
  obtain ⟨tracks, hinsert, rfl⟩ := Database.insertTrack_ok hdb
  obtain ⟨id, -, rfl, -, rfl⟩ := Table.insert_ok hinsert
  refine Op.Reads.ends (Op.keeps_ofRead _) (Op.answer_ofRead _) fun t hread => ?_
  exact (newTrackRow_sound hcheck actor.username now id).content_of_read hread

/-- A document of the current version whose content is right under its trimmed name. -/
structure Accepted (doc : TrackDocument) (content : NewTrack) : Prop where
  version : doc.version = TrackDocument.currentVersion
  name : Track.checkName doc.name = .ok (Text.trim doc.name)
  checked : ∃ checked, { doc.toNewTrack with name := Text.trim doc.name }.check = .ok checked
    ∧ checked.content = content

/-- What an empty store takes in passes the rules, and the track that is made has that content. -/
theorem accepted_of_answer {trail : Trail} {author : Actor} {t : Track}
    (h : (importOne doc author now).answer (Store.empty trail) = .ok t) :
    Accepted doc t.content := by
  have hends : (importOne doc author now).Ends (Store.empty trail) fun r _ =>
      ∀ t, r = .ok t → Accepted doc t.content := by
    simp only [importOne]
    refine Op.Ends.reading (Op.keeps_ofCheck _) (fun _ _ => forall_ok_of_error) fun _ hversion => ?_
    refine Op.Ends.reading (Op.keeps_ofCheck _) (fun _ _ => forall_ok_of_error) fun base hbase => ?_
    refine Op.Ends.reading keeps_active (fun _ _ => forall_ok_of_error) fun tracks hactive => ?_
    refine Op.Ends.reading (Op.keeps_ofCheck _) (fun _ _ => forall_ok_of_error) fun checked hcheck => ?_
    have hbase : Track.checkName doc.name = .ok base := Op.ofCheck_ok hbase
    have hname : base = Text.trim doc.name := Track.eq_trim_of_checkName hbase
    have hnone : tracks = [] := (Except.ok.inj hactive).symm
    have hcheck := Op.ofCheck_ok hcheck
    rw [hnone] at hcheck
    have hkept : freeName ([] : List String) base = base := rfl
    rw [List.map_nil, hkept, hname] at hcheck
    rw [hname] at hbase
    refine (store_content hcheck author now _).bind ?_ fun _ _ _ _ h => by cases h
    intro made u hmade
    refine Op.Ends.noting (Op.ends_pure fun t ht => ?_)
    obtain rfl := Except.ok.inj ht
    exact ⟨TrackDocument.version_of_check (Op.ofCheck_ok hversion), hbase, checked, hcheck,
      (hmade made rfl).symm⟩
  exact hends t h

variable {s : Store} {content : NewTrack}

/-- Under a name that has become too long the document is rejected. -/
theorem importOne_ends_of_long (hs : Stored s) (h : Accepted doc content) {name : String}
    (hname : freeName (s.database.activeTracks.map TrackRow.name) (Text.trim doc.name) = name)
    (htrimmed : Text.trim name = name) (hlong : 100 < name.length) (actor : Actor) :
    (importOne doc actor now).Ends s fun r u => r = .error (.rejected .trackNameTooLong) ∧ u = s := by
  refine importOne_ends_of_checks hs h.version h.name actor now ?_
  rw [hname]
  have hcheck : { doc.toNewTrack with name }.check = .error .trackNameTooLong :=
    NewTrack.check_tooLong htrimmed hlong
  refine Op.Ends.reading (Op.keeps_ofCheck _) (fun e he => ?_) fun checked hchecked => ?_
  · rw [Op.answer_ofCheck_error hcheck] at he
    exact ⟨congrArg _ (Except.error.inj he).symm, rfl⟩
  · rw [Op.answer_ofCheck_error hcheck] at hchecked
    cases hchecked

/-- Without an id for its track the document is refused. -/
theorem importOne_ends_of_full (hs : Stored s) (h : Accepted doc content) {name : String}
    (hname : freeName (s.database.activeTracks.map TrackRow.name) (Text.trim doc.name) = name)
    (hright : Track.checkName name = .ok name) (hfull : s.database.tracks.nextId? = none)
    (actor : Actor) :
    (importOne doc actor now).Ends s fun r u => r = .error .refused ∧ u = s := by
  obtain ⟨checked, hcheck, -⟩ := h.checked
  refine importOne_ends_of_checks hs h.version h.name actor now ?_
  rw [hname]
  have hcheck : { doc.toNewTrack with name }.check = .ok { checked with name } :=
    NewTrack.check_renamed hcheck hright
  refine Op.Ends.reading_of_answer (Op.keeps_ofCheck _) (Op.answer_ofCheck_ok hcheck) ?_
  have hinsert : Database.insertTrack { checked with name } actor.username now s.database
      = .error .refused := by
    simp only [Database.insertTrack, Table.insert, hfull]
    rfl
  have hstore : (store { checked with name } actor now).Ends s fun r u =>
      r = .error .refused ∧ u = s := by
    simp only [store]
    refine Op.Ends.changing (fun e he => ?_) fun row db hdb => ?_
    · exact ⟨congrArg _ (Except.error.inj (hinsert.symm.trans he)).symm, rfl⟩
    · cases hinsert.symm.trans hdb
  refine hstore.bind (fun t u ht => ?_) fun e u he => he
  cases ht.1

/-- What an empty store takes in any store takes in, under the first free name, as a track of the
    same content, while there is an id for it; but it is rejected, and nothing is stored, where the
    number makes that name longer than a name may be.  Nothing is said of a store in which every
    number that the counter has makes the name of an active track. -/
theorem importOne_renamed (trail fresh : Trail) {run : List Event}
    (hclock : ∀ e ∈ run, e.now.HasFourDigitYear) {now : Instant} (hnow : now.HasFourDigitYear)
    {doc : TrackDocument} {author : Actor} {early : Instant} {first : Track}
    (haccepted : (importOne doc author early).answer (Store.empty fresh) = .ok first)
    (actor : Actor) :
    let s := (Store.empty trail).after run
    NoneFree (s.database.activeTracks.map TrackRow.name) (Text.trim doc.name)
      ∨ ∃ name, FirstFree (s.database.activeTracks.map TrackRow.name) (Text.trim doc.name) name
        ∧ (importOne doc actor now).Ends s fun r u =>
          if 100 < name.length then r = .error (.rejected .trackNameTooLong) ∧ u = s
          else if s.database.tracks.lastId = maxId then r = .error .refused ∧ u = s
          else ∃ t row, r = .ok t ∧ t.content = { first.content with name } ∧ row.read = .ok t
            ∧ u.database.tracks = s.database.tracks.append row := by
  intro s
  by_cases hnone : NoneFree (s.database.activeTracks.map TrackRow.name) (Text.trim doc.name)
  · exact .inl hnone
  right
  have hs : Stored s := (stored_empty trail).after hclock
  have hcounted : s.database.tracks.Counted := counted_after trail hclock
  have haccepted := accepted_of_answer haccepted
  obtain ⟨htrimmedBase, hbase, -⟩ := Track.checkName_ok haccepted.name
  obtain ⟨name, hname⟩ : ∃ name,
      freeName (s.database.activeTracks.map TrackRow.name) (Text.trim doc.name) = name := ⟨_, rfl⟩
  have hfirst := freeName_firstFree hnone
  rw [hname] at hfirst
  have hne : Text.trim doc.name ≠ "" := by
    intro hempty
    rw [hempty] at hbase
    exact absurd hbase (by decide)
  have htrimmed : Text.trim name = name := hfirst.trim_eq htrimmedBase hne
  refine ⟨name, hfirst, ?_⟩
  by_cases hlong : 100 < name.length
  · simp only [if_pos hlong]
    exact importOne_ends_of_long hs haccepted hname htrimmed hlong actor
  simp only [if_neg hlong]
  have hright : Track.checkName name = .ok name :=
    Track.checkName_eq htrimmed ⟨hfirst.length_pos hne, Nat.le_of_not_lt hlong⟩
  by_cases hfull : s.database.tracks.lastId = maxId
  · simp only [if_pos hfull]
    exact importOne_ends_of_full hs haccepted hname hright (if_pos (Or.inl hfull)) actor
  simp only [if_neg hfull]
  have hnext := hcounted.nextId?_of_lt (lt_of_le_of_ne hcounted.lastId_le hfull)
  obtain ⟨checked, hcheck, hcontent⟩ := haccepted.checked
  have hcheck : { doc.toNewTrack with name }.check = .ok { checked with name } :=
    NewTrack.check_renamed hcheck hright
  refine (importOne_stores hs hnow haccepted.version haccepted.name (by rw [hname]) hcheck
    hfirst.free hnext actor).imp ?_
  rintro r u ⟨t, ht, hread, htracks⟩
  refine ⟨t, _, ht, ?_, hread, htracks⟩
  rw [(newTrackRow_sound hcheck _ _ _).content_of_read hread, ← hcontent]
  rfl

/-- The document of a corridor. -/
def corridorDocument (name : String) : TrackDocument :=
  ⟨name, Grid.corridor.render, 0, 0, .east, 2, some " straight on ", TrackDocument.currentVersion,
    none⟩

/-- The corridor is imported twice. -/
def twoImports (name : String) : List Event :=
  [⟨⟨1772366400, 0⟩, .tracks (.importOne (corridorDocument name) .system)⟩,
    ⟨⟨1772366400, 0⟩, .tracks (.importOne (corridorDocument name) .system)⟩]

/-- The third import finds the name taken, alone and with a number. -/
theorem importOne_renamed_corridor :
    let now : Instant := ⟨1772366460, 0⟩
    let doc := corridorDocument " Corridor "
    let s := (Store.empty .disabled).after (twoImports " Corridor ")
    (∀ e ∈ twoImports " Corridor ", e.now.HasFourDigitYear) ∧ now.HasFourDigitYear
      ∧ s.database.activeTracks.map TrackRow.name = ["Corridor", "Corridor (1)"]
      ∧ ∃ first, (importOne doc .system now).answer (Store.empty .disabled) = .ok first
        ∧ ∃ name, FirstFree (s.database.activeTracks.map TrackRow.name) (Text.trim doc.name) name
          ∧ (importOne doc .system now).Ends s fun r u =>
            if 100 < name.length then r = .error (.rejected .trackNameTooLong) ∧ u = s
            else if s.database.tracks.lastId = maxId then r = .error .refused ∧ u = s
            else ∃ t row, r = .ok t ∧ t.content = { first.content with name } ∧ row.read = .ok t
              ∧ u.database.tracks = s.database.tracks.append row := by
  have hclock : ∀ e ∈ twoImports " Corridor ", e.now.HasFourDigitYear := by decide
  have hnow : (⟨1772366460, 0⟩ : Instant).HasFourDigitYear := by decide
  have hnames : ((Store.empty .disabled).after (twoImports " Corridor ")).database.activeTracks.map
      TrackRow.name = ["Corridor", "Corridor (1)"] := by
    decide +kernel
  have hok : ((importOne (corridorDocument " Corridor ") .system ⟨1772366460, 0⟩).answer
      (Store.empty .disabled)).isOk = true := by
    decide +kernel
  obtain ⟨first, hfirst⟩ : ∃ first, (importOne (corridorDocument " Corridor ") .system
      ⟨1772366460, 0⟩).answer (Store.empty .disabled) = .ok first := exists_ok hok
  refine ⟨hclock, hnow, hnames, first, hfirst, ?_⟩
  rcases importOne_renamed .disabled .disabled hclock hnow hfirst .system with ⟨-, hnone⟩ | himport
  · -- two tracks do not take all names
    rw [hnames] at hnone
    exact absurd (hnone 2 (by decide) (by decide)) (by decide)
  · exact himport

/-- A document that has been imported is rejected from then on, if its name leaves no room for a
    number. -/
theorem importOne_again {trail : Trail} {actor : Actor} (hnow : now.HasFourDigitYear)
    {first : Track} (haccepted : (importOne doc actor now).answer (Store.empty trail) = .ok first)
    (hlong : 96 < (Text.trim doc.name).length) :
    (importOne doc actor now).answer ((importOne doc actor now).run (Store.empty trail)).2
      = .error (.rejected .trackNameTooLong) := by
  have h := accepted_of_answer haccepted
  obtain ⟨checked, hcheck, -⟩ := h.checked
  have hname : checked.name = Text.trim doc.name := by
    rw [Track.eq_trim_of_checkName (checkName_of_check hcheck), Text.trim_trim]
  obtain ⟨t, -, -, htracks⟩ := importOne_stores (stored_empty trail) hnow h.version h.name rfl
    hcheck List.not_mem_nil rfl actor
  have hs : Stored ((importOne doc actor now).run (Store.empty trail)).2 :=
    (stored_empty trail).writes (importOne_writes hnow actor _ doc).store
  generalize ((importOne doc actor now).run (Store.empty trail)).2 = u at htracks hs ⊢
  have hactive : u.database.activeTracks.map TrackRow.name = [Text.trim doc.name] := by
    simp only [Database.activeTracks]
    rw [htracks, ← hname]
    rfl
  have hsome : ¬ NoneFree (u.database.activeTracks.map TrackRow.name) (Text.trim doc.name) := by
    rw [hactive]
    rintro ⟨-, hall⟩
    exact ne_numberedName _ _ (List.mem_singleton.mp (hall 1 (by decide) (by decide))).symm
  have hfirst := freeName_firstFree hsome
  have hlonger := hfirst.length_of_mem (hactive ▸ List.mem_singleton_self _)
  have hne : Text.trim doc.name ≠ "" := by
    intro hempty
    rw [hempty] at hlong
    exact absurd hlong (by decide)
  have hends : (importOne doc actor now).Ends u fun r t =>
      r = .error (.rejected .trackNameTooLong) ∧ t = u :=
    importOne_ends_of_long hs h rfl (hfirst.trim_eq (Text.trim_trim _) hne) (by omega) actor
  exact hends.1

/-- Under a name that leaves no room for a number the corridor is imported once, and then no more. -/
theorem importOne_corridor {name : String} (hname : Track.checkName name = .ok name)
    (hlong : 96 < name.length) {now : Instant} (hnow : now.HasFourDigitYear) :
    ∃ first, (importOne (corridorDocument name) .system now).answer (Store.empty .disabled)
        = .ok first
      ∧ (importOne (corridorDocument name) .system now).answer
          ((Store.empty .disabled).after [⟨now, .tracks (.importOne (corridorDocument name) .system)⟩])
        = .error (.rejected .trackNameTooLong) := by
  obtain ⟨checked, hcheck⟩ := exists_ok (x := (corridorDocument "Corridor").toNewTrack.check)
    (by decide +kernel)
  have hrenamed : (corridorDocument name).toNewTrack.check = .ok { checked with name } :=
    NewTrack.check_renamed hcheck hname
  have hversion : (corridorDocument name).version = TrackDocument.currentVersion := rfl
  obtain ⟨first, hfirst, -⟩ := importOne_stores (stored_empty .disabled) hnow hversion hname rfl
    hrenamed List.not_mem_nil rfl .system
  refine ⟨first, hfirst, importOne_again hnow hfirst ?_⟩
  show 96 < (Text.trim name).length
  rw [← Track.eq_trim_of_checkName hname]
  exact hlong

/-- A name of some length. -/
def nameOfLength (n : Nat) : String := String.ofList (List.replicate n 'a')

theorem length_nameOfLength (n : Nat) : (nameOfLength n).length = n := by
  rw [nameOfLength, String.length_ofList, List.length_replicate]

theorem trim_nameOfLength (n : Nat) : Text.trim (nameOfLength n) = nameOfLength n := by
  rw [nameOfLength, Text.trim, String.toList_ofList]
  cases n with
  | zero => rfl
  | succ n =>
      rw [List.replicate_succ', Text.trimChars_eq_self _ (by decide)]
      intro c hc
      rw [← List.replicate_succ'] at hc
      rw [List.eq_of_mem_replicate (List.mem_of_mem_head? hc)]
      decide

/-- A document with a name of a hundred characters is imported once. -/
theorem importOne_hundred :
    let now : Instant := ⟨1772366460, 0⟩
    let doc := corridorDocument (nameOfLength 100)
    ∃ first, (importOne doc .system now).answer (Store.empty .disabled) = .ok first
      ∧ (importOne doc .system now).answer
          ((Store.empty .disabled).after [⟨now, .tracks (.importOne doc .system)⟩])
        = .error (.rejected .trackNameTooLong) :=
  importOne_corridor
    (Track.checkName_eq (trim_nameOfLength 100) (by rw [length_nameOfLength]; decide))
    (by rw [length_nameOfLength]; decide) (by decide)

end Tracks

end RobotMaze
