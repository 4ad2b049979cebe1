import RobotMaze.Proofs.Service.Readable
import RobotMaze.Proofs.Track.Stored
import RobotMaze.Proofs.Web.Cookie
import RobotMaze.Proofs.Web.ScriptText

/-! # The game page — where its script ends

    The game page holds the track that is played as a data block, a script element whose
    text is not read as markup.

    * `Request.AsksForGame` — a request for the game page, with the track that it names;
    * `toList_gamePage` — the page of a track, cut at its data block;
    * `game_script_ends` — the script ends at the end tag that is written behind it, but
      for the tracks whose texts hide that tag: their script never ends on the page. -/

namespace RobotMaze.Web

open Html (blockOpening guardTags scriptEnd untilEnd HidesEndTag)
open Html.ScriptState (data)

/-- A request for the game page and the id of the track that it names, if any. -/
structure Request.AsksForGame (r : Request) (requested : Option Int) : Prop where
  route : Route.ofPath? r.path = some (.entrance .game)
  method : r.method = .get
  track : r.queried Text.int64? "trackId" = .ok requested
  logout : ∃ loggedOut, r.queried Text.bool? "logout" = .ok loggedOut

/-- What the game page shows behind its track. -/
def gamePageEnd : List Char := "\n</main>\n</body>\n</html>\n".toList

/-- The game page of a track is what stands before its data block, that block and the end of the
    page. -/
theorem toList_gamePage (notice : String) (t : Track) :
    ∃ before, (Html.page "Game for Devs" none (notice ++ Entrance.trackSection t)).toList
      = before ++ (blockOpening "track-data"
        ++ '>' :: (guardTags t.toJson.chars ++ (scriptEnd ++ gamePageEnd))) := by
  have hpieces : ∀ front heading preview block : String,
      (front ++ (notice ++ (heading ++ preview ++ "\n" ++ block))
          ++ "\n</main>\n</body>\n</html>\n").toList
        = (front ++ (notice ++ (heading ++ preview ++ "\n"))).toList
          ++ (block.toList ++ gamePageEnd) := by
    intro front heading preview block
    simp only [String.toList_append, List.append_assoc]
    rfl
  obtain ⟨before, hpage⟩ : ∃ before, (Html.page "Game for Devs" none
      (notice ++ Entrance.trackSection t)).toList
        = before ++ ((Html.dataBlock "track-data" t.toJson).toList ++ gamePageEnd) :=
    ⟨_, hpieces _ _ _ _⟩
  refine ⟨before, hpage.trans ?_⟩
  rw [Html.toList_dataBlock, List.append_assoc, List.cons_append, List.append_assoc]
  rfl

variable {c : Context} {r : Request} {requested : Option Int} {s : Store} {t : Track}

/-- A track that is picked is shown. -/
theorem answer_of_pickTrack (hr : r.AsksForGame requested)
    (hpick : (Entrance.pickTrack requested c.number).answer s = .ok (some t)) :
    ∃ notice, ((answer c r).run s).1
      = .page (Html.page "Game for Devs" none (notice ++ Entrance.trackSection t)) := by
  obtain ⟨loggedOut, hlogout⟩ := hr.logout
  have hhandler : handlerFor? EntranceRoute.game.handlers r.method = some Entrance.game := by
    rw [hr.method]
    rfl
  have hmethod : r.method ≠ .head := by
    rw [hr.method]
    decide
  refine ⟨Entrance.shownIf (loggedOut == some true) Entrance.loggedOutNotice, ?_⟩
  rw [run_answer_of_entrance hr.route hmethod hhandler, run_respond]
  simp only [Entrance.game]
  rw [run_require_bind hr.track, run_require_bind hlogout, run_bind, run_perform, hpick]
  rfl

/-- Whoever asks for an active track gets it. -/
theorem pickTrack_active (hs : Tracks.Stored s) {row : TrackRow}
    (hrow : row ∈ s.database.activeTracks) (number : Nat) :
    ∃ t, row.read = .ok t
      ∧ (Entrance.pickTrack (some row.id) number).answer s = .ok (some t) := by
  obtain ⟨t, hread, hactive⟩ := hs.getActive_answer hrow
  refine ⟨t, hread, ?_⟩
  have hattempt : (Op.attempt (Tracks.getActive row.id)).answer s = .ok (.ok t) := by
    rw [Op.answer, Op.run_attempt, hactive]
  simp only [Entrance.pickTrack]
  rw [Op.Reads.answer_bind (Op.keeps_attempt (Tracks.keeps_getActive row.id)), hattempt]
  rfl

/-- The script with a track that is picked begins behind its opening tag and ends at the end tag
    that is written for it, if the track's text does not hide that tag.  If it does, the script ends
    nowhere on the page. -/
theorem script_of_pickTrack (hr : r.AsksForGame requested)
    (hpick : (Entrance.pickTrack requested c.number).answer s = .ok (some t)) :
    let text := guardTags t.toJson.chars
    ∃ page before after, ((answer c r).run s).1 = .page page
      ∧ page.toList
          = before ++ (blockOpening "track-data" ++ '>' :: (text ++ (scriptEnd ++ after)))
      ∧ (¬ HidesEndTag text → untilEnd data (text ++ (scriptEnd ++ after))
          = some (text ++ "</script".toList, '>' :: after))
      ∧ (HidesEndTag text → untilEnd data (text ++ (scriptEnd ++ after)) = none) := by
  intro text
  obtain ⟨notice, hanswer⟩ := answer_of_pickTrack hr hpick
  obtain ⟨before, hpage⟩ := toList_gamePage notice t
  obtain ⟨hends, hhidden⟩ :=
    Html.untilEnd_append_scriptEnd (Html.not_infix_guardTags t.toJson.chars) gamePageEnd
  refine ⟨_, before, gamePageEnd, hanswer, hpage, hends, fun h => ?_⟩
  have hnone : untilEnd .escaped gamePageEnd = none := by decide
  rw [hhidden h, hnone]
  rfl

/-- After every run, whoever asks for an active track is shown it; and whatever track is shown, the
    script with it ends at the end tag that is written for it, if and only if the track's text does
    not hide that tag.  If it does, the script ends nowhere on the page. -/
theorem game_script_ends (trail : Trail) (run : List Event)
    (hrun : ∀ e ∈ run, e.now.HasFourDigitYear) (hr : r.AsksForGame requested) :
    let s := (Store.empty trail).after run
    (∀ row ∈ s.database.activeTracks, requested = some row.id →
      ∃ t, row.read = .ok t ∧ (Entrance.pickTrack requested c.number).answer s = .ok (some t))
    ∧ ∀ t, (Entrance.pickTrack requested c.number).answer s = .ok (some t) →
      let text := guardTags t.toJson.chars
      ∃ page before after, ((answer c r).run s).1 = .page page
        ∧ page.toList
            = before ++ (blockOpening "track-data" ++ '>' :: (text ++ (scriptEnd ++ after)))
        ∧ (¬ HidesEndTag text → untilEnd data (text ++ (scriptEnd ++ after))
            = some (text ++ "</script".toList, '>' :: after))
        ∧ (HidesEndTag text → untilEnd data (text ++ (scriptEnd ++ after)) = none) := by
  intro s
  have hs : Tracks.Stored s := (Tracks.stored_empty trail).after hrun
  refine ⟨?_, fun t hpick => script_of_pickTrack hr hpick⟩
  rintro row hrow rfl
  exact pickTrack_active hs hrow c.number

/-- A track of some name is created. -/
def namedRun (name : String) : List Event :=
  [⟨⟨1772366400, 0⟩,
    .tracks (.create ⟨name, Grid.corridor.render, 0, 0, .east, none, none⟩ {})⟩]

/-- Someone plays the first track. -/
def player : Request :=
  { method := .get, path := "/game", query := "trackId=1" }

theorem asksForGame_player : player.AsksForGame (some 1) :=
  ⟨by decide +kernel, rfl, by decide +kernel, none, by decide +kernel⟩

/-- A name that closes the script's tag, and opens a comment with a script and closes it, is
    harmless. -/
theorem game_script_ends_closed :
    let name := "</script><!-- <script> -->"
    let s := (Store.empty .disabled).after (namedRun name)
    let c := siteWith "GFD_SESSION"
    (∀ e ∈ namedRun name, e.now.HasFourDigitYear) ∧ player.AsksForGame (some 1)
      ∧ ∃ (t : Track) (page : String) (before after : List Char), t.name = name
        ∧ ((answer c player).run s).1 = .page page
        ∧ page.toList = before ++ (blockOpening "track-data"
          ++ '>' :: (guardTags t.toJson.chars ++ (scriptEnd ++ after)))
        ∧ untilEnd data (guardTags t.toJson.chars ++ (scriptEnd ++ after))
          = some (guardTags t.toJson.chars ++ "</script".toList, '>' :: after) := by
  intro name s c
  have hrun : ∀ e ∈ namedRun name, e.now.HasFourDigitYear := by decide
  obtain ⟨row, hrow, hid, hname, hread⟩ :
      ∃ row ∈ ((Store.empty .disabled).after
          (namedRun "</script><!-- <script> -->")).database.activeTracks,
        row.id = 1 ∧ row.name = "</script><!-- <script> -->"
        ∧ (row.read.toOption.map fun t => (data.read (guardTags t.toJson.chars)).depth)
          = some .text := by
    decide +kernel
  obtain ⟨hactive, hshown⟩ :=
    game_script_ends (c := c) .disabled (namedRun name) hrun asksForGame_player
  obtain ⟨t, ht, hpick⟩ := hactive row hrow (congrArg some hid.symm)
  obtain ⟨page, before, after, hpage, htext, hends, -⟩ := hshown t hpick
  have hharmless : ¬ HidesEndTag (guardTags t.toJson.chars) := by
    rw [ht] at hread
    have hdepth : (data.read (guardTags t.toJson.chars)).depth = .text := Option.some.inj hread
    rw [← Html.depth_read_eq_script_iff (Html.not_infix_guardTags _), hdepth]
    decide
  exact ⟨hrun, asksForGame_player, t, page, before, after,
    (congrArg Track.name (TrackRow.eq_of_read ht)).trans hname, hpage, htext, hends hharmless⟩

/-- A name that opens a comment with a script and does not close it is stored like any other, and
    the script of its track takes in the rest of the page. -/
theorem game_script_endless :
    let name := "<!--<script>"
    let s := (Store.empty .disabled).after (namedRun name)
    let c := siteWith "GFD_SESSION"
    ∃ (t : Track) (page : String) (before after : List Char), t.name = name
      ∧ ((answer c player).run s).1 = .page page
      ∧ page.toList = before ++ (blockOpening "track-data"
        ++ '>' :: (guardTags t.toJson.chars ++ (scriptEnd ++ after)))
      ∧ untilEnd data (guardTags t.toJson.chars ++ (scriptEnd ++ after)) = none := by
  intro name s c
  have hs : Tracks.Stored s := (Tracks.stored_empty .disabled).after (by decide)
  obtain ⟨row, hrow, hid, hname, hread⟩ :
      ∃ row ∈ ((Store.empty .disabled).after (namedRun "<!--<script>")).database.activeTracks,
        row.id = 1 ∧ row.name = "<!--<script>"
        ∧ (row.read.toOption.map fun t => (data.read (guardTags t.toJson.chars)).depth)
          = some .script := by
    decide +kernel
  obtain ⟨t, ht, hpick⟩ := pickTrack_active hs hrow c.number
  rw [hid] at hpick
  obtain ⟨page, before, after, hpage, htext, -, hhidden⟩ :=
    script_of_pickTrack (c := c) asksForGame_player hpick
  have hhides : HidesEndTag (guardTags t.toJson.chars) := by
    rw [ht] at hread
    exact (Html.depth_read_eq_script_iff (Html.not_infix_guardTags _)).mp (Option.some.inj hread)
  exact ⟨t, page, before, after, (congrArg Track.name (TrackRow.eq_of_read ht)).trans hname,
    hpage, htext, hhidden hhides⟩

end RobotMaze.Web
