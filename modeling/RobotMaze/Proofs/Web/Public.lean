import RobotMaze.Proofs.Session.Life
import RobotMaze.Proofs.Session.Tracks
import RobotMaze.Proofs.Text.Split
import RobotMaze.Proofs.Web.Handling

/-! # The public game

    Whoever plays needs no account, and can do nothing to the rest of the site:

    * `Request.IsPublic` — the addresses of the game;
    * `PlayRoute.keeps_besideSessions` — no handler of them touches anything but
      game sessions;
    * `Request.PlaysOn` — what may be done to these, and by which requests, and
      `PlayRoute.plays` that no more is done;
    * `answer_of_public` — that is all that a public request does to a store. -/

namespace RobotMaze

/-- All of a store but its game sessions. -/
def Store.withoutSessions (s : Store) :
    Table TrackRow × Table UserRow × Table AuditRow × List LoginRow × Trail :=
  (s.database.tracks, s.database.users, s.database.audit, s.database.logins, s.trail)

/-- What a store holds beside its sessions is not touched with them. -/
theorem besideSessions_withoutSessions : BesideSessions Store.withoutSessions := fun _ _ => rfl

namespace Web

/-- A request to the public game, or to one of its pages. -/
inductive Request.IsPublic (r : Request) : Prop where
  | home (path : r.path = "/")
  | gamePage (path : r.path = "/game")
  | root (path : r.path = "/api/game" ∨ r.path = "/api/track")
  | game (rest : String) (path : r.path = "/api/game/" ++ rest)
  | track (rest : String) (path : r.path = "/api/track/" ++ rest)

/-- What a request of the public game does to the table of game sessions: nothing, or it adds a
    session at the end, or it changes the one session of the id in its path. -/
inductive Request.PlaysOn (r : Request) (t : Table SessionRow) : Table SessionRow → Prop where
  | nothing : PlaysOn r t t
  | opened {new : SessionRow} (method : r.method = .post)
      (path : r.path = "/api/game/session/start" ∨ r.path = "/api/game/session")
      (above : t.lastId < new.id) : PlaysOn r t (t.append new)
  | reported {part id : String} {old new : SessionRow} {before after : List SessionRow}
      (method : r.method = .put) (path : r.path = "/api/game/session/" ++ part)
      (decoded : pathText part = .ok id) (rows : t.rows = before ++ old :: after)
      (old_sessionId : old.sessionId = id) (new_sessionId : new.sessionId = id)
      (id_eq : new.id = old.id) : PlaysOn r t { t with rows := before ++ new :: after }

/-- All that a request has done to a store is what may be done to game sessions. -/
structure Request.OnlyPlays (r : Request) (s t : Store) : Prop where
  users : t.database.users = s.database.users
  tracks : t.database.tracks = s.database.tracks
  logins : t.database.logins = s.database.logins
  audit : t.database.audit = s.database.audit
  trail : t.trail = s.trail
  sessions : r.PlaysOn s.database.sessions t.database.sessions

/-! ## Addresses -/

/-- The parts of a path below a name. -/
theorem split_below (name : String) (hname : '/' ∉ name.toList) (rest : String) :
    Text.split '/' ("/api/" ++ name ++ "/" ++ rest)
      = "" :: "api" :: name :: Text.split '/' rest := by
  have htext : ("/api/" ++ name ++ "/" ++ rest).toList
      = [] ++ '/' :: ("api".toList ++ '/' :: (name.toList ++ '/' :: rest.toList)) := by
    simp only [String.toList_append, List.append_assoc]
    rfl
  simp only [Text.split]
  rw [htext, Text.splitChars_append List.not_mem_nil, Text.splitChars_append (by decide),
    Text.splitChars_append hname, List.map_cons, List.map_cons, List.map_cons,
    String.ofList_toList, String.ofList_toList]

/-- The parts of a path below the games. -/
theorem split_game (rest : String) :
    Text.split '/' ("/api/game/" ++ rest) = "" :: "api" :: "game" :: Text.split '/' rest :=
  split_below "game" (by decide) rest

/-- The parts of a path below the tracks. -/
theorem split_track (rest : String) :
    Text.split '/' ("/api/track/" ++ rest) = "" :: "api" :: "track" :: Text.split '/' rest :=
  split_below "track" (by decide) rest

/-- The path of a request that reaches an address at which something is written. -/
def Request.Reaches (r : Request) : PlayRoute → Prop
  | .startSession => r.path = "/api/game/session/start"
  | .quickSession => r.path = "/api/game/session"
  | .session id => r.path = "/api/game/session/" ++ id
  | _ => True

/-- A path below the games reaches the route that its parts name. -/
theorem reaches_of_game {r : Request} {rest : String} (hpath : r.path = "/api/game/" ++ rest)
    {route : PlayRoute} (h : PlayRoute.ofGamePath? (Text.split '/' rest) = some route) :
    r.Reaches route := by
  -- the rest of the path is what its parts make up
  have hrest : ∀ {parts} text, Text.split '/' rest = parts →
      ['/'].intercalate (parts.map String.toList) = text.toList → rest = text := by
    intro parts text hparts htext
    rw [← String.toList_inj, Text.toList_eq_of_split hparts, htext]
  simp only [PlayRoute.ofGamePath?] at h
  split at h
  case h_3 hparts =>
      obtain rfl := Option.some.inj h
      rw [hrest "session/start" hparts rfl] at hpath
      exact hpath
  case h_4 id _ hparts =>
      split at h
      · cases h
      · obtain rfl := Option.some.inj h
        rw [hrest ("session/" ++ id) hparts (by simp)] at hpath
        rw [Request.Reaches, hpath, ← String.append_assoc]
        rfl
  case h_7 hparts =>
      obtain rfl := Option.some.inj h
      rw [hrest "session" hparts rfl] at hpath
      exact hpath
  case h_9 => cases h
  all_goals
    obtain rfl := Option.some.inj h
    trivial

/-- A public request reaches nothing but the game. -/
theorem route_of_public {r : Request} (h : r.IsPublic) :
    Route.ofPath? r.path = none ∨ Route.ofPath? r.path = some (.entrance .home)
      ∨ Route.ofPath? r.path = some (.entrance .game)
      ∨ ∃ route, Route.ofPath? r.path = some (.play route) ∧ r.Reaches route := by
  cases h with
  | home hpath =>
      rw [hpath]
      exact Or.inr (Or.inl (by decide +kernel))
  | gamePage hpath =>
      rw [hpath]
      exact Or.inr (Or.inr (Or.inl (by decide +kernel)))
  | root hpath =>
      refine Or.inl ?_
      rcases hpath with hpath | hpath
      · rw [hpath]
        decide +kernel
      · rw [hpath]
        decide +kernel
  | game rest hpath =>
      have hroute : Route.ofPath? r.path
          = (PlayRoute.ofGamePath? (Text.split '/' rest)).map .play := by
        rw [hpath, Route.ofPath?, split_game]
        rfl
      cases hfound : PlayRoute.ofGamePath? (Text.split '/' rest) with
      | none => exact Or.inl (by rw [hroute, hfound]; rfl)
      | some route =>
          rw [hfound] at hroute
          exact Or.inr (Or.inr (Or.inr ⟨route, hroute, reaches_of_game hpath hfound⟩))
  | track rest hpath =>
      have hroute : Route.ofPath? r.path
          = (PlayRoute.ofTrackPath? (Text.split '/' rest)).map .play := by
        rw [hpath, Route.ofPath?, split_track]
        rfl
      cases hfound : PlayRoute.ofTrackPath? (Text.split '/' rest) with
      | none => exact Or.inl (by rw [hroute, hfound]; rfl)
      | some route =>
          rw [hfound] at hroute
          refine Or.inr (Or.inr (Or.inr ⟨route, hroute, ?_⟩))
          simp only [PlayRoute.ofTrackPath?] at hfound
          split at hfound <;> simp at hfound
          · subst hfound
            trivial
          · obtain ⟨-, rfl⟩ := hfound
            trivial

/-! ## Handlers -/

namespace Play

variable {γ : Type} {view : Store → γ} {c : Context} {r : Request}

/-- An overview of the tracks changes nothing. -/
theorem keeps_trackOverview : (trackOverview c r).Keeps view := by
  simp only [trackOverview]
  grind

/-- Asking for a random track changes nothing. -/
theorem keeps_randomTrack : (randomTrack c r).Keeps view := by
  simp only [randomTrack]
  grind

/-- Asking for any track changes nothing. -/
theorem keeps_anyTrack : (anyTrack c r).Keeps view := by
  simp only [anyTrack]
  grind

/-- Asking for a track changes nothing. -/
theorem keeps_track (id : String) : (track id c r).Keeps view := by
  simp only [track]
  grind

/-- Asking for a session changes nothing. -/
theorem keeps_session (id : String) : (session id c r).Keeps view := by
  simp only [session]
  grind

/-- Running a program changes nothing. -/
theorem keeps_run : (run c r).Keeps view := by
  simp only [run]
  grind

/-- Asking for figures changes nothing. -/
theorem keeps_figures : (figures c r).Keeps view := by
  simp only [figures, Reports.players]
  grind

theorem keeps_totals : (totals c r).Keeps view := by
  simp only [totals, Games.totals]
  grind

section Sessions

variable (hview : BesideSessions view)
include hview

/-- Starting a game writes to the sessions only. -/
theorem keeps_startSession : (startSession c r).Keeps view := by
  simp only [startSession]
  grind

/-- A game reported at its end writes to the sessions only. -/
theorem keeps_quickSession : (quickSession c r).Keeps view := by
  simp only [quickSession]
  grind

/-- Reporting progress writes to the sessions only. -/
theorem keeps_updateSession (id : String) : (updateSession id c r).Keeps view := by
  simp only [updateSession]
  grind

end Sessions

end Play

section Handlers

variable {c : Context} {r : Request} {route : PlayRoute} {m : Method} {handler : Handler}
  {s : Store}

/-- No handler of the game touches anything but game sessions. -/
theorem PlayRoute.keeps_besideSessions {γ : Type} {view : Store → γ} (hview : BesideSessions view)
    (h : (m, handler) ∈ route.handlers) : (handler c r).Keeps view := by
  cases route with
  | session id =>
      rcases List.mem_cons.mp h with h | h
      · cases h
        exact Play.keeps_session id
      · cases List.mem_singleton.mp h
        exact Play.keeps_updateSession hview id
  | trackOverview => cases List.mem_singleton.mp h; exact Play.keeps_trackOverview
  | randomTrack => cases List.mem_singleton.mp h; exact Play.keeps_randomTrack
  | startSession => cases List.mem_singleton.mp h; exact Play.keeps_startSession hview
  | run => cases List.mem_singleton.mp h; exact Play.keeps_run
  | figures => cases List.mem_singleton.mp h; exact Play.keeps_figures
  | quickSession => cases List.mem_singleton.mp h; exact Play.keeps_quickSession hview
  | totals => cases List.mem_singleton.mp h; exact Play.keeps_totals
  | anyTrack => cases List.mem_singleton.mp h; exact Play.keeps_anyTrack
  | track id => cases List.mem_singleton.mp h; exact Play.keeps_track id

/-- A request that starts or reports a game may open a session. -/
theorem Request.PlaysOn.of_opens {t t' : Table SessionRow} (h : Games.Opens t t')
    (hmethod : r.method = .post)
    (hpath : r.path = "/api/game/session/start" ∨ r.path = "/api/game/session") :
    r.PlaysOn t t' := by
  cases h with
  | nothing => exact .nothing
  | opened habove => exact .opened hmethod hpath habove

/-- A request that reports progress may change its own session. -/
theorem Request.PlaysOn.of_reports {t t' : Table SessionRow} {part id : String}
    {report : ProgressReport} {now : Time.Instant} (ht : t.Numbered)
    (h : Games.Reports id report now t t') (hmethod : r.method = .put)
    (hpath : r.path = "/api/game/session/" ++ part) (hpart : pathText part = .ok id) :
    r.PlaysOn t t' := by
  cases h with
  | nothing => exact .nothing
  | @reported row session next hfound hread hchecked happlied =>
      have hsession := Games.sessionId_of_find hfound hread
      have hnext := ProgressReport.sessionId_applyTo happlied
      obtain ⟨before, after, hrows, hchanged⟩ := ht.exists_rows_changed
        (fun r => next.rowAt r.id) (List.mem_of_find?_eq_some hfound)
      have hrow : row.sessionId = id := by simpa using List.find?_some hfound
      have hplays : r.PlaysOn t
          { t with rows := before ++ next.rowAt row.id :: after } :=
        .reported hmethod hpath hpart hrows hrow (hnext.trans hsession) rfl
      rw [← hchanged] at hplays
      exact hplays

/-- What only reads does nothing to the table of game sessions. -/
theorem leaves_of_keeps {h : Handling Response} (hkeeps : h.Keeps fun s => s.database.sessions) :
    h.Leaves s fun t => r.PlaysOn s.database.sessions t.database.sessions := by
  rw [Handling.Leaves, hkeeps.run]
  exact .nothing

/-- A handler of the game does to the table of game sessions what its request may do. -/
theorem PlayRoute.plays (hreaches : r.Reaches route) (hids : s.database.sessions.Numbered)
    (hmethod : m = r.method ∨ m = .get) (h : (m, handler) ∈ route.handlers) :
    (handler c r).Leaves s fun t => r.PlaysOn s.database.sessions t.database.sessions := by
  cases route with
  | startSession =>
      cases List.mem_singleton.mp h
      have hpost : r.method = .post := (hmethod.resolve_right (by decide)).symm
      simp only [Play.startSession]
      refine leaves_require .nothing fun wanted _ => leaves_perform ?_ fun _ => keeps_pure _
      exact (Games.start_opens _ _ _).imp fun _ _ hopens => .of_opens hopens hpost (.inl hreaches)
  | quickSession =>
      cases List.mem_singleton.mp h
      have hpost : r.method = .post := (hmethod.resolve_right (by decide)).symm
      simp only [Play.quickSession]
      refine leaves_require .nothing fun game _ => leaves_perform ?_ fun _ => keeps_pure _
      exact (Games.recordQuick_opens _ _ _ _ _).imp fun _ _ hopens =>
        .of_opens hopens hpost (.inr hreaches)
  | session part =>
      rcases List.mem_cons.mp h with h | h
      · cases h
        exact leaves_of_keeps (Play.keeps_session part)
      · cases List.mem_singleton.mp h
        have hput : r.method = .put := (hmethod.resolve_right (by decide)).symm
        simp only [Play.updateSession]
        refine leaves_require .nothing fun id hpart => ?_
        refine leaves_require .nothing fun report _ => leaves_perform ?_ fun _ => keeps_pure _
        exact (Games.update_reports _ _).imp fun _ _ hreports =>
          .of_reports hids hreports hput hreaches hpart
  | trackOverview => cases List.mem_singleton.mp h; exact leaves_of_keeps Play.keeps_trackOverview
  | randomTrack => cases List.mem_singleton.mp h; exact leaves_of_keeps Play.keeps_randomTrack
  | run => cases List.mem_singleton.mp h; exact leaves_of_keeps Play.keeps_run
  | figures => cases List.mem_singleton.mp h; exact leaves_of_keeps Play.keeps_figures
  | totals => cases List.mem_singleton.mp h; exact leaves_of_keeps Play.keeps_totals
  | anyTrack => cases List.mem_singleton.mp h; exact leaves_of_keeps Play.keeps_anyTrack
  | track id => cases List.mem_singleton.mp h; exact leaves_of_keeps (Play.keeps_track id)

end Handlers

/-! ## Requests -/

section Requests

variable {c : Context} {r : Request} {s : Store}

/-- An address that anybody may call does nothing, or what one of its handlers does. -/
theorem store_openAnswer (handlers : List (Method × Handler)) :
    ((openAnswer handlers c r).run s).2 = s
      ∨ ∃ m handler, (m = r.method ∨ m = .get) ∧ (m, handler) ∈ handlers
        ∧ ((openAnswer handlers c r).run s).2 = ((handler c r).run s).2 := by
  simp only [openAnswer]
  cases hhandler : handlerFor? handlers r.method with
  | none => exact Or.inl rfl
  | some handler =>
      obtain ⟨m, hm, hmem⟩ := exists_of_handlerFor? hhandler
      exact Or.inr ⟨m, handler, hm, hmem, congrArg Prod.snd (run_respond c r (handler c r) s)⟩

/-- Pages whose handlers only read leave the store as it is. -/
theorem store_openAnswer_of_reads {handlers : List (Method × Handler)}
    (h : ∀ m handler, (m, handler) ∈ handlers → (handler c r).Keeps fun s => s) :
    ((openAnswer handlers c r).run s).2 = s := by
  rcases store_openAnswer (c := c) (r := r) (s := s) handlers with
    hopen | ⟨m, handler, -, hmem, hopen⟩
  · exact hopen
  · exact hopen.trans ((h m handler hmem).run s)

/-- A path that leads nowhere changes nothing. -/
theorem store_answer_of_none (h : Route.ofPath? r.path = none) :
    ((answer c r).run s).2 = s := by
  simp only [answer, h]
  rfl

/-- A path that leads somewhere changes what its route does. -/
theorem store_answer {route : Route} (h : Route.ofPath? r.path = some route) :
    ((answer c r).run s).2 = ((route.answer c r).run s).2 := by
  simp only [answer, h]
  rw [Steps.run_map]

/-- A browser that asks what it may call changes nothing. -/
theorem store_playAnswer (route : PlayRoute) : ((playAnswer route c r).run s).2 = s
    ∨ ((playAnswer route c r).run s).2 = ((openAnswer route.handlers c r).run s).2 := by
  simp only [playAnswer]
  by_cases hoptions : r.method = .options
  · rw [if_pos hoptions]
    exact Or.inl rfl
  · rw [if_neg hoptions]
    rw [Steps.run_map]
    exact Or.inr rfl

theorem keeps_home {γ : Type} {view : Store → γ} : (Entrance.home c r).Keeps view := keeps_pure _

/-- Showing the page of a game changes nothing. -/
theorem keeps_game {γ : Type} {view : Store → γ} : (Entrance.game c r).Keeps view := by
  have hpick : ∀ requested, (Entrance.pickTrack requested c.number).Keeps view := by
    intro requested
    simp only [Entrance.pickTrack]
    grind
  simp only [Entrance.game]
  grind

end Requests

/-- A request that changes nothing plays only. -/
theorem Request.OnlyPlays.refl (r : Request) (s : Store) : r.OnlyPlays s s :=
  ⟨rfl, rfl, rfl, rfl, rfl, .nothing⟩

/-- A request that changes sessions alone, and these as a game may, plays only. -/
theorem Request.OnlyPlays.of_frame {r : Request} {s t : Store}
    (hframe : t.withoutSessions = s.withoutSessions)
    (hplays : r.PlaysOn s.database.sessions t.database.sessions) : r.OnlyPlays s t := by
  simp only [Store.withoutSessions, Prod.mk.injEq] at hframe
  obtain ⟨htracks, husers, haudit, hlogins, htrail⟩ := hframe
  exact ⟨husers, htracks, hlogins, haudit, htrail, hplays⟩

/-- After every schedule a request to the public game leaves all of the store but its game sessions
    as it is; and of the game sessions it adds one or changes the one in its path,
    if it is of the method for that. -/
theorem answer_of_public {r : Request} (hr : r.IsPublic) (c : Context) (trail : Trail)
    (run : List Event) (schedule : List Turn) :
    let s := ((Store.empty trail).after run).shared schedule
    r.OnlyPlays s ((answer c r).run s).2 := by
  intro s
  have hids : s.database.sessions.Numbered := (onTracks_shared trail run schedule).2.1
  have hnothing : ((answer c r).run s).2 = s → r.OnlyPlays s ((answer c r).run s).2 := by
    intro hsame
    rw [hsame]
    exact .refl r s
  rcases route_of_public hr with hroute | hroute | hroute | ⟨route, hroute, hreaches⟩
  · exact hnothing (store_answer_of_none hroute)
  · refine hnothing ((store_answer hroute).trans (store_openAnswer_of_reads fun m handler h => ?_))
    cases List.mem_singleton.mp h
    exact keeps_home
  · refine hnothing ((store_answer hroute).trans (store_openAnswer_of_reads fun m handler h => ?_))
    cases List.mem_singleton.mp h
    exact keeps_game
  · rcases store_playAnswer (c := c) (r := r) (s := s) route with hplay | hplay
    · exact hnothing ((store_answer hroute).trans hplay)
    rcases store_openAnswer (c := c) (r := r) (s := s) route.handlers with
      hopen | ⟨m, handler, hmethod, hmem, hopen⟩
    · exact hnothing ((store_answer hroute).trans (hplay.trans hopen))
    rw [(store_answer hroute).trans (hplay.trans hopen)]
    exact .of_frame ((route.keeps_besideSessions besideSessions_withoutSessions hmem).run s)
      (route.plays hreaches hids hmethod hmem)

/-- Someone starts to play on the first track. -/
def visitRequest : Request :=
  { method := .post
    path := "/api/game/session/start"
    fields := [("content-type", "application/json")]
    body := "\x7b\"trackId\": 1\x7d" }

/-- One session is there then. -/
theorem answer_of_public_visit :
    let c : Context := { explanations := default, hashing := ⟨4, [17]⟩, now := ⟨1772366460, 0⟩,
                         sessionId := "visit", token := "", number := 0 }
    let s := ((Store.empty .disabled).after Games.oneTrack).shared []
    visitRequest.IsPublic ∧ visitRequest.OnlyPlays s ((answer c visitRequest).run s).2
      ∧ s.database.sessions.rows = []
      ∧ ((answer c visitRequest).run s).2.database.sessions.rows.map SessionRow.sessionId
        = ["visit"] := by
  intro c s
  have hpublic : visitRequest.IsPublic := .game "session/start" (by decide +kernel)
  exact ⟨hpublic, answer_of_public hpublic c .disabled Games.oneTrack [], by decide +kernel,
    by decide +kernel⟩

end Web

end RobotMaze
