import RobotMaze.Proofs.Secrecy.Requests
import RobotMaze.Proofs.Web.Public

/-! # Handlers that ask for no password

    Most handlers neither ask for a password nor show anything of a hash.  To two
    requests with one body they do the same:

    * `Play.blind_startSession`, `Office.blind_dashboardPage`, … — a handler to
      which it makes no difference which hashes there are;
    * `PlayRoute.blind`, `Office.TrackRoute.blind`, … — so are all handlers of an
      address, and `PlayRoute.handler_eq`, … that they do not look at the password of the
      first account, nor at how long a body is said to be. -/

namespace RobotMaze.Web

variable {c : Context} {r r' : Request} {m : Method} {p : Principal}

/-! ## The game -/

section Play

variable {handler : Handler} {route : PlayRoute}

/-- A handler of the game looks at no hash. -/
theorem PlayRoute.blind (h : (m, handler) ∈ route.handlers) : Blind (handler c r) := by
  cases route with
  | trackOverview =>
      cases List.mem_singleton.mp h
      simp only [Play.trackOverview]
      grind
  | randomTrack =>
      cases List.mem_singleton.mp h
      simp only [Play.randomTrack]
      grind
  | startSession =>
      cases List.mem_singleton.mp h
      simp only [Play.startSession]
      grind
  | session id =>
      rcases List.mem_cons.mp h with h | h
      · cases h
        simp only [Play.session]
        grind
      · cases List.mem_singleton.mp h
        simp only [Play.updateSession]
        grind
  | run =>
      cases List.mem_singleton.mp h
      simp only [Play.run]
      grind
  | figures =>
      cases List.mem_singleton.mp h
      simp only [Play.figures]
      grind
  | quickSession =>
      cases List.mem_singleton.mp h
      simp only [Play.quickSession]
      grind
  | totals =>
      cases List.mem_singleton.mp h
      simp only [Play.totals]
      grind
  | anyTrack =>
      cases List.mem_singleton.mp h
      simp only [Play.anyTrack]
      grind
  | track id =>
      cases List.mem_singleton.mp h
      simp only [Play.track]
      grind

/-- A handler of the game does not look at the first account's password, nor at how long a body is
    said to be. -/
theorem PlayRoute.handler_eq (hr : r.SameHead r') (hbody : r'.body = r.body) (password : String)
    (h : (m, handler) ∈ route.handlers) :
    handler (c.withFirstPassword password) r' = handler c r := by
  cases route with
  | session id =>
      rcases List.mem_cons.mp h with h | h
      · cases h
        rfl
      · cases List.mem_singleton.mp h
        simp only [Play.updateSession, hr.decode hbody]
        rfl
  | randomTrack =>
      cases List.mem_singleton.mp h
      simp only [Play.randomTrack, hr.queried]
      rfl
  | startSession =>
      cases List.mem_singleton.mp h
      simp only [Play.startSession, hr.decode hbody, hr.client]
      rfl
  | run =>
      cases List.mem_singleton.mp h
      simp only [Play.run, hr.decode hbody]
  | quickSession =>
      cases List.mem_singleton.mp h
      simp only [Play.quickSession, hr.decode hbody, hr.client]
      rfl
  | _ =>
      cases List.mem_singleton.mp h
      rfl

end Play

/-! ## The entrance -/

namespace Entrance

/-- The track for a game is picked without a look at any account. -/
@[grind ←]
theorem blind_pickTrack (requested : Option Int) (number : Nat) :
    Blind (pickTrack requested number) := by
  simp only [pickTrack]
  grind

/-- Whether somebody is logged in is told by the logins. -/
@[grind ←]
theorem blind_isLoggedIn : Blind (isLoggedIn c r) := by
  simp only [isLoggedIn]
  grind

/-- The page of a game is the same over both stores. -/
theorem blind_game : Blind (game c r) := by
  simp only [game]
  grind

/-- The page for logging in is the same over both stores. -/
theorem blind_loginPage : Blind (loginPage c r) := by
  simp only [loginPage]
  grind

/-- Logging out is the same over both stores. -/
theorem blind_logOut : Blind (logOut c r) := by
  simp only [logOut]
  grind

variable (hr : r.SameHead r') (password : String)
include hr

/-- The page of a game does not depend on the first password, nor on a body. -/
theorem game_eq : game (c.withFirstPassword password) r' = game c r := by
  simp only [game, hr.queried]
  rfl

/-- The page for logging in depends neither on the first password nor on a body. -/
theorem loginPage_eq : loginPage (c.withFirstPassword password) r' = loginPage c r := by
  have hcookie : r'.token? (c.withFirstPassword password).cookieName = r.token? c.cookieName :=
    hr.token? c.cookieName
  simp only [loginPage, isLoggedIn, hr.queried, hcookie]
  rfl

/-- Logging out depends neither on the first password nor on a body. -/
theorem logOut_eq : logOut (c.withFirstPassword password) r' = logOut c r := by
  have hcookie : r'.token? (c.withFirstPassword password).cookieName = r.token? c.cookieName :=
    hr.token? c.cookieName
  simp only [logOut, hr.client, hcookie]
  rfl

end Entrance

/-! ## The back office -/

namespace Office

/-- What a listing is asked for is told by the request. -/
@[grind ←]
theorem blind_listing : Blind (listing c r) := by
  simp only [listing]
  grind

@[grind ←]
theorem blind_auditListing : Blind (auditListing c r) := by
  simp only [auditListing]
  grind

/-- The frame of a page tells who is logged in, and no hash. -/
@[grind ←]
theorem blind_showPage (title name body : String) : Blind (showPage c r p title name body) := by
  simp only [showPage]
  grind

/-- The dashboard is the same over both stores. -/
theorem blind_dashboardPage : Blind (dashboardPage c r p) := by
  simp only [dashboardPage]
  grind

/-- The page of tracks is the same over both stores. -/
theorem blind_tracksPage : Blind (tracksPage c r p) := by
  simp only [tracksPage]
  grind

/-- The page of the audit log is the same over both stores. -/
theorem blind_auditPage : Blind (auditPage c r p) := by
  simp only [auditPage]
  grind

/-- The page of figures is the same over both stores. -/
theorem blind_figuresPage : Blind (figuresPage c r p) := by
  simp only [figuresPage]
  grind

theorem blind_designerPage : Blind (designerPage c r p) := by
  simp only [designerPage]
  grind

/-- Of an account the list shows everything but the hash. -/
theorem twins_usersPage : Twins id (usersPage c r p) (usersPage c r p) := by
  simp only [usersPage]
  refine blind_listing.bind fun request => ?_
  refine (twins_perform (Users.twins_page _ _)).bind fun page page' hpage => ?_
  obtain ⟨hcontent, -, htotal, hnumber, -⟩ := Page.mk.inj hpage
  have hcells := congrArg (List.map userCells) hcontent
  rw [List.map_map, List.map_map] at hcells
  replace hcells : page.content.map userCells = page'.content.map userCells := hcells
  rw [hcells, hnumber, htotal]
  exact blind_showPage _ _ _

/-- A page shows nothing of a hash. -/
theorem PageRoute.blind {route : PageRoute} {handler : Handler}
    (h : (m, handler) ∈ route.handlers) : Blind (handler c r p) := by
  cases route with
  | dashboard => cases List.mem_singleton.mp h; exact blind_dashboardPage
  | users => cases List.mem_singleton.mp h; exact twins_usersPage
  | tracks => cases List.mem_singleton.mp h; exact blind_tracksPage
  | audit => cases List.mem_singleton.mp h; exact blind_auditPage
  | figures => cases List.mem_singleton.mp h; exact blind_figuresPage
  | designer => cases List.mem_singleton.mp h; exact blind_designerPage

/-- Whatever is done to tracks is blind. -/
theorem TrackRoute.blind {route : TrackRoute} {handler : Handler}
    (h : (m, handler) ∈ route.handlers) : Blind (handler c r p) := by
  cases route with
  | listing =>
      rcases List.mem_cons.mp h with h | h
      · cases h
        simp only [listTracks]
        grind
      · cases List.mem_singleton.mp h
        simp only [createTrack]
        grind
  | search =>
      cases List.mem_singleton.mp h
      simp only [searchTracks]
      grind
  | levels =>
      cases List.mem_singleton.mp h
      simp only [trackLevels]
      grind
  | exportAll =>
      cases List.mem_singleton.mp h
      simp only [exportTracks]
      grind
  | importOne =>
      cases List.mem_singleton.mp h
      simp only [importTrack]
      grind
  | one id =>
      rcases List.mem_cons.mp h with h | h
      · cases h
        simp only [getTrack]
        grind
      rcases List.mem_cons.mp h with h | h
      · cases h
        simp only [updateTrack]
        grind
      · cases List.mem_singleton.mp h
        simp only [deleteTrack]
        grind
  | reactivation id =>
      cases List.mem_singleton.mp h
      simp only [reactivateTrack]
      grind
  | exportOne id =>
      cases List.mem_singleton.mp h
      simp only [exportTrack]
      grind

/-- Whatever is asked of the audit log is blind. -/
theorem AuditRoute.blind {route : AuditRoute} {handler : Handler}
    (h : (m, handler) ∈ route.handlers) : Blind (handler c r p) := by
  cases route with
  | listing =>
      cases List.mem_singleton.mp h
      simp only [listAudit]
      grind
  | search =>
      cases List.mem_singleton.mp h
      simp only [searchAudit]
      grind
  | exportAll =>
      cases List.mem_singleton.mp h
      simp only [exportAudit]
      grind
  | one id =>
      cases List.mem_singleton.mp h
      simp only [getAudit]
      grind

/-- Whatever figures are asked for, they are blind. -/
theorem FigureRoute.blind {route : FigureRoute} {handler : Handler}
    (h : (m, handler) ∈ route.handlers) : Blind (handler c r p) := by
  cases route with
  | complete =>
      cases List.mem_singleton.mp h
      simp only [completeFigures]
      grind
  | exportAll =>
      have hfigures : ∀ format days, Blind (savedFigures format days c) := fun format days => by
        simp only [savedFigures]
        grind
      cases List.mem_singleton.mp h
      simp only [exportFigures]
      grind
  | activity =>
      cases List.mem_singleton.mp h
      simp only [recentActivity]
      grind
  | _ =>
      cases List.mem_singleton.mp h
      dsimp only
      grind

/-! ### What the handlers see of a request -/

section Seen

variable (hr : r.SameHead r') (password : String)
include hr

/-- What a listing is asked for is in the head of the request. -/
theorem listing_eq : listing (c.withFirstPassword password) r' = listing c r := by
  simp only [listing, hr.listing]
  rfl

theorem auditListing_eq : auditListing (c.withFirstPassword password) r' = auditListing c r := by
  simp only [auditListing, hr.listing]
  rfl

/-- What the audit log is searched for is in the head of the request. -/
theorem auditSearch_eq : auditSearch r' = auditSearch r := by
  simp only [auditSearch, hr.queried]

/-- A number of days is asked for in the head of the request. -/
theorem queriedDays_eq (standard : UInt32) : queriedDays r' standard = queriedDays r standard := by
  simp only [queriedDays, hr.queried]

/-- Pages depend neither on the first password nor on a body. -/
theorem PageRoute.handler_eq {route : PageRoute} {handler : Handler}
    (h : (m, handler) ∈ route.handlers) :
    handler (c.withFirstPassword password) r' p = handler c r p := by
  cases route with
  | dashboard =>
      cases List.mem_singleton.mp h
      simp only [dashboardPage, showPage, hr.actor]
      rfl
  | users =>
      cases List.mem_singleton.mp h
      simp only [usersPage, showPage, hr.actor, listing_eq hr]
      rfl
  | tracks =>
      cases List.mem_singleton.mp h
      simp only [tracksPage, showPage, hr.actor, listing_eq hr]
      rfl
  | audit =>
      cases List.mem_singleton.mp h
      simp only [auditPage, showPage, hr.actor, auditListing_eq hr]
      rfl
  | figures =>
      cases List.mem_singleton.mp h
      simp only [figuresPage, showPage, hr.actor]
      rfl
  | designer =>
      cases List.mem_singleton.mp h
      simp only [designerPage, showPage, hr.actor]
      rfl

/-- What is done to tracks does not depend on the first password, and the bodies are equal. -/
theorem TrackRoute.handler_eq (hbody : r'.body = r.body) {route : TrackRoute} {handler : Handler}
    (h : (m, handler) ∈ route.handlers) :
    handler (c.withFirstPassword password) r' p = handler c r p := by
  cases route with
  | listing =>
      rcases List.mem_cons.mp h with h | h
      · cases h
        simp only [listTracks, listing_eq hr]
      · cases List.mem_singleton.mp h
        simp only [createTrack, hr.decode hbody, hr.actor]
        rfl
  | search =>
      cases List.mem_singleton.mp h
      simp only [searchTracks, hr.queried]
  | levels =>
      cases List.mem_singleton.mp h
      rfl
  | exportAll =>
      cases List.mem_singleton.mp h
      simp only [exportTracks, hr.queried, hr.actor]
      rfl
  | importOne =>
      cases List.mem_singleton.mp h
      simp only [importTrack, hr.decode hbody, hr.actor]
      rfl
  | one id =>
      rcases List.mem_cons.mp h with h | h
      · cases h
        rfl
      rcases List.mem_cons.mp h with h | h
      · cases h
        simp only [updateTrack, hr.decode hbody, hr.actor]
        rfl
      · cases List.mem_singleton.mp h
        simp only [deleteTrack, hr.actor]
        rfl
  | reactivation id =>
      cases List.mem_singleton.mp h
      simp only [reactivateTrack, hr.actor]
      rfl
  | exportOne id =>
      cases List.mem_singleton.mp h
      simp only [exportTrack, hr.actor]
      rfl

/-- The audit log is asked without the first password and without a body. -/
theorem AuditRoute.handler_eq {route : AuditRoute} {handler : Handler}
    (h : (m, handler) ∈ route.handlers) :
    handler (c.withFirstPassword password) r' p = handler c r p := by
  cases route with
  | listing =>
      cases List.mem_singleton.mp h
      simp only [listAudit, auditListing_eq hr]
  | search =>
      cases List.mem_singleton.mp h
      simp only [searchAudit, auditListing_eq hr, auditSearch_eq hr]
  | exportAll =>
      cases List.mem_singleton.mp h
      simp only [exportAudit, auditSearch_eq hr, hr.actor]
      rfl
  | one id =>
      cases List.mem_singleton.mp h
      rfl

/-- Figures are asked for without the first password and without a body. -/
theorem FigureRoute.handler_eq {route : FigureRoute} {handler : Handler}
    (h : (m, handler) ∈ route.handlers) :
    handler (c.withFirstPassword password) r' p = handler c r p := by
  cases route with
  | complete =>
      cases List.mem_singleton.mp h
      simp only [completeFigures, queriedDays_eq hr]
      rfl
  | exportAll =>
      cases List.mem_singleton.mp h
      simp only [exportFigures, queriedDays_eq hr, hr.queried, hr.actor]
      rfl
  | activity =>
      cases List.mem_singleton.mp h
      simp only [recentActivity, queriedDays_eq hr]
      rfl
  | _ =>
      cases List.mem_singleton.mp h
      rfl

end Seen

end Office

end RobotMaze.Web
