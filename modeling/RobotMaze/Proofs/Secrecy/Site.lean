import RobotMaze.Proofs.Secrecy.Handlers

/-! # Passwords on the site

    The site answers two requests that are alike in the same way, and does the
    same to the store as far as can be seen:

    * `Office.UserRoute.twins` — for users, who are shown without their hashes;
    * `Entrance.twinsWhen_logIn` — for logins on which the verdict is the same;
    * `twins_answer` — for any request. -/

namespace RobotMaze

namespace Web

variable {c : Context} {r r' : Request} {m : Method} {p : Principal} {password : String}

/-! ## Users -/

namespace Office

/-- What can be seen of the changes to an account can be seen of those that the back office sent. -/
theorem UserEdit.shown_toChange (e : UserEdit) (currentUsername : String) :
    (e.toChange currentUsername).shown = (e.shown.1.toChange currentUsername, e.shown.2) := rfl

theorem twins_createUser (hr : r.SameHead r')
    (hinput : (r.decode newUserDecoder).map NewUser.shown
      = (r'.decode newUserDecoder).map NewUser.shown) :
    Twins id (createUser c r p) (createUser (c.withFirstPassword password) r' p) := by
  simp only [createUser, hr.actor]
  exact (twins_require hinput).bind fun input input' h =>
    twins_answer (Users.twins_create h _ _ _) fun _ _ => User.toJson_congr

theorem twins_updateUser (hr : r.SameHead r')
    (hedit : (r.decode UserEdit.decoder).map UserEdit.shown
      = (r'.decode UserEdit.decoder).map UserEdit.shown) (id : String) :
    Twins (fun x => x) (updateUser id c r p)
      (updateUser id (c.withFirstPassword password) r' p) := by
  simp only [updateUser, hr.actor]
  refine (blind_require _).bind fun id => (twins_require hedit).bind fun edit edit' h => ?_
  refine (twins_perform (Users.twins_get id)).bind fun current current' hcurrent => ?_
  obtain ⟨passwordHash, rfl⟩ := User.exists_of_withoutHash_eq hcurrent
  -- the change is made up with the name of the account, which can be seen
  have hchange : (edit.toChange current.username).shown
      = (edit'.toChange current.username).shown := by
    rw [UserEdit.shown_toChange, h, ← UserEdit.shown_toChange]
  exact twins_answer (Users.twins_update id hchange _ _ _) fun _ _ => User.toJson_congr

theorem twins_changePassword (hr : r.SameHead r')
    (hpassword : (r.decode newPasswordDecoder).map User.checkPassword
      = (r'.decode newPasswordDecoder).map User.checkPassword) (id : String) :
    Twins (fun x => x) (changePassword id c r p)
      (changePassword id (c.withFirstPassword password) r' p) := by
  simp only [changePassword, hr.actor, done]
  refine (blind_require _).bind fun id => (twins_require hpassword).bind fun _ _ h => ?_
  exact (twins_perform (Users.twins_changePassword id h _ _ _)).bind fun _ _ _ => twins_pure rfl

/-- Users are shown without their hashes, and a password that is supplied for one shows in its
    checks only. -/
theorem UserRoute.twins {route : UserRoute} {handler : Handler}
    (hroute : Route.ofPath? r.path = some (.office (.users route))) (hr : r.SameHead r')
    (hbody : r.SameBody r') (h : (m, handler) ∈ route.handlers) (hm : m = r.method ∨ m = .get) :
    Twins id (handler c r p) (handler (c.withFirstPassword password) r' p) := by
  have hmethod : m ≠ .get → r.method = m := fun hne => (hm.resolve_right hne).symm
  cases route with
  | listing =>
      rcases List.mem_cons.mp h with h | h
      · cases h
        simp only [listUsers, listing_eq hr, hr.queried]
        refine blind_listing.bind fun page => (blind_require _).bind fun search =>
          (blind_require _).bind fun role => ?_
        exact twins_answer (Users.twins_page _ _) fun _ _ => Page.toJson_congr
      · cases List.mem_singleton.mp h
        simp only [Request.SameBody, Request.supply?, hroute, hmethod (by decide)] at hbody
        exact twins_createUser hr hbody
  | search =>
      cases List.mem_singleton.mp h
      simp only [searchUsers, hr.queried]
      exact (blind_require _).bind fun term =>
        twins_answer (Users.twins_search _) fun _ _ => User.list_toJson_congr
  | one id =>
      rcases List.mem_cons.mp h with h | h
      · cases h
        simp only [getUser]
        exact (blind_require _).bind fun id =>
          twins_answer (Users.twins_get id) fun _ _ => User.toJson_congr
      rcases List.mem_cons.mp h with h | h
      · cases h
        simp only [Request.SameBody, Request.supply?, hroute, hmethod (by decide)] at hbody
        exact twins_updateUser hr hbody id
      · cases List.mem_singleton.mp h
        simp only [deleteUser, hr.actor]
        exact (blind_require _).bind fun id => blind_done (Users.blind_delete id _ _) _
  | password id =>
      cases List.mem_singleton.mp h
      simp only [Request.SameBody, Request.supply?, hroute, hmethod (by decide)] at hbody
      exact twins_changePassword hr hbody id
  | reactivation id =>
      cases List.mem_singleton.mp h
      simp only [reactivateUser, hr.actor]
      exact (blind_require _).bind fun id =>
        twins_answer (Users.twins_reactivate id _ _) fun _ _ => User.toJson_congr

end Office

/-! ## Logins -/

namespace Form

theorem fst_shownField (field : String × String) : (shownField field).1 = field.1 := by
  rw [shownField]
  split <;> rfl

/-- The names of the fields are all there. -/
theorem map_fst_shown (f : Form) : f.shown.map Prod.fst = f.map Prod.fst := by
  rw [shown, List.map_map]
  exact List.map_congr_left fun field _ => fst_shownField field

/-- The fields of a name are there without the password as well. -/
theorem filter_shown (f : Form) (name : String) :
    (f.shown.filter fun field => field.1 == name)
      = (f.filter fun field => field.1 == name).map shownField := by
  rw [shown, List.filter_map]
  simp only [Function.comp_def, fst_shownField]

/-- What is not the password reads as it does without it. -/
theorem formText_shown (f : Form) {name : String} (hname : name ≠ "password") :
    Entrance.formText f.shown name = Entrance.formText f name := by
  have hfilter : (f.shown.filter fun field => field.1 == name)
      = f.filter fun field => field.1 == name := by
    rw [filter_shown]
    refine (List.map_congr_left fun field hfield => ?_).trans (List.map_id _)
    have hfield : field.1 = name := by simpa using (List.mem_filter.mp hfield).2
    rw [shownField, if_neg (by simpa [hfield] using hname)]
    rfl
  simp only [Entrance.formText, read, hfilter, map_fst_shown]

/-- Whether a text can be read at all does not depend on the password. -/
theorem map_formText_shown (f : Form) (name : String) :
    (Entrance.formText f.shown name).map (fun _ => ())
      = (Entrance.formText f name).map fun _ => () := by
  simp only [Entrance.formText, read, filter_shown, map_fst_shown]
  generalize (f.filter fun field => field.1 == name) = fields
  match fields with
  | [] => rfl
  | [field] => rfl
  | first :: second :: rest => rfl

/-- Forms that look the same hold one attempt to log in, apart from the password. -/
theorem map_attempt (h : r.form.map shown = r'.form.map shown) :
    r.attempt.map Prod.fst = r'.attempt.map Prod.fst := by
  simp only [Request.attempt]
  rcases map_eq_map_iff.mp h with ⟨e, hr, hr'⟩ | ⟨form, form', hr, hr', hshown⟩
  · rw [hr, hr']
  have husername : Entrance.formText form "username" = Entrance.formText form' "username" := by
    rw [← form.formText_shown (by decide), hshown, form'.formText_shown (by decide)]
  have hpassword : (Entrance.formText form "password").map (fun _ => ())
      = (Entrance.formText form' "password").map fun _ => () := by
    rw [← form.map_formText_shown, hshown, form'.map_formText_shown]
  rw [hr, hr']
  show (Entrance.formText form "username" >>= fun _ => _ : Except Refusal _).map Prod.fst
    = (Entrance.formText form' "username" >>= fun _ => _ : Except Refusal _).map Prod.fst
  rw [husername]
  refine map_bind_congr fun username => ?_
  -- the passwords may differ, but both are there, or both are missing or doubled
  rcases map_eq_map_iff.mp hpassword with ⟨e, hp, hp'⟩ | ⟨p, p', hp, hp', -⟩
  · rw [hp, hp']
  · rw [hp, hp']
    rfl

end Form

namespace Entrance

/-- The answer to an attempt to log in. -/
def concluded (c : Context) : Except Failure (User × LoginSession) → Handling Response
  | .ok (_, session) =>
      require (withCookie (.redirect dashboardPath)
        (Cookie.set c.cookieName session.token (c.loginSeconds * 1000)
          c.settings.auth.secureCookie))
  | .error f =>
      match f.category with
      | .credentials => return .redirect "/login?error=true"
      | .hashing => return .redirect "/login?error=true"
      | .token => return .redirect "/login?error=true"
      | category => throw (.ofCategory category f.message)

/-- A login is an attempt with what the form holds. -/
theorem logIn_eq : logIn c r = require r.attempt >>= fun (username, password) =>
    perform (Op.attempt (Logins.logIn username password c.token c.loginSeconds
      (r.client.actor none) c.now)) >>= concluded c := by
  simp only [logIn, Request.attempt]
  cases r.form with
  | error e => rfl
  | ok form =>
      show (require (formText form "username") >>= fun _ => _ : Handling Response)
        = require (formText form "username" >>= fun _ => _ : Except Refusal _) >>= _
      cases formText form "username" with
      | error e => rfl
      | ok username => cases formText form "password" <;> rfl

/-- The answer does not depend on the account, but on its login. -/
theorem twins_concluded {x x' : Except Failure (User × LoginSession)}
    (h : x.map (Prod.map User.withoutHash id) = x'.map (Prod.map User.withoutHash id)) :
    Twins id (concluded c x) (concluded (c.withFirstPassword password) x') := by
  rcases map_eq_map_iff.mp h with ⟨e, rfl, rfl⟩ | ⟨⟨u, session⟩, ⟨u', session'⟩, rfl, rfl, hsame⟩
  · have hblind : Blind (concluded c (.error e)) := by
      simp only [concluded]
      grind
    exact hblind
  · obtain rfl : session = session' := congrArg Prod.snd hsame
    exact blind_require _

/-- Logins are twins where the passwords have one verdict. -/
theorem twinsWhen_logIn (hroute : Route.ofPath? r.path = some (.entrance .login))
    (hmethod : r.method = .post) (hr : r.SameHead r')
    (hform : r.form.map Form.shown = r'.form.map Form.shown) :
    TwinsWhen (fun s t => r.verdict s = r'.verdict t) id (logIn c r)
      (logIn (c.withFirstPassword password) r') := by
  have hsupply : r.supply? = some .login := by
    simp only [Request.supply?, hroute, hmethod]
  have hsupply' : r'.supply? = some .login := by
    simp only [Request.supply?, hr.path, hr.method, hroute, hmethod]
  rw [logIn_eq, logIn_eq, hr.client]
  rcases map_eq_map_iff.mp (Form.map_attempt hform)
    with ⟨e, htry, htry'⟩ | ⟨⟨username, p⟩, ⟨username', p'⟩, htry, htry', hnames⟩
  · rw [htry, htry']
    exact .done rfl
  obtain rfl : username = username' := hnames
  have hverdict : (fun s t => r.verdict s = r'.verdict t) = fun s t : Store =>
      Users.verdict (Text.trim username) p s.database
        = Users.verdict (Text.trim username) p' t.database := by
    simp only [Request.verdict, hsupply, hsupply', htry, htry']
  rw [htry, htry', hverdict]
  show TwinsWhen _ id
    (perform (Op.attempt (Logins.logIn username p c.token c.loginSeconds (r.client.actor none)
      c.now)) >>= concluded c)
    (perform (Op.attempt (Logins.logIn username p' c.token c.loginSeconds (r.client.actor none)
      c.now)) >>= concluded (c.withFirstPassword password))
  exact TwinsWhen.bind (twinsWhen_perform (Op.twinsWhen_attempt
    (Logins.twinsWhen_logIn username p p' _ _ _ _))) fun _ _ hx => twins_concluded hx

end Entrance

/-! ## All requests -/

/-- An address that anybody may call. -/
theorem twins_openAnswer {guard : Store → Store → Prop} {handlers : List (Method × Handler)}
    (hr : r.SameHead r')
    (h : ∀ m handler, (m, handler) ∈ handlers → m = r.method ∨ m = .get →
      TwinsWhen guard id (handler c r) (handler (c.withFirstPassword password) r')) :
    Steps.Twins Store.withoutHashes (Response.Alike r.body r'.body) guard (openAnswer handlers c r)
      (openAnswer handlers (c.withFirstPassword password) r') := by
  simp only [openAnswer, hr.method]
  cases hfound : handlerFor? handlers r.method with
  | none => exact .done (.refl _)
  | some handler =>
      obtain ⟨m, hm, hmem⟩ := exists_of_handlerFor? hfound
      exact TwinsWhen.respond hr (h m handler hmem hm)

/-- Who is let in does not depend on hashes. -/
theorem twins_gate (hr : r.SameHead r') {inside inside' : Principal → Steps Store Response}
    (h : ∀ p, Steps.Twins Store.withoutHashes (Response.Alike r.body r'.body) (fun _ _ => True)
      (inside p) (inside' p)) :
    Steps.Twins Store.withoutHashes (Response.Alike r.body r'.body) (fun _ _ => True)
      (gate c r inside) (gate (c.withFirstPassword password) r' inside') := by
  have hcookie : r'.token? (c.withFirstPassword password).cookieName = r.token? c.cookieName :=
    hr.token? c.cookieName
  simp only [gate, hcookie, hr.path]
  cases r.token? c.cookieName with
  | none => exact .done (.refl _)
  | some token =>
      refine Steps.Twins.bind (Logins.blind_resolve token c.now) fun x x' hx => ?_
      obtain rfl := map_id_eq.mp hx
      match x with
      | .error f => exact .done (.refl _)
      | .ok none => exact .done (.refl _)
      | .ok (some p) =>
          show Steps.Twins _ _ _ (if p.role.entersBackOffice then inside p else _)
            (if p.role.entersBackOffice then inside' p else _)
          split
          · exact h p
          · exact .done (.refl _)

/-- The entrance, where nothing but a login asks for a password. -/
theorem twins_entrance {route : EntranceRoute}
    (hroute : Route.ofPath? r.path = some (.entrance route)) (hr : r.SameHead r')
    (hbody : r.SameBody r') :
    Steps.Twins Store.withoutHashes (Response.Alike r.body r'.body)
      (fun s t => r.verdict s = r'.verdict t) (openAnswer route.handlers c r)
      (openAnswer route.handlers (c.withFirstPassword password) r') := by
  refine twins_openAnswer hr fun m handler h hm => ?_
  cases route with
  | home =>
      cases List.mem_singleton.mp h
      exact (twins_pure rfl : Blind (Entrance.home c r)).when
  | game =>
      cases List.mem_singleton.mp h
      rw [Entrance.game_eq hr]
      exact Entrance.blind_game.when
  | login =>
      rcases List.mem_cons.mp h with h | h
      · cases h
        rw [Entrance.loginPage_eq hr]
        exact Entrance.blind_loginPage.when
      · cases List.mem_singleton.mp h
        have hmethod : r.method = .post := (hm.resolve_right (by decide)).symm
        simp only [Request.SameBody, Request.supply?, hroute, hmethod] at hbody
        exact Entrance.twinsWhen_logIn hroute hmethod hr hbody
  | logout =>
      have hlogOut : TwinsWhen (fun s t => r.verdict s = r'.verdict t) id (Entrance.logOut c r)
          (Entrance.logOut (c.withFirstPassword password) r') := by
        rw [Entrance.logOut_eq hr]
        exact Entrance.blind_logOut.when
      rcases List.mem_cons.mp h with h | h
      · cases h
        exact hlogOut
      · cases List.mem_singleton.mp h
        exact hlogOut

/-- The game, which asks for no password. -/
theorem twins_playAnswer {route : PlayRoute}
    (hroute : Route.ofPath? r.path = some (.play route)) (hr : r.SameHead r')
    (hbody : r.SameBody r') :
    Steps.Twins Store.withoutHashes (Response.Alike r.body r'.body) (fun _ _ => True)
      (playAnswer route c r) (playAnswer route (c.withFirstPassword password) r') := by
  simp only [Request.SameBody, Request.supply?, hroute] at hbody
  have hsharing : sharingFields (c.withFirstPassword password).settings.server r'
      = sharingFields c.settings.server r := by
    rw [sharingFields, hr.allowedOrigin?]
    rfl
  simp only [playAnswer, permissions, hr.method, hsharing]
  split
  · exact .done (.refl _)
  · refine Steps.Twins.bind (twins_openAnswer hr fun m handler h _ => ?_) fun _ _ hx => ?_
    · rw [PlayRoute.handler_eq hr hbody password h]
      exact PlayRoute.blind h
    · exact .done (hx.withFields _)

/-- The back office, where only users have passwords. -/
theorem twins_officeAnswer {route : OfficeRoute}
    (hroute : Route.ofPath? r.path = some (.office route)) (hr : r.SameHead r')
    (hbody : r.SameBody r') :
    Steps.Twins Store.withoutHashes (Response.Alike r.body r'.body) (fun _ _ => True)
      (officeAnswer route c r) (officeAnswer route (c.withFirstPassword password) r') := by
  refine twins_gate hr fun p => ?_
  rw [hr.method]
  cases hfound : handlerFor? route.handlers r.method with
  | none => exact .done (.refl _)
  | some handler =>
      obtain ⟨m, hm, h⟩ := exists_of_handlerFor? hfound
      refine TwinsWhen.respond hr ?_
      cases route with
      | users route => exact Office.UserRoute.twins hroute hr hbody h hm
      | page route =>
          rw [Office.PageRoute.handler_eq hr password h]
          exact Office.PageRoute.blind h
      | tracks route =>
          simp only [Request.SameBody, Request.supply?, hroute] at hbody
          rw [Office.TrackRoute.handler_eq hr password hbody h]
          exact Office.TrackRoute.blind h
      | audit route =>
          rw [Office.AuditRoute.handler_eq hr password h]
          exact Office.AuditRoute.blind h
      | figures route =>
          rw [Office.FigureRoute.handler_eq hr password h]
          exact Office.FigureRoute.blind h

/-- Requests that are alike are twins, where logins have one verdict. -/
theorem twins_answer (c : Context) (password : String) (hr : r.SameHead r')
    (hbody : r.SameBody r') :
    Steps.Twins Store.withoutHashes (Response.Alike r.body r'.body)
      (fun s t => r.verdict s = r'.verdict t) (answer c r)
      (answer (c.withFirstPassword password) r') := by
  simp only [answer, hr.path, hr.method]
  cases hroute : Route.ofPath? r.path with
  | none => exact .done (.refl _)
  | some route =>
      -- a request for the head gets what the whole would be, without its body
      refine Steps.Twins.bind (R := Response.Alike r.body r'.body) ?_ fun _ _ hx => ?_
      · cases route with
        | entrance route => exact twins_entrance hroute hr hbody
        | play route => exact (twins_playAnswer hroute hr hbody).when
        | office route => exact (twins_officeAnswer hroute hr hbody).when
      · split
        · exact .done hx.withoutBody
        · exact .done hx

end Web

end RobotMaze
